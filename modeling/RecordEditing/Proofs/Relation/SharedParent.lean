import RecordEditing.Proofs.Record.Sorted
import RecordEditing.Proofs.Relation.Atomic

/-!
Beside a sibling. A record that takes over the parent of a sibling becomes what it would have become
below that parent. What a sibling has of its parent was written by the last setter of each property,
and in the record, too, only the last one counts.
-/
namespace RecordEditing

theorem Record.set_comm {first second : String} (ne : first ≠ second) (v w : Json) (r : Record) :
    (r.set first v).set second w = (r.set second w).set first v := by
  unfold Record.set
  rw [Entries.insert_comm ne]

namespace Setter

variable {write other : Assignment → Except RelationError (String × Json)} {setters : List Setter}
  {value otherValue : Setter → Json}

theorem assigned_of_writeAll {r : Record} (ok : (writeAll write setters r).result = .ok ()) :
    ∀ s ∈ setters, ∃ a, s.assignment = .ok a := by
  induction setters generalizing r with
  | nil =>
    intro s member
    cases member
  | cons first rest ih =>
    unfold writeAll at ok
    split at ok
    · cases ok
    · next a assigned =>
      split at ok
      · cases ok
      · exact List.forall_mem_cons.mpr ⟨⟨a, assigned⟩, ih ok⟩

theorem writeAll_overwritten {target : String}
    (sound : ∀ s ∈ setters, ∃ target, s.Writes write target (value s))
    (later : some target ∈ setters.map Setter.target) (v w : Json) (r : Record) :
    writeAll write setters (r.set target v) = writeAll write setters (r.set target w) := by
  induction setters generalizing r with
  | nil => cases later
  | cons s rest ih =>
    obtain ⟨⟨property, writes⟩, soundRest⟩ := List.forall_mem_cons.mp sound
    rw [writeAll_cons writes, writeAll_cons writes]
    by_cases same : target = property
    · rw [same, Record.set_set, Record.set_set]
    · rw [Record.set_comm same, Record.set_comm same]
      apply ih soundRest
      rw [List.map_cons, writes.named, List.mem_cons, Option.some.injEq] at later
      exact later.resolve_left same

theorem writeAll_congr (sound : ∀ s ∈ setters, ∃ target, s.Writes write target (value s))
    (soundOther : ∀ s ∈ setters, ∃ target, s.Writes other target (otherValue s))
    (agree : ∀ property s, last? setters property = some s → value s = otherValue s) (r : Record) :
    writeAll write setters r = writeAll other setters r := by
  induction setters generalizing r with
  | nil => rfl
  | cons s rest ih =>
    obtain ⟨⟨target, writes⟩, soundRest⟩ := List.forall_mem_cons.mp sound
    obtain ⟨⟨aim, writesOther⟩, soundOtherRest⟩ := List.forall_mem_cons.mp soundOther
    obtain rfl : target = aim := Option.some.inj (writes.named.symm.trans writesOther.named)
    have restAgree : ∀ property t, last? rest property = some t → value t = otherValue t := by
      intro property t found
      apply agree property t
      rw [last?_cons, found]
      rfl
    rw [writeAll_cons writes, writeAll_cons writesOther, ih soundRest soundOtherRest restAgree]
    by_cases later : some target ∈ rest.map Setter.target
    · exact writeAll_overwritten soundOtherRest later _ _ r
    · have last : last? (s :: rest) target = some s := by
        rw [last?_cons, last?_eq_none_iff.mpr later, if_pos writes.named]
        rfl
      rw [agree target s last]

/-- If a sibling has what the last setter of each property wrote for the parent, to copy from it is
to write for the parent. -/
theorem writeAll_fromSibling {parent sibling : Record}
    (assigned : ∀ s ∈ setters, ∃ a, s.assignment = .ok a)
    (inherited : ∀ property s, last? setters property = some s →
      sibling.get? property = some (s.ofParent parent)) (r : Record) :
    writeAll (ParentChild.fromSibling sibling) setters r =
      writeAll (ParentChild.fromParent parent) setters r := by
  apply writeAll_congr (fun s member => writes_fromSibling sibling (assigned s member))
    (fun s member => writes_fromParent parent (assigned s member))
  intro property s last
  obtain ⟨member, named⟩ := last?_eq_some last
  obtain ⟨a, ok⟩ := assigned s member
  rcases assignment_cases ok with ⟨target, source, rfl, _⟩ | ⟨target, v, rfl, _⟩
  · obtain rfl : target = property := Option.some.inj named
    change (sibling.get? target).getD .null = _
    rw [inherited target _ last]
    rfl
  · rfl

end Setter

theorem ParentChild.applyTo_eq_ok {condition : ParentChild} {parent child : Record}
    (placed : (condition.applyTo parent child).result = .ok ()) :
    condition.setters ≠ [] ∧ parent.provider = condition.source ∧
      child.provider = condition.destination ∧
        ∀ s ∈ condition.setters, ∃ a, s.assignment = .ok a := by
  unfold applyTo at placed
  split at placed
  · cases placed
  · next checked =>
    rw [seq_eq_ok, seq_eq_ok, checkProvider_eq_ok, checkProvider_eq_ok] at checked
    obtain ⟨required, source, destination⟩ := checked
    refine ⟨?_, source, destination, Setter.assigned_of_writeAll placed⟩
    intro empty
    simp [requireSetters, empty] at required

/-- Where a sibling could be put below a parent, a record of the same provider that takes over the
parent of the sibling becomes the record that it would be below the parent. -/
theorem copyFrom_eq_applyTo {condition : ParentChild} {parent sibling receiver : Record}
    (placed : (condition.applyTo parent sibling).result = .ok ())
    (destination : receiver.provider = condition.destination) :
    (condition.applyTo parent receiver).result = .ok () ∧
      condition.copyFrom (condition.applyTo parent sibling).record receiver =
        condition.applyTo parent receiver := by
  obtain ⟨nonempty, source, own, assigned⟩ := ParentChild.applyTo_eq_ok placed
  have filled : ∀ r, (Setter.writeAll (ParentChild.fromParent parent) condition.setters
      r).AllOrNothing True condition.setters (·.ofParent parent) r := by
    apply Written.allOrNothing_writeAll
    exact fun s member => Setter.writes_fromParent parent (assigned s member)
  rw [ParentChild.applyTo_eq_writeAll nonempty source own,
    ParentChild.applyTo_eq_writeAll nonempty source destination,
    ParentChild.copyFrom_eq_writeAll nonempty ((filled sibling).provider.trans own) destination]
  refine ⟨(filled receiver).accepted.mpr trivial, ?_⟩
  apply Setter.writeAll_fromSibling assigned
  intro property s last
  rw [(filled sibling).written ((filled sibling).accepted.mpr trivial), last]
  rfl

def noteInTurn : ParentChild where
  source := "chapter"
  destination := "note"
  setters := [{ target := some "pid", value := some (.int 0) },
    { target := some "pid", source := some Record.idProperty },
    { target := some "heading", source := some "heading" },
    { target := some "shared", source := some "start" },
    { target := some "shared", value := some (.bool true) }]

theorem copyFrom_eq_applyTo_note :
    (noteInTurn.applyTo chapter (note 9 false)).result = .ok () ∧
      (note 4 false).provider = noteInTurn.destination ∧
        (noteInTurn.applyTo chapter (note 4 false)).result = .ok () ∧
          noteInTurn.copyFrom (noteInTurn.applyTo chapter (note 9 false)).record (note 4 false) =
            noteInTurn.applyTo chapter (note 4 false) := by
  have placed : (noteInTurn.applyTo chapter (note 9 false)).result = .ok () := rfl
  exact ⟨placed, rfl, copyFrom_eq_applyTo placed rfl⟩

end RecordEditing
