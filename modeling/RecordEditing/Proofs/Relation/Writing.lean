import RecordEditing.Relation.Root

/-!
What setters write. A property holds in the end what the last setter says that has it as its target,
and without such a setter it is left alone. So setters with different targets do not disturb each
other.
-/
namespace RecordEditing
namespace Setter

variable {write : Assignment → Except RelationError (String × Json)} {setters : List Setter}
  {s : Setter} {target property : String} {value : Json}

structure Writes (write : Assignment → Except RelationError (String × Json)) (s : Setter)
    (target : String) (value : Json) : Prop where
  named : s.target = some target
  written : ∃ a, s.assignment = .ok a ∧ write a = .ok (target, value)

/-- The last of the setters that have the property as their target. -/
def last? (setters : List Setter) (property : String) : Option Setter :=
  setters.reverse.find? fun s => s.target == some property

theorem last?_cons (s : Setter) (rest : List Setter) (property : String) :
    last? (s :: rest) property =
      (last? rest property).or (if s.target = some property then some s else none) := by
  unfold last?
  rw [List.reverse_cons, List.find?_append, List.find?_singleton]
  simp only [beq_iff_eq]

theorem last?_eq_none_iff :
    last? setters property = none ↔ some property ∉ setters.map Setter.target := by
  unfold last?
  rw [List.find?_eq_none]
  simp

theorem last?_eq_some (found : last? setters property = some s) :
    s ∈ setters ∧ s.target = some property := by
  have named := List.find?_some found
  exact ⟨List.mem_reverse.mp (List.mem_of_find?_eq_some found), beq_iff_eq.mp named⟩

theorem last?_of_nodup (apart : (setters.map Setter.target).Nodup) (member : s ∈ setters)
    (named : s.target = some property) : last? setters property = some s := by
  induction setters with
  | nil => cases member
  | cons first rest ih =>
    obtain ⟨new, restApart⟩ := List.nodup_cons.mp apart
    rw [last?_cons]
    rcases List.mem_cons.mp member with rfl | inRest
    · rw [named] at new
      rw [last?_eq_none_iff.mpr new, if_pos named]
      rfl
    · rw [ih restApart inRest]
      rfl

theorem writeAll_ok
    (sound : ∀ s ∈ setters, ∃ a pair, s.assignment = .ok a ∧ write a = .ok pair) (r : Record) :
    (writeAll write setters r).result = .ok () := by
  induction setters generalizing r with
  | nil => rfl
  | cons s rest ih =>
    obtain ⟨a, pair, assigned, written⟩ := sound s (by simp)
    simp only [writeAll, assigned, written]
    exact ih (fun x member => sound x (List.mem_cons_of_mem s member)) _

theorem writeAll_provider (r : Record) : (writeAll write setters r).record.provider = r.provider := by
  induction setters generalizing r with
  | nil => rfl
  | cons s rest ih =>
    unfold writeAll
    split
    · rfl
    · split
      · rfl
      · exact ih _

theorem writeAll_cons (writes : s.Writes write target value) (r : Record) :
    writeAll write (s :: setters) r = writeAll write setters (r.set target value) := by
  obtain ⟨a, assigned, written⟩ := writes.written
  simp only [writeAll, assigned, written]

theorem get?_writeAll_of_ne (sound : ∀ s ∈ setters, ∃ target value, s.Writes write target value)
    (other : some property ∉ setters.map Setter.target) (r : Record) :
    (writeAll write setters r).record.get? property = r.get? property := by
  induction setters generalizing r with
  | nil => rfl
  | cons s rest ih =>
    obtain ⟨⟨target, value, writes⟩, later⟩ := List.forall_mem_cons.mp sound
    simp only [List.map_cons, List.mem_cons, not_or, writes.named, Option.some.injEq] at other
    rw [writeAll_cons writes, ih later other.2, Record.get?_set_of_ne _ (Ne.symm other.1)]

theorem get?_writeAll_last (sound : ∀ s ∈ setters, ∃ target value, s.Writes write target value)
    (found : last? setters target = some s) (writes : s.Writes write target value) (r : Record) :
    (writeAll write setters r).record.get? target = some value := by
  induction setters generalizing r with
  | nil => cases found
  | cons first rest ih =>
    obtain ⟨⟨_, _, firstWrites⟩, later⟩ := List.forall_mem_cons.mp sound
    rw [last?_cons] at found
    cases again : last? rest target with
    | some other =>
      rw [again] at found
      obtain rfl : other = s := Option.some.inj found
      rw [writeAll_cons firstWrites]
      exact ih later again _
    | none =>
      rw [again, Option.none_or] at found
      obtain ⟨_, same⟩ := Option.ite_none_right_eq_some.mp found
      obtain rfl : first = s := Option.some.inj same
      rw [writeAll_cons writes, get?_writeAll_of_ne later (last?_eq_none_iff.mp again),
        Record.get?_set_self]

theorem get?_writeAll (sound : ∀ s ∈ setters, ∃ target value, s.Writes write target value)
    (apart : (setters.map Setter.target).Nodup) (member : s ∈ setters)
    (writes : s.Writes write target value) (r : Record) :
    (writeAll write setters r).record.get? target = some value :=
  get?_writeAll_last sound (last?_of_nodup apart member writes.named) writes r

end Setter

namespace ParentChild

variable {condition : ParentChild} {parent child : Record}

theorem applyTo_provider :
    (condition.applyTo parent child).record.provider = child.provider := by
  unfold applyTo
  split
  · rfl
  · exact Setter.writeAll_provider child

theorem applyTo_eq_writeAll (nonempty : condition.setters ≠ [])
    (source : parent.provider = condition.source)
    (destination : child.provider = condition.destination) :
    condition.applyTo parent child =
      Setter.writeAll (fromParent parent) condition.setters child := by
  have present : condition.setters.isEmpty = false := by simpa using nonempty
  simp [applyTo, requireSetters, checkProvider, present, source, destination, bind, Except.bind]

theorem copyFrom_eq_writeAll {sibling receiver : Record} (nonempty : condition.setters ≠ [])
    (own : sibling.provider = condition.destination)
    (destination : receiver.provider = condition.destination) :
    condition.copyFrom sibling receiver =
      Setter.writeAll (fromSibling sibling) condition.setters receiver := by
  have present : condition.setters.isEmpty = false := by simpa using nonempty
  simp [copyFrom, requireSetters, checkProvider, present, own, destination, bind, Except.bind]

end ParentChild

namespace RootCondition

variable {condition : RootCondition} {r : Record}

theorem applyTo_provider : (condition.applyTo r).record.provider = r.provider := by
  unfold applyTo
  split
  · rfl
  · exact Setter.writeAll_provider r

theorem applyTo_eq_writeAll (nonempty : condition.setters ≠ []) (own : r.provider = condition.provider) :
    condition.applyTo r = Setter.writeAll literalOnly condition.setters r := by
  have present : condition.setters.isEmpty = false := by simpa using nonempty
  simp [applyTo, requireSetters, checkProvider, present, own, bind, Except.bind]

end RootCondition
end RecordEditing
