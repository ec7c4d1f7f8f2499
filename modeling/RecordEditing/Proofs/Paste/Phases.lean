import RecordEditing.Container.Paste
import RecordEditing.Proofs.Record.Address

/-!
The two phases of a request. The target, if one is named, is checked and resolved to a destination
to which the record is written; after that the parent named on its own, if any, is checked, fetched
and written. The lemmas here say what each phase has gone through when it succeeds.
-/
namespace RecordEditing
namespace PasteRequest

variable {q : PasteRequest} {clipboard : Clipboard}

theorem valid_of_ref? {parameter : Option String} {ref : RecordRef}
    (h : ref? parameter = .ok (some ref)) : ref.id.Valid := by
  unfold ref? at h
  split at h
  · cases h
  · split at h
    · cases h
    · split at h
      · next text _ _ read =>
        cases h
        exact RecordRef.ofText_valid read
      · cases h

theorem named_eq_some {target : PasteTarget} (h : q.named = .ok (some target)) :
    (∃ ref, target = .into ref ∧ ref? q.into = .ok (some ref)) ∨
      ∃ ref, target = .after ref ∧ ref? q.into = .ok none ∧ ref? q.after = .ok (some ref) := by
  obtain ⟨intoRef, readInto, rest⟩ := bind_eq_ok h
  cases intoRef with
  | some ref =>
    cases rest
    exact Or.inl ⟨ref, rfl, readInto⟩
  | none =>
    obtain ⟨afterRef, readAfter, rest⟩ := bind_eq_ok rest
    cases afterRef with
    | some ref =>
      cases rest
      exact Or.inr ⟨ref, rfl, readInto, readAfter⟩
    | none => cases rest

theorem valid_of_named {target : PasteTarget} (h : q.named = .ok (some target)) :
    target.ref.id.Valid := by
  rcases named_eq_some h with ⟨ref, rfl, read⟩ | ⟨ref, rfl, _, read⟩
  · exact valid_of_ref? read
  · exact valid_of_ref? read

theorem not_circular_of_reject {ref : RecordRef} (h : rejectCircular clipboard ref = .ok ()) :
    clipboard.isCircular ref = false := by
  unfold rejectCircular at h
  split at h
  · cases h
  · next free => simpa using free

theorem target_eq_some {target : PasteTarget} (h : q.target clipboard = .ok (some target)) :
    q.named = .ok (some target) ∧ clipboard.isCircular target.ref = false := by
  obtain ⟨named, isNamed, rest⟩ := bind_eq_ok h
  cases named with
  | none => cases rest
  | some t =>
    obtain ⟨_, free, rest⟩ := bind_eq_ok rest
    cases rest
    exact ⟨isNamed, not_circular_of_reject free⟩

theorem target_eq_none (h : q.target clipboard = .ok none) : q.named = .ok none := by
  obtain ⟨named, isNamed, rest⟩ := bind_eq_ok h
  cases named with
  | none => exact isNamed
  | some t =>
    obtain ⟨_, _, rest⟩ := bind_eq_ok rest
    cases rest

end PasteRequest

namespace Container

variable {c : Container} {store : Store} {clipboard : Clipboard} {q : PasteRequest}

theorem reached_eq_ok {w : Written} {state arrived : PasteState}
    (h : (reached w state).result = .ok arrived) : w.result = .ok () ∧ arrived = state := by
  obtain ⟨_, written, same⟩ := map_eq_ok h
  exact ⟨written, same.symm⟩

theorem reached_failed {w : Written} {state : PasteState} {e : RelationError}
    (h : (reached w state).result = .error e) : w.result = .error e := by
  obtain ⟨record, result⟩ := w
  cases result with
  | error failure =>
    cases h
    rfl
  | ok _ => cases h

theorem recordAt_of_requireAt {ref : RecordRef} {r : Record} (h : requireAt store ref = .ok r) :
    recordAt store ref = .ok (some r) := by
  obtain ⟨found, lookup, rest⟩ := bind_eq_ok h
  cases found with
  | none => cases rest
  | some s =>
    cases rest
    exact lookup

theorem requestedParent_eq_some {parent : Record}
    (h : requestedParent store clipboard q = .ok (some parent)) :
    ∃ ref, PasteRequest.ref? q.parent = .ok (some ref) ∧ clipboard.isCircular ref = false ∧
      recordAt store ref = .ok (some parent) := by
  obtain ⟨named, read, rest⟩ := bind_eq_ok h
  cases named with
  | none => cases rest
  | some ref =>
    obtain ⟨_, free, rest⟩ := bind_eq_ok rest
    obtain ⟨found, lookup, rest⟩ := bind_eq_ok rest
    cases rest
    exact ⟨ref, read, PasteRequest.not_circular_of_reject free, recordAt_of_requireAt lookup⟩

theorem requestedParent_eq_none (h : requestedParent store clipboard q = .ok none) :
    PasteRequest.ref? q.parent = .ok none := by
  obtain ⟨named, read, rest⟩ := bind_eq_ok h
  cases named with
  | none => exact read
  | some ref =>
    obtain ⟨_, _, rest⟩ := bind_eq_ok rest
    obtain ⟨_, _, rest⟩ := bind_eq_ok rest
    cases rest

theorem requested_eq_ok {destination : Destination} (structured : c.basic.mode ≠ .flat)
    (h : c.requested store clipboard q = .ok destination) :
    (q.named = .ok none ∧ destination = .unchanged) ∨
      ∃ target, q.named = .ok (some target) ∧ clipboard.isCircular target.ref = false ∧
        c.destination store target = .ok destination := by
  unfold requested at h
  rw [if_neg structured] at h
  obtain ⟨accepted, isTarget, rest⟩ := bind_eq_ok h
  cases accepted with
  | none =>
    cases rest
    exact Or.inl ⟨PasteRequest.target_eq_none isTarget, rfl⟩
  | some target =>
    obtain ⟨named, free⟩ := PasteRequest.target_eq_some isTarget
    exact Or.inr ⟨target, named, free, rest⟩

theorem requested_of_flat (flat : c.basic.mode = .flat) :
    c.requested store clipboard q = .ok .unchanged := by
  unfold requested
  rw [if_pos flat]

theorem destination_eq_below {target : PasteTarget} {parent : Record}
    (h : c.destination store target = .ok (.below parent)) :
    (∃ ref, target = .into ref ∧ ref.id.isZero = false ∧
      recordAt store ref = .ok (some parent)) ∨
    ∃ ref sibling, target = .after ref ∧ recordAt store ref = .ok (some sibling) ∧
      c.isRoot sibling = false ∧ c.parentOf store sibling = .ok (some parent) := by
  have top : c.topLevel ≠ .below parent := by
    unfold topLevel
    split <;> simp
  cases target with
  | into ref =>
    simp only [destination] at h
    split at h
    · exact absurd (Except.ok.inj h) top
    · next nonzero =>
      obtain ⟨found, lookup, rest⟩ := bind_eq_ok h
      cases rest
      exact Or.inl ⟨ref, rfl, by simpa using nonzero, recordAt_of_requireAt lookup⟩
  | after ref =>
    obtain ⟨found, lookup, rest⟩ := bind_eq_ok h
    cases found with
    | none => exact absurd (Except.ok.inj rest) top
    | some sibling =>
      simp only at rest
      split at rest
      · exact absurd (Except.ok.inj rest) top
      · next nonroot =>
        obtain ⟨found, searched, rest⟩ := bind_eq_ok rest
        cases found with
        | none => exact absurd (Except.ok.inj rest) top
        | some p =>
          cases rest
          exact Or.inr ⟨ref, sibling, rfl, lookup, by simpa using nonroot, searched⟩

theorem paste_eq_ok {r : Record} {state : PasteState}
    (h : (c.paste store clipboard q r).result = .ok state) :
    ∃ destination, c.requested store clipboard q = .ok destination ∧
      (∃ placed, (c.place r destination).result = .ok placed) ∧
      ((requestedParent store clipboard q = .ok none ∧
          c.paste store clipboard q r = c.place r destination) ∨
        ∃ parent, requestedParent store clipboard q = .ok (some parent) ∧
          c.paste store clipboard q r = c.placeBelow parent (c.place r destination).record) := by
  unfold paste at h ⊢
  cases resolved : c.requested store clipboard q with
  | error e => simp [resolved] at h
  | ok destination =>
    simp only [resolved] at h ⊢
    refine ⟨destination, rfl, ?_⟩
    cases written : (c.place r destination).result with
    | error e => simp [written] at h
    | ok placed =>
      simp only [written] at h ⊢
      refine ⟨⟨placed, rfl⟩, ?_⟩
      cases named : requestedParent store clipboard q with
      | error e => simp [named] at h
      | ok parent =>
        cases parent with
        | none => exact Or.inl ⟨rfl, rfl⟩
        | some parent => exact Or.inr ⟨parent, rfl, rfl⟩

end Container
end RecordEditing
