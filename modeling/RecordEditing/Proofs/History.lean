/-!
What was the case since something happened. A history is a list of what happened, first things first.
-/
namespace RecordEditing

variable {α : Type} {P Q : α → Prop} {x : α} {xs : List α}

/-- Something happened, and all that came later was harmless to it. -/
def Since (P Q : α → Prop) (xs : List α) : Prop :=
  ∃ before x after, xs = before ++ x :: after ∧ P x ∧ ∀ y ∈ after, Q y

theorem Since.exists (since : Since P Q xs) : ∃ x ∈ xs, P x := by
  obtain ⟨before, x, after, rfl, happened, _⟩ := since
  exact ⟨x, by simp, happened⟩

theorem not_since_nil : ¬ Since P Q [] := by
  intro since
  obtain ⟨x, member, _⟩ := since.exists
  exact List.not_mem_nil member

theorem since_cons : Since P Q (x :: xs) ↔ (P x ∧ ∀ y ∈ xs, Q y) ∨ Since P Q xs := by
  constructor
  · rintro ⟨before, y, after, split, happened, later⟩
    cases before with
    | nil =>
      obtain ⟨rfl, rfl⟩ := List.cons_eq_cons.mp split
      exact Or.inl ⟨happened, later⟩
    | cons z before =>
      obtain ⟨rfl, rest⟩ := List.cons_eq_cons.mp split
      exact Or.inr ⟨before, y, after, rest, happened, later⟩
  · rintro (⟨happened, later⟩ | ⟨before, y, after, rfl, happened, later⟩)
    · exact ⟨[], x, xs, rfl, happened, later⟩
    · exact ⟨x :: before, y, after, rfl, happened, later⟩

theorem since_snoc : Since P Q (xs ++ [x]) ↔ P x ∨ Since P Q xs ∧ Q x := by
  induction xs with
  | nil => simp [since_cons, not_since_nil]
  | cons y xs ih =>
    rw [List.cons_append, since_cons, since_cons, ih, List.forall_mem_append,
      List.forall_mem_singleton]
    grind

theorem since_congr {R : α → Prop} (same : ∀ x ∈ xs, Q x ↔ R x) : Since P Q xs ↔ Since P R xs := by
  induction xs with
  | nil => simp [not_since_nil]
  | cons x xs ih =>
    obtain ⟨_, rest⟩ := List.forall_mem_cons.mp same
    rw [since_cons, since_cons, ih rest, forall₂_congr rest]

end RecordEditing
