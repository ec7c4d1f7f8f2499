/-!
Stable sorting by insertion. The order in which items are compared is part of the result where the
comparison is no order at all.
-/
namespace RecordEditing

variable {α : Type}

/-- Puts an item into a list that is sorted from the last to the first: it goes behind all items
that it does not come before. -/
def insertBack (less : α → α → Bool) (x : α) : List α → List α
  | [] => [x]
  | y :: ys => if less x y then y :: insertBack less x ys else x :: y :: ys

def insertionSort (less : α → α → Bool) (xs : List α) : List α :=
  (xs.foldl (fun sorted x => insertBack less x sorted) []).reverse

theorem insertBack_perm (less : α → α → Bool) (x : α) (xs : List α) :
    (insertBack less x xs).Perm (x :: xs) := by
  induction xs with
  | nil => exact .refl [x]
  | cons y ys ih =>
    by_cases before : less x y = true
    · simp only [insertBack, before, ↓reduceIte]
      exact (ih.cons y).trans (.swap x y ys)
    · simp only [insertBack, before]
      exact .refl (x :: y :: ys)

theorem foldl_insertBack_perm (less : α → α → Bool) (xs sorted : List α) :
    (xs.foldl (fun sorted x => insertBack less x sorted) sorted).Perm (xs ++ sorted) := by
  induction xs generalizing sorted with
  | nil => exact .refl sorted
  | cons x xs ih =>
    exact (ih _).trans (((insertBack_perm less x sorted).append_left xs).trans List.perm_middle)

theorem insertionSort_perm (less : α → α → Bool) (xs : List α) :
    (insertionSort less xs).Perm xs := by
  have := foldl_insertBack_perm less xs []
  rw [List.append_nil] at this
  exact (List.reverse_perm _).trans this

theorem mem_insertionSort {less : α → α → Bool} {y : α} {xs : List α} :
    y ∈ insertionSort less xs ↔ y ∈ xs :=
  (insertionSort_perm less xs).mem_iff

end RecordEditing
