import RecordEditing.Store.Insertion

/-!
What sorting by insertion gives. Where the comparison is an order, in which several items may have the
same place, the sorted list is the only one that has the same items, in order, and the items of one
place as they came.
-/
namespace RecordEditing

variable {α : Type}

theorem insertBack_congr {less other : α → α → Bool} {x : α} {ys : List α}
    (agree : ∀ y ∈ ys, less x y = other x y) : insertBack less x ys = insertBack other x ys := by
  induction ys with
  | nil => rfl
  | cons y ys ih =>
    obtain ⟨first, later⟩ := List.forall_mem_cons.mp agree
    rw [insertBack, insertBack, first, ih later]

theorem insertionSort_congr {less other : α → α → Bool} {xs : List α}
    (agree : ∀ x ∈ xs, ∀ y ∈ xs, less x y = other x y) :
    insertionSort less xs = insertionSort other xs := by
  have run : ∀ items sorted : List α, (∀ x ∈ items, x ∈ xs) → (∀ y ∈ sorted, y ∈ xs) →
      items.foldl (fun sorted x => insertBack less x sorted) sorted =
        items.foldl (fun sorted x => insertBack other x sorted) sorted := by
    intro items
    induction items with
    | nil => exact fun _ _ _ => rfl
    | cons x items ih =>
      intro sorted given placed
      obtain ⟨first, later⟩ := List.forall_mem_cons.mp given
      rw [List.foldl_cons, List.foldl_cons,
        insertBack_congr fun y member => agree x first y (placed y member)]
      apply ih _ later
      intro y member
      rcases List.mem_cons.mp ((insertBack_perm other x sorted).mem_iff.mp member) with rfl | there
      · exact first
      · exact placed y there
  exact congrArg List.reverse (run xs [] (fun _ member => member) nofun)

/-- A list with the same items, in order, and with the items of each place in the order in which they
came. -/
structure StablySorted (cmp : α → α → Ordering) (xs sorted : List α) : Prop where
  perm : sorted.Perm xs
  ordered : sorted.Pairwise fun x y => (cmp x y).isLE = true
  steady : ∀ x ∈ xs, sorted.filter (cmp x · == .eq) = xs.filter (cmp x · == .eq)

variable {cmp : α → α → Ordering} [Std.TransCmp cmp]

theorem filter_insertBack (z x : α) (ys : List α) :
    (insertBack (cmp · · == .lt) x ys).filter (cmp z · == .eq) =
      (x :: ys).filter (cmp z · == .eq) := by
  induction ys with
  | nil => rfl
  | cons y ys ih =>
    unfold insertBack
    split
    · next before =>
      -- An item is only moved past those that come after it, and so none of its own place.
      have apart : cmp z x = .eq → cmp z y ≠ .eq := by
        intro same
        rw [Std.TransCmp.congr_left same, beq_iff_eq.mp before]
        decide
      rw [List.filter_cons, ih]
      by_cases same : cmp z x = .eq
      · simp [same, apart same]
      · simp [same, List.filter_cons]
    · rfl

theorem filter_insertionSort (z : α) (xs : List α) :
    (insertionSort (cmp · · == .lt) xs).filter (cmp z · == .eq) = xs.filter (cmp z · == .eq) := by
  have run : ∀ sorted : List α,
      (xs.foldl (fun sorted x => insertBack (cmp · · == .lt) x sorted) sorted).filter
          (cmp z · == .eq) = (xs.reverse ++ sorted).filter (cmp z · == .eq) := by
    induction xs with
    | nil => exact fun _ => rfl
    | cons x xs ih =>
      intro sorted
      rw [List.foldl_cons, ih, List.filter_append, filter_insertBack, List.reverse_cons,
        List.append_assoc, List.filter_append, List.singleton_append]
  unfold insertionSort
  rw [List.filter_reverse, run, List.append_nil, ← List.filter_reverse, List.reverse_reverse]

theorem ordered_insertBack (x : α) {ys : List α}
    (ordered : ys.Pairwise fun y z => (cmp z y).isLE = true) :
    (insertBack (cmp · · == .lt) x ys).Pairwise fun y z => (cmp z y).isLE = true := by
  induction ys with
  | nil => exact List.pairwise_singleton _ x
  | cons y ys ih =>
    obtain ⟨after, later⟩ := List.pairwise_cons.mp ordered
    unfold insertBack
    split
    · next before =>
      refine List.pairwise_cons.mpr ⟨?_, ih later⟩
      intro z member
      rcases List.mem_cons.mp ((insertBack_perm _ x ys).mem_iff.mp member) with rfl | there
      · exact Ordering.isLE_of_eq_lt (beq_iff_eq.mp before)
      · exact after z there
    · next behind =>
      have first : (cmp y x).isLE = true := by
        have turned : cmp y x = (cmp x y).swap := Std.OrientedCmp.eq_swap
        rw [turned]
        cases place : cmp x y with
        | lt => simp [place] at behind
        | eq => rfl
        | gt => rfl
      refine List.pairwise_cons.mpr ⟨?_, ordered⟩
      intro z member
      rcases List.mem_cons.mp member with rfl | there
      · exact first
      · exact Std.TransCmp.isLE_trans (after z there) first

theorem ordered_insertionSort (xs : List α) :
    (insertionSort (cmp · · == .lt) xs).Pairwise fun x y => (cmp x y).isLE = true := by
  have run : ∀ sorted : List α, (sorted.Pairwise fun y z => (cmp z y).isLE = true) →
      (xs.foldl (fun sorted x => insertBack (cmp · · == .lt) x sorted) sorted).Pairwise
        fun y z => (cmp z y).isLE = true := by
    induction xs with
    | nil => exact fun _ ordered => ordered
    | cons x xs ih => exact fun sorted ordered => ih _ (ordered_insertBack x ordered)
  exact List.pairwise_reverse.mpr (run [] .nil)

theorem head_eq_of_ordered {x y : α} {xs ys : List α} (perm : (x :: xs).Perm (y :: ys))
    (ordered : (x :: xs).Pairwise fun x y => (cmp x y).isLE = true)
    (alsoOrdered : (y :: ys).Pairwise fun x y => (cmp x y).isLE = true)
    (steady : (x :: xs).filter (cmp x · == .eq) = (y :: ys).filter (cmp x · == .eq)) : x = y := by
  have least : ∀ {x y : α} {xs : List α}, ((x :: xs).Pairwise fun x y => (cmp x y).isLE = true) →
      y ∈ x :: xs → (cmp x y).isLE = true := by
    intro x y xs ordered member
    rcases List.mem_cons.mp member with rfl | there
    · exact Ordering.isLE_of_eq_eq Std.ReflCmp.compare_self
    · exact (List.pairwise_cons.mp ordered).1 y there
  have self : cmp x x = .eq := Std.ReflCmp.compare_self
  have same : cmp x y = .eq := Std.OrientedCmp.isLE_antisymm
    (least ordered (perm.mem_iff.mpr List.mem_cons_self))
    (least alsoOrdered (perm.mem_iff.mp List.mem_cons_self))
  simp only [List.filter_cons, self, same, beq_self_eq_true, ↓reduceIte] at steady
  exact (List.cons.inj steady).1

theorem eq_of_ordered {xs ys : List α} (perm : xs.Perm ys)
    (ordered : xs.Pairwise fun x y => (cmp x y).isLE = true)
    (alsoOrdered : ys.Pairwise fun x y => (cmp x y).isLE = true)
    (steady : ∀ x ∈ xs, xs.filter (cmp x · == .eq) = ys.filter (cmp x · == .eq)) : xs = ys := by
  induction xs generalizing ys with
  | nil => exact perm.nil_eq
  | cons x xs ih =>
    cases ys with
    | nil => exact perm.eq_nil
    | cons y ys =>
      obtain rfl := head_eq_of_ordered perm ordered alsoOrdered (steady x List.mem_cons_self)
      have tails : xs = ys := by
        apply ih perm.cons_inv ordered.of_cons alsoOrdered.of_cons
        intro z member
        have both := steady z (List.mem_cons_of_mem x member)
        rw [List.filter_cons, List.filter_cons] at both
        split at both
        · exact (List.cons.inj both).2
        · exact both
      rw [tails]

/-- Sorting by insertion is stable, and there is only one way to sort so. -/
theorem stablySorted_iff {xs sorted : List α} :
    StablySorted cmp xs sorted ↔ sorted = insertionSort (cmp · · == .lt) xs := by
  have sorts : StablySorted cmp xs (insertionSort (cmp · · == .lt) xs) :=
    ⟨insertionSort_perm _ xs, ordered_insertionSort xs, fun x _ => filter_insertionSort x xs⟩
  constructor
  · intro given
    have perm := given.perm.trans sorts.perm.symm
    apply eq_of_ordered perm given.ordered sorts.ordered
    intro x member
    have came := given.perm.mem_iff.mp member
    rw [given.steady x came, sorts.steady x came]
  · rintro rfl
    exact sorts

end RecordEditing
