import RecordEditing.Proofs.Value.Loose

/-!
The order of values without its computation: of two numeric values the smaller number comes first, of
two texts that are not both numeric the one whose characters do.
-/
namespace RecordEditing
namespace Json

inductive Below : Json → Json → Prop where
  | number {v w : Json} {x y : Binary64} (first : numeric? v = some x)
      (second : numeric? w = some y) (less : x.value < y.value) : Below v w
  | text {s t : String} (plain : numericText? s = none ∨ numericText? t = none) (less : s < t) :
      Below (.str s) (.str t)

inductive Level : Json → Json → Prop where
  | number {v w : Json} {x y : Binary64} (first : numeric? v = some x)
      (second : numeric? w = some y) (same : x.value = y.value) : Level v w
  | text {s : String} (plain : numericText? s = none) : Level (.str s) (.str s)

theorem order?_of_numbers {v w : Json} {x y : Binary64} (first : numeric? v = some x)
    (second : numeric? w = some y) : order? v w = some (x.order y) := by
  simp only [order?, first, second]

theorem order?_of_texts {s t : String} (plain : numericText? s = none ∨ numericText? t = none) :
    order? (.str s) (.str t) = some (compare s t) := by
  rw [order?, numeric?, numeric?]
  rcases plain with plain | plain
  · rw [plain]
  · rw [plain]
    cases numericText? s <;> rfl

theorem order?_cases {v w : Json} {place : Ordering} (ordered : order? v w = some place) :
    (∃ x y, numeric? v = some x ∧ numeric? w = some y ∧ x.order y = place) ∨
      ∃ s t, v = .str s ∧ w = .str t ∧ (numericText? s = none ∨ numericText? t = none) ∧
        compare s t = place := by
  unfold order? at ordered
  split at ordered
  · next x y first second => exact Or.inl ⟨x, y, first, second, Option.some.inj ordered⟩
  · next apart =>
    split at ordered
    · next s t =>
      refine Or.inr ⟨s, t, rfl, rfl, ?_, Option.some.inj ordered⟩
      cases first : numericText? s with
      | none => exact Or.inl rfl
      | some x =>
        cases second : numericText? t with
        | none => exact Or.inr rfl
        | some y => exact (apart x y first second).elim
    · cases ordered

theorem order?_eq_lt_iff {v w : Json} : order? v w = some .lt ↔ Below v w := by
  constructor
  · intro ordered
    obtain ⟨x, y, first, second, less⟩ | ⟨s, t, rfl, rfl, plain, less⟩ := order?_cases ordered
    · exact .number first second (Int.compare_eq_lt.mp less)
    · exact .text plain (compareOfLessAndEq_eq_lt.mp less)
  · rintro (⟨first, second, less⟩ | ⟨plain, less⟩)
    · rw [order?_of_numbers first second]
      exact congrArg some (Int.compare_eq_lt.mpr less)
    · rw [order?_of_texts plain]
      exact congrArg some (compareOfLessAndEq_eq_lt.mpr less)

theorem order?_eq_eq_iff {v w : Json} : order? v w = some .eq ↔ Level v w := by
  constructor
  · intro ordered
    obtain ⟨x, y, first, second, same⟩ | ⟨s, t, rfl, rfl, plain, same⟩ := order?_cases ordered
    · exact .number first second (Std.LawfulEqOrd.eq_of_compare same)
    · obtain rfl : s = t := Std.LawfulEqOrd.eq_of_compare same
      exact .text (or_self_iff.mp plain)
  · rintro (⟨first, second, same⟩ | plain)
    · rw [order?_of_numbers first second]
      exact congrArg some (Std.LawfulEqOrd.compare_eq_iff_eq.mpr same)
    · rw [order?_of_texts (Or.inl plain)]
      exact congrArg some Std.ReflCmp.compare_self

end Json

theorem order?_eq_some_iff {a b : Option Json} {place : Ordering} :
    order? a b = some place ↔ ∃ v w, a = some v ∧ b = some w ∧ v.order? w = some place := by
  cases a with
  | none => exact iff_of_false nofun nofun
  | some v =>
    cases b with
    | none => exact iff_of_false nofun nofun
    | some w =>
      constructor
      · exact fun ordered => ⟨v, w, rfl, rfl, ordered⟩
      · rintro ⟨_, _, here, there, ordered⟩
        cases here
        cases there
        exact ordered

end RecordEditing
