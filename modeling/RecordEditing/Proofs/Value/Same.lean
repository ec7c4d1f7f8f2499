import RecordEditing.Value.Truth

/-!
Values that are equal as typed values cannot be told apart by comparing them, typed or loosely. They
need not be identical: zero has two spellings.
-/
namespace RecordEditing

theorem Binary64.value_eq_of_same {x y : Binary64} (equal : x.same y = true) :
    x.value = y.value := by
  unfold same at equal
  exact beq_iff_eq.mp equal

theorem Binary64.same_congr {x y : Binary64} (equal : x.same y = true) (z : Binary64) :
    z.same x = z.same y := by
  unfold same
  rw [value_eq_of_same equal]

theorem Binary64.eq_or_zeros_of_same {x y : Binary64} (equal : x.same y = true) :
    x = y ∨ x.units = 0 ∧ y.units = 0 := by
  obtain ⟨first, m⟩ := x
  obtain ⟨second, n⟩ := y
  have values := value_eq_of_same equal
  unfold value at values
  cases first <;> cases second <;> simp at values ⊢ <;> omega

theorem Binary64.isZero_congr {x y : Binary64} (equal : x.same y = true) :
    x.isZero = y.isZero := by
  rcases eq_or_zeros_of_same equal with rfl | ⟨zero, other⟩
  · rfl
  · unfold isZero
    rw [zero, other]

namespace Number

theorem toBinary64_same {m n : Number} (equal : m.same n = true) :
    m.toBinary64.same n.toBinary64 = true := by
  cases m with
  | int i =>
    cases n with
    | int j =>
      obtain rfl : i = j := beq_iff_eq.mp equal
      exact beq_self_eq_true _
    | float y => cases equal
  | float x =>
    cases n with
    | int j => cases equal
    | float y => exact equal

theorem same_congr {m n : Number} (equal : m.same n = true) (k : Number) :
    k.same m = k.same n := by
  cases m with
  | int i =>
    cases n with
    | int j =>
      obtain rfl : i = j := beq_iff_eq.mp equal
      rfl
    | float y => cases equal
  | float x =>
    cases n with
    | int j => cases equal
    | float y =>
      cases k with
      | int i => rfl
      | float z => exact Binary64.same_congr equal z

end Number

namespace Json

mutual

theorem same_congr {a b : Json} (equal : same a b = true) (v : Json) : same v a = same v b := by
  cases a <;> cases b <;> try cases equal
  · rfl
  · rw [beq_iff_eq.mp (show (_ == _) = true from equal)]
  · cases v with
    | num k => exact Number.same_congr equal k
    | _ => rfl
  · rw [beq_iff_eq.mp (show (_ == _) = true from equal)]
  · cases v with
    | arr zs => exact sameItems_congr equal zs
    | _ => rfl
  · cases v with
    | obj ks => exact sameMembers_congr equal ks
    | _ => rfl

theorem sameItems_congr {xs ys : List Json} (equal : sameItems xs ys = true) (zs : List Json) :
    sameItems zs xs = sameItems zs ys := by
  cases xs with
  | nil =>
    cases ys with
    | nil => rfl
    | cons y ys => cases equal
  | cons x xs =>
    cases ys with
    | nil => cases equal
    | cons y ys =>
      simp only [sameItems, Bool.and_eq_true] at equal
      cases zs with
      | nil => rfl
      | cons z zs =>
        simp only [sameItems]
        rw [same_congr equal.1 z, sameItems_congr equal.2 zs]

theorem sameMembers_congr {ms ns : List (String × Json)} (equal : sameMembers ms ns = true)
    (ks : List (String × Json)) : sameMembers ks ms = sameMembers ks ns := by
  cases ms with
  | nil =>
    cases ns with
    | nil => rfl
    | cons n ns => cases equal
  | cons m ms =>
    cases ns with
    | nil => cases equal
    | cons n ns =>
      obtain ⟨i, x⟩ := m
      obtain ⟨j, y⟩ := n
      simp only [sameMembers, Bool.and_eq_true, beq_iff_eq] at equal
      obtain ⟨⟨rfl, values⟩, rest⟩ := equal
      cases ks with
      | nil => rfl
      | cons k ks =>
        obtain ⟨l, z⟩ := k
        simp only [sameMembers]
        rw [same_congr values z, sameMembers_congr rest ks]

end

theorem isEmpty_eq_of_sameItems {xs ys : List Json} (equal : sameItems xs ys = true) :
    xs.isEmpty = ys.isEmpty := by
  cases xs <;> cases ys <;> try cases equal
  all_goals rfl

theorem isEmpty_eq_of_sameMembers {ms ns : List (String × Json)}
    (equal : sameMembers ms ns = true) : ms.isEmpty = ns.isEmpty := by
  cases ms <;> cases ns <;> try cases equal
  all_goals rfl

theorem isTruthy_congr {a b : Json} (equal : same a b = true) : a.isTruthy = b.isTruthy := by
  cases a <;> cases b <;> try cases equal
  · rfl
  · rw [beq_iff_eq.mp (show (_ == _) = true from equal)]
  · exact congrArg not (Binary64.isZero_congr (Number.toBinary64_same equal))
  · rw [beq_iff_eq.mp (show (_ == _) = true from equal)]
  · exact congrArg not (isEmpty_eq_of_sameItems equal)
  · exact congrArg not (isEmpty_eq_of_sameMembers equal)

theorem isSome_numericText?_zero {x : Binary64} (zero : x.units = 0) :
    (numericText? (String.ofList (Number.text (.float x)))).isSome = true := by
  obtain ⟨minus, units⟩ := x
  obtain rfl : units = 0 := zero
  cases minus <;> decide +kernel

theorem looseNumber_zero_of_plain {x : Binary64} (zero : x.units = 0) {s : String}
    (plain : numericText? s = none) : looseNumber (.float x) s = false := by
  rw [looseNumber, plain]
  refine beq_eq_false_iff_ne.mpr ?_
  rintro rfl
  have numeric := isSome_numericText?_zero zero
  rw [plain] at numeric
  cases numeric

/-- Only where the text is not numeric does the spelling of the number count, and then neither of
the two zeros equals it. -/
theorem looseNumber_congr {m n : Number} (equal : m.same n = true) (s : String) :
    looseNumber m s = looseNumber n s := by
  cases numeric : numericText? s with
  | some x =>
    have values := Binary64.value_eq_of_same (Number.toBinary64_same equal)
    simp only [looseNumber, numeric, Binary64.same, values]
  | none =>
    cases m with
    | int i =>
      cases n with
      | int j => rw [beq_iff_eq.mp (show (i == j) = true from equal)]
      | float y => cases equal
    | float x =>
      cases n with
      | int j => cases equal
      | float y =>
        rcases Binary64.eq_or_zeros_of_same equal with rfl | ⟨zero, other⟩
        · rfl
        · rw [looseNumber_zero_of_plain zero numeric, looseNumber_zero_of_plain other numeric]

mutual

theorem loose_congr {a b : Json} (equal : same a b = true) (v : Json) : loose v a = loose v b := by
  have truth : a.isTruthy = b.isTruthy := isTruthy_congr equal
  cases a <;> cases b <;> try cases equal
  · rfl
  · rw [beq_iff_eq.mp (show (_ == _) = true from equal)]
  · have doubles := Number.toBinary64_same equal
    cases v with
    | null => exact congrArg not truth
    | bool c => exact congrArg (c == ·) truth
    | num k => exact Binary64.same_congr doubles _
    | str s => exact looseNumber_congr equal s
    | _ => rfl
  · rw [beq_iff_eq.mp (show (_ == _) = true from equal)]
  · cases v with
    | null => exact congrArg not truth
    | bool c => exact congrArg (c == ·) truth
    | arr zs => exact looseItems_congr equal zs
    | _ => rfl
  · cases v with
    | null => exact congrArg not truth
    | bool c => exact congrArg (c == ·) truth
    | obj ks => exact sameMembers_congr equal ks
    | _ => rfl

theorem looseItems_congr {xs ys : List Json} (equal : sameItems xs ys = true) (zs : List Json) :
    looseItems zs xs = looseItems zs ys := by
  cases xs with
  | nil =>
    cases ys with
    | nil => rfl
    | cons y ys => cases equal
  | cons x xs =>
    cases ys with
    | nil => cases equal
    | cons y ys =>
      simp only [sameItems, Bool.and_eq_true] at equal
      cases zs with
      | nil => rfl
      | cons z zs =>
        simp only [looseItems]
        rw [loose_congr equal.1 z, looseItems_congr equal.2 zs]

end

end Json
end RecordEditing
