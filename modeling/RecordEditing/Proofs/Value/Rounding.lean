import Mathlib.Algebra.Order.Ring.Int
import Mathlib.Order.Compare
import RecordEditing.Proofs.Value.Integer

/-!
How integers are compared. They are compared as doubles, that is by the nearest integers of 53
significant bits. Rounding keeps the order but not the difference: two integers are told apart if
and only if they are rounded to different ones.
-/
namespace RecordEditing
namespace Binary64

theorem roundDiv_cases (num den : Nat) :
    (roundDiv num den = num / den ∧ 2 * (num % den) ≤ den) ∨
      (roundDiv num den = num / den + 1 ∧ den ≤ 2 * (num % den)) := by
  unfold roundDiv
  dsimp only
  split
  · exact Or.inl ⟨rfl, by omega⟩
  · split
    · exact Or.inr ⟨rfl, by omega⟩
    · split
      · exact Or.inl ⟨rfl, by omega⟩
      · exact Or.inr ⟨rfl, by omega⟩

theorem roundDiv_mono {m n : Nat} (le : m ≤ n) (den : Nat) : roundDiv m den ≤ roundDiv n den := by
  have quotients : m / den ≤ n / den := Nat.div_le_div_right le
  rcases Nat.lt_or_eq_of_le quotients with less | same
  · rcases roundDiv_cases m den with ⟨down, _⟩ | ⟨up, _⟩ <;>
      rcases roundDiv_cases n den with ⟨low, _⟩ | ⟨high, _⟩ <;> omega
  · -- Between the same two neighbours the remainders decide, and a tie is broken alike.
    have remainders : m % den ≤ n % den := by
      have left := Nat.div_add_mod m den
      have right := Nat.div_add_mod n den
      rw [same] at left
      omega
    unfold roundDiv
    dsimp only
    rw [same]
    repeat' split
    all_goals omega

theorem roundDiv_scale (num den : Nat) {factor : Nat} (positive : 0 < factor) :
    roundDiv (num * factor) (den * factor) = roundDiv num den := by
  have below (a b : Nat) : 2 * (a * factor) < b * factor ↔ 2 * a < b := by
    rw [← Nat.mul_assoc]
    exact Nat.mul_lt_mul_right positive
  have above (a b : Nat) : b * factor < 2 * (a * factor) ↔ b < 2 * a := by
    rw [← Nat.mul_assoc]
    exact Nat.mul_lt_mul_right positive
  unfold roundDiv
  simp only [Nat.mul_div_mul_right _ _ positive, Nat.mul_mod_mul_right, below, above]

theorem spacing_of_large {n : Nat} (large : binade ≤ n) : spacing n = 2 ^ (n.log2 - 52) :=
  if_neg (Nat.not_lt.mpr large)

theorem ne_zero_of_large {n : Nat} (large : binade ≤ n) : n ≠ 0 := by
  rintro rfl
  exact absurd large (by decide)

theorem log2_of_large {n : Nat} (large : binade ≤ n) : 53 ≤ n.log2 :=
  (Nat.le_log2 (ne_zero_of_large large)).mpr large

theorem spacing_scale {n : Nat} (large : binade ≤ n) (shift : Nat) :
    spacing (n * 2 ^ shift) = spacing n * 2 ^ shift := by
  have wide := log2_of_large large
  have nonzero := ne_zero_of_large large
  have width : (n * 2 ^ shift).log2 = n.log2 + shift := by
    apply (Nat.log2_eq_iff (Nat.mul_ne_zero nonzero (Nat.two_pow_pos shift).ne')).mpr
    rw [Nat.pow_add, Nat.add_right_comm, Nat.pow_add]
    constructor
    · exact Nat.mul_le_mul_right _ (Nat.log2_self_le nonzero)
    · exact Nat.mul_lt_mul_of_pos_right Nat.lt_log2_self (Nat.two_pow_pos shift)
  have larger : binade ≤ n * 2 ^ shift :=
    Nat.le_trans large (Nat.le_mul_of_pos_right n (Nat.two_pow_pos shift))
  rw [spacing_of_large large, spacing_of_large larger, width, ← Nat.pow_add]
  congr 1
  omega

theorem nearest_one (n : Nat) : nearest n 1 = spacing n * roundDiv n (spacing n) := by
  simp only [nearest, Nat.div_one, Nat.one_mul]

theorem nearest_of_small {n : Nat} (small : n ≤ binade) : nearest n 1 = n := by
  have grid := spacing_dvd small 0
  rw [Nat.pow_eq, Nat.pow_zero, Nat.mul_one] at grid
  exact nearest_of_dvd grid

/-- Rounding does not depend on the unit, as the smallest one is far below 1. -/
theorem nearest_units (n : Nat) : nearest (n * one) 1 = nearest n 1 * one := by
  obtain ⟨shift, power⟩ := one_is_power
  rw [power, Nat.pow_eq]
  by_cases small : n ≤ binade
  · rw [nearest_of_small small]
    exact nearest_of_dvd (spacing_dvd small shift)
  · have large : binade ≤ n := by omega
    rw [nearest_one, nearest_one, spacing_scale large,
      roundDiv_scale n (spacing n) (Nat.two_pow_pos shift), Nat.mul_right_comm]

theorem nearest_bounds {n : Nat} (large : binade ≤ n) :
    2 ^ n.log2 ≤ nearest n 1 ∧ nearest n 1 ≤ 2 ^ (n.log2 + 1) := by
  have wide := log2_of_large large
  have positive := spacing_pos n
  have lower : 2 ^ n.log2 = 2 ^ 52 * spacing n := by
    rw [spacing_of_large large, ← Nat.pow_add]
    congr 1
    omega
  have upper : 2 ^ (n.log2 + 1) = 2 ^ 53 * spacing n := by
    rw [spacing_of_large large, ← Nat.pow_add]
    congr 1
    omega
  rw [nearest_one, lower, upper, Nat.mul_comm (spacing n)]
  constructor
  · have least := roundDiv_mono (Nat.log2_self_le (ne_zero_of_large large)) (spacing n)
    rw [lower, roundDiv_mul _ positive] at least
    exact Nat.mul_le_mul_right _ least
  · have below : n ≤ 2 ^ (n.log2 + 1) := Nat.le_of_lt Nat.lt_log2_self
    have greatest := roundDiv_mono below (spacing n)
    rw [upper, roundDiv_mul _ positive] at greatest
    exact Nat.mul_le_mul_right _ greatest

theorem nearest_mono {m n : Nat} (le : m ≤ n) : nearest m 1 ≤ nearest n 1 := by
  by_cases small : n ≤ binade
  · rw [nearest_of_small small, nearest_of_small (Nat.le_trans le small)]
    exact le
  · have large : binade ≤ n := by omega
    have lower := (nearest_bounds large).1
    by_cases below : m ≤ binade
    · have wide : 2 ^ 53 ≤ 2 ^ n.log2 := Nat.pow_le_pow_right (by decide) (log2_of_large large)
      rw [nearest_of_small below]
      exact Nat.le_trans below (Nat.le_trans wide lower)
    · have above : binade ≤ m := by omega
      have upper := (nearest_bounds above).2
      have widths : m.log2 ≤ n.log2 := (Nat.le_log2 (ne_zero_of_large large)).mpr
        (Nat.le_trans (Nat.log2_self_le (ne_zero_of_large above)) le)
      rcases Nat.lt_or_eq_of_le widths with shorter | same
      · have step : 2 ^ (m.log2 + 1) ≤ 2 ^ n.log2 := Nat.pow_le_pow_right (by decide) shorter
        exact Nat.le_trans upper (Nat.le_trans step lower)
      · have steps : spacing m = spacing n := by
          rw [spacing_of_large above, spacing_of_large large, same]
        rw [nearest_one, nearest_one, steps]
        exact Nat.mul_le_mul_left _ (roundDiv_mono le _)

/-- The integer of 53 significant bits nearest to an integer, a tie going to the even one. -/
def rounded (i : Int) : Int := if i < 0 then -(nearest i.natAbs 1 : Int) else nearest i.natAbs 1

theorem rounded_of_small {i : Int} (small : i.natAbs ≤ binade) : rounded i = i := by
  unfold rounded
  rw [nearest_of_small small]
  split <;> omega

theorem natAbs_rounded (i : Int) : (rounded i).natAbs = nearest i.natAbs 1 := by
  unfold rounded
  split <;> omega

theorem rounded_of_rounded_small {i : Int} (small : (rounded i).natAbs < binade) :
    rounded i = i := by
  rw [natAbs_rounded] at small
  apply rounded_of_small
  apply Nat.le_of_not_lt
  intro large
  have least : nearest binade 1 ≤ nearest i.natAbs 1 := nearest_mono (Nat.le_of_lt large)
  rw [nearest_of_small (Nat.le_refl binade)] at least
  omega

theorem rounded_mono {i j : Int} (le : i ≤ j) : rounded i ≤ rounded j := by
  unfold rounded
  by_cases left : i < 0
  · by_cases right : j < 0
    · have magnitudes : nearest j.natAbs 1 ≤ nearest i.natAbs 1 := nearest_mono (by omega)
      rw [if_pos left, if_pos right]
      omega
    · rw [if_pos left, if_neg right]
      omega
  · have magnitudes : nearest i.natAbs 1 ≤ nearest j.natAbs 1 := nearest_mono (by omega)
    rw [if_neg left, if_neg (by omega)]
    omega

theorem value_ofInt_eq (i : Int) : (ofInt i).value = rounded i * (one : Nat) := by
  unfold ofInt value rounded
  rw [nearest_units]
  by_cases negative : i < 0
  · rw [if_pos (decide_eq_true negative), if_pos negative, Int.natCast_mul, Int.neg_mul]
  · rw [if_neg (by simpa using negative), if_neg negative, Int.natCast_mul]

theorem same_ofInt_iff (i j : Int) : (ofInt i).same (ofInt j) = true ↔ rounded i = rounded j := by
  have unit : (one : Int) ≠ 0 := by
    have := one_pos
    omega
  unfold same
  rw [beq_iff_eq, value_ofInt_eq, value_ofInt_eq]
  exact Int.mul_eq_mul_right_iff unit

theorem order_ofInt (i j : Int) : (ofInt i).order (ofInt j) = compare (rounded i) (rounded j) := by
  have unit : (0 : Int) < (one : Nat) := Int.natCast_pos.mpr one_pos
  unfold order
  rw [value_ofInt_eq, value_ofInt_eq, ← cmp_eq_compare, ← cmp_eq_compare]
  exact cmp_mul_pos_right unit _ _

/-- Rounding keeps two integers apart, if they differ. -/
def Separated (i j : Int) : Prop := rounded i = rounded j → i = j

instance (i j : Int) : Decidable (Separated i j) :=
  inferInstanceAs (Decidable (rounded i = rounded j → i = j))

theorem Separated.symm {i j : Int} (separated : Separated i j) : Separated j i :=
  fun same => (separated same.symm).symm

theorem separated_of_small {i j : Int} (small : i.natAbs < binade) : Separated i j := by
  intro same
  have left : rounded i = i := rounded_of_small (Nat.le_of_lt small)
  have right : rounded j = j := by
    apply rounded_of_rounded_small
    rwa [← same, left]
  rw [← left, ← right]
  exact same

theorem compare_rounded_iff (i j : Int) :
    compare (rounded i) (rounded j) = compare i j ↔ Separated i j := by
  constructor
  · intro agree same
    rw [compare_eq_iff_eq.mpr same] at agree
    exact compare_eq_iff_eq.mp agree.symm
  · intro separated
    rcases Int.lt_trichotomy i j with less | rfl | greater
    · have apart : rounded i ≠ rounded j := fun same => Int.ne_of_lt less (separated same)
      have below : rounded i < rounded j := lt_of_le_of_ne (rounded_mono (Int.le_of_lt less)) apart
      rw [compare_lt_iff_lt.mpr below, compare_lt_iff_lt.mpr less]
    · rw [compare_eq_iff_eq.mpr rfl, compare_eq_iff_eq.mpr rfl]
    · have apart : rounded j ≠ rounded i := fun same =>
        Int.ne_of_lt greater (separated same.symm).symm
      have above : rounded j < rounded i :=
        lt_of_le_of_ne (rounded_mono (Int.le_of_lt greater)) apart
      rw [compare_gt_iff_gt.mpr above, compare_gt_iff_gt.mpr greater]

end Binary64

open Binary64

theorem Json.loose_int_iff (i j : Int) :
    (Json.int i).loose (.int j) = true ↔ rounded i = rounded j := by
  change Json.loose (.num (.int i)) (.num (.int j)) = true ↔ _
  rw [Json.loose]
  exact same_ofInt_iff i j

/-- Integers of at most 53 bits are doubles, so comparing them as doubles loses nothing. -/
theorem Json.loose_int {i j : Int} (left : i.natAbs ≤ binade) (right : j.natAbs ≤ binade) :
    (Json.int i).loose (.int j) = true ↔ i = j := by
  rw [Json.loose_int_iff, rounded_of_small left, rounded_of_small right]

theorem Json.order?_int (i j : Int) :
    (Json.int i).order? (.int j) = some (compare (rounded i) (rounded j)) :=
  congrArg some (order_ofInt i j)

theorem Json.strictEq_int (i j : Int) :
    strictEq (some (.int i)) (some (.int j)) = true ↔ i = j := by
  change (i == j) = true ↔ i = j
  exact beq_iff_eq

end RecordEditing
