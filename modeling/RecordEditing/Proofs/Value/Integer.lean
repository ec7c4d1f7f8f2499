import RecordEditing.Value.Truth

/-!
The grid of the doubles. A number of at most 53 bits lies on it, shifted by any number of bits, and
is its own nearest double.
-/
namespace RecordEditing
namespace Binary64

theorem roundDiv_mul (quotient : Nat) {den : Nat} (positive : 0 < den) :
    roundDiv (quotient * den) den = quotient := by
  unfold roundDiv
  simp only [Nat.mul_mod_left, Nat.mul_div_cancel _ positive]
  rw [if_pos (by omega)]

theorem spacing_pos (whole : Nat) : 0 < spacing whole := by
  unfold spacing
  split
  · exact Nat.one_pos
  · exact Nat.pow_pos (by decide)

/-- A number of at most 53 bits, shifted by any number of bits, lies on the grid of the doubles. -/
theorem spacing_dvd {n : Nat} (small : n ≤ binade) (shift : Nat) :
    spacing (n * Nat.pow 2 shift) ∣ n * Nat.pow 2 shift := by
  have upper : n * 2 ^ shift ≤ 2 ^ (53 + shift) := by
    rw [Nat.pow_add]
    exact Nat.mul_le_mul_right _ small
  change spacing (n * 2 ^ shift) ∣ n * 2 ^ shift
  unfold spacing
  split
  · exact Nat.one_dvd _
  · next large =>
    have nonzero : n * 2 ^ shift ≠ 0 := by
      intro zero
      rw [zero] at large
      exact large (Nat.pow_pos (by decide))
    have width : (n * 2 ^ shift).log2 < 54 + shift := by
      apply (Nat.log2_lt nonzero).mpr
      exact Nat.lt_of_le_of_lt upper (Nat.pow_lt_pow_right (by decide) (by omega))
    by_cases fits : (n * 2 ^ shift).log2 - 52 ≤ shift
    · exact Nat.dvd_mul_left_of_dvd (Nat.pow_dvd_pow 2 fits) n
    · -- Only the number of 54 bits that is allowed is left, and it is a power of two.
      have top : (n * 2 ^ shift).log2 = 53 + shift := by omega
      have lower : 2 ^ (53 + shift) ≤ n * 2 ^ shift := by
        rw [← top]
        exact Nat.log2_self_le nonzero
      have power : n * 2 ^ shift = 2 ^ (53 + shift) := Nat.le_antisymm upper lower
      rw [top, power]
      exact Nat.pow_dvd_pow 2 (by omega)

theorem nearest_of_dvd {units : Nat} (grid : spacing units ∣ units) : nearest units 1 = units := by
  obtain ⟨quotient, split⟩ := grid
  unfold nearest
  simp only [Nat.div_one, Nat.one_mul]
  have exact : roundDiv units (spacing units) = quotient := by
    conv => lhs; arg 1; rw [split, Nat.mul_comm]
    exact roundDiv_mul quotient (spacing_pos units)
  rw [exact, ← split]

theorem one_is_power : ∃ shift, one = Nat.pow 2 shift := by
  unfold one
  exact ⟨_, rfl⟩

theorem one_pos : 0 < one := by
  obtain ⟨shift, power⟩ := one_is_power
  rw [power]
  exact Nat.pow_pos (by decide)

end Binary64
end RecordEditing
