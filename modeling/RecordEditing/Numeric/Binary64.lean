/-!
Finite binary64 numbers, kept exactly. A magnitude is a count of units of `2 ^ -1074`, the
smallest positive double, so that order, rounding and arithmetic are `Nat` arithmetic. Every
operation rounds an exact quotient once, to the nearest double and on a tie to the even one.
-/
namespace RecordEditing

/-- A sign and a magnitude in units of `2 ^ -1074`. Zero has two spellings. -/
structure Binary64 where
  negative : Bool
  units : Nat
  deriving DecidableEq, Repr

namespace Binary64

def one : Nat := Nat.pow 2 1074

/-- The first magnitude beyond the finite doubles. -/
def limit : Nat := Nat.pow 2 2098

/-- The value in units; both zeros have value 0. -/
def value (x : Binary64) : Int := if x.negative then -x.units else x.units

def isZero (x : Binary64) : Bool := x.units == 0

def same (x y : Binary64) : Bool := x.value == y.value

def order (x y : Binary64) : Ordering := compare x.value y.value

/-- The whole number nearest to `num / den`, a tie going to the even one. -/
def roundDiv (num den : Nat) : Nat :=
  let q := num / den
  let r := num % den
  if 2 * r < den then q
  else if den < 2 * r then q + 1
  else if q % 2 = 0 then q else q + 1

/-- The first magnitude of more than 53 bits: below it every whole number of units is a double. -/
def binade : Nat := Nat.pow 2 53

/-- The distance between neighbouring doubles at a magnitude of so many whole units. -/
def spacing (whole : Nat) : Nat := if whole < binade then 1 else Nat.pow 2 (whole.log2 - 52)

/-- The magnitude of 53 significant bits nearest to `num / den` units. -/
def nearest (num den : Nat) : Nat :=
  let step := spacing (num / den)
  step * roundDiv num (den * step)

def ofRatio? (negative : Bool) (num den : Nat) : Option Binary64 :=
  let u := nearest num den
  if u < limit then some ⟨negative, u⟩ else none

def ofNat (n : Nat) : Binary64 := ⟨false, nearest (n * one) 1⟩

def ofInt (i : Int) : Binary64 := ⟨i < 0, nearest (i.natAbs * one) 1⟩

def mul? (x y : Binary64) : Option Binary64 :=
  ofRatio? (x.negative != y.negative) (x.units * y.units) one

/-- The quotient by a number that is not zero. -/
def div? (x y : Binary64) : Option Binary64 :=
  ofRatio? (x.negative != y.negative) (x.units * one) y.units

/-- `digits * 10 ^ exponent`, rounded once; `none` beyond the finite doubles. The two bounds on the
exponent decide the numbers far outside the range without building a power of ten. -/
def ofDecimal? (negative : Bool) (digits : Nat) (exponent : Int) : Option Binary64 :=
  if digits = 0 then some ⟨negative, 0⟩
  else if 308 < exponent then none
  else if exponent < -(digits.log2 + 1100 : Nat) then some ⟨negative, 0⟩
  else if exponent < 0 then ofRatio? negative (digits * one) (Nat.pow 10 exponent.natAbs)
  else ofRatio? negative (digits * Nat.pow 10 exponent.natAbs * one) 1

end Binary64
end RecordEditing
