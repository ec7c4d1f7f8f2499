import RecordEditing.Numeric.Reading
import RecordEditing.Numeric.Shortest

/-!
The numbers of JSON values. A numeral without fraction and exponent is an integer if it fits 64
bits, signed or unsigned; every other numeral is a double. Integers and doubles stay apart: `1`
and `1.0` are different values.
-/
namespace RecordEditing

inductive Number where
  | int (i : Int)
  | float (x : Binary64)
  deriving DecidableEq, Repr

/-- A numeral as written; the exponent stands for what follows the letter. -/
structure Numeral where
  negative : Bool
  whole : List Char
  fraction : List Char
  exponent : Option Int
  deriving DecidableEq, Repr

namespace Number

def toBinary64 : Number → Binary64
  | .int i => Binary64.ofInt i
  | .float x => x

/-- Typed equality: an integer never equals a double, and the two zeros are equal. -/
def same : Number → Number → Bool
  | .int i, .int j => i == j
  | .float x, .float y => x.same y
  | _, _ => false

def wordLimit : Nat := 18446744073709551616

/-- Adds digits to a significand as long as it fits 64 bits; the digits that are left over. -/
def takeDigits (n : Nat) : List Char → Nat × List Char
  | [] => (n, [])
  | c :: cs =>
    let m := 10 * n + (c.toNat - 48)
    if m < wordLimit then takeDigits m cs else (n, c :: cs)

def powerOfTen (e : Nat) : Binary64 := Binary64.ofNat (Nat.pow 10 e)

/-- A significand, already rounded to a double, times a power of ten: one more rounding for every
step of at most 308 places. `none` beyond the finite doubles. -/
def scale? (x : Binary64) (e : Int) : Option Binary64 :=
  if e.natAbs ≤ 308 then
    if 0 ≤ e then x.mul? (powerOfTen e.natAbs) else x.div? (powerOfTen e.natAbs)
  else if x.isZero then some x
  else if 0 < e then none
  else (x.div? (powerOfTen 308)).bind fun y => scale? y (e + 308)
termination_by e.natAbs
decreasing_by omega

/-- A double is read from the digits that fit a 64-bit significand; the rest only counts places. -/
def floatOf? (n : Numeral) : Option Binary64 :=
  let (head, skipped) := takeDigits 0 n.whole
  let (digits, unread) := takeDigits head n.fraction
  let places : Int := skipped.length - (n.fraction.length - unread.length)
  (scale? (Binary64.ofNat digits) (places + n.exponent.getD 0)).map fun x =>
    ⟨n.negative, x.units⟩

/-- The integer a numeral stands for. Minus zero is no integer. -/
def intOf? (n : Numeral) : Option Int :=
  if n.fraction = [] ∧ n.exponent = none then
    let d := digitsValue n.whole
    if !n.negative && d < wordLimit then some d
    else if n.negative && 0 < d && 2 * d ≤ wordLimit then some (-d)
    else none
  else none

def ofNumeral? (n : Numeral) : Option Number :=
  match intOf? n with
  | some i => some (.int i)
  | none => (floatOf? n).map .float

def plainText (digits : List Char) (point : Int) : List Char :=
  if point ≤ 0 then ['0', '.'] ++ List.replicate point.natAbs '0' ++ digits
  else if digits.length ≤ point.toNat then
    digits ++ List.replicate (point.toNat - digits.length) '0' ++ ['.', '0']
  else digits.take point.toNat ++ ['.'] ++ digits.drop point.toNat

def exponentText (digits : List Char) (exponent : Int) : List Char :=
  let mantissa :=
    match digits with
    | d :: e :: rest => d :: '.' :: e :: rest
    | ds => ds
  let sign := if exponent < 0 then '-' else '+'
  mantissa ++ ['e', sign] ++ Nat.toDigits 10 exponent.natAbs

/-- The shortest digits that read back: with a point for decimal exponents from -5 to 15, else with
an exponent. -/
def floatText (x : Binary64) : List Char :=
  let body :=
    if x.units = 0 then ['0', '.', '0']
    else
      let d := Binary64.shortest x.units
      let digits := Nat.toDigits 10 d.digits
      let exponent := digits.length - 1 + d.exponent
      if -5 ≤ exponent ∧ exponent ≤ 15 then plainText digits (exponent + 1)
      else exponentText digits exponent
  if x.negative then '-' :: body else body

def intText (i : Int) : List Char :=
  if i < 0 then '-' :: Nat.toDigits 10 i.natAbs else Nat.toDigits 10 i.natAbs

def text : Number → List Char
  | .int i => intText i
  | .float x => floatText x

end Number
end RecordEditing
