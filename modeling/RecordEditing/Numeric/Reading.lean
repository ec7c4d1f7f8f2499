import RecordEditing.Numeric.Binary64

/-!
Numbers written in decimal: an optional sign, digits with an optional point, and an optional
exponent. One digit before or after the point is enough.
-/
namespace RecordEditing

def digitsValue (cs : List Char) : Nat := cs.foldl (fun n c => 10 * n + (c.toNat - 48)) 0

def splitSign : List Char → Bool × List Char
  | '-' :: cs => (true, cs)
  | '+' :: cs => (false, cs)
  | cs => (false, cs)

def readExponent? : List Char → Option Int
  | [] => some 0
  | e :: cs =>
    let (negative, ds) := splitSign cs
    if (e = 'e' ∨ e = 'E') ∧ ds ≠ [] ∧ ds.all Char.isDigit then
      some (if negative then -digitsValue ds else digitsValue ds)
    else none

/-- Reads all of the text; `none` also for a number beyond the finite doubles. -/
def Binary64.read? (cs : List Char) : Option Binary64 :=
  let (negative, cs) := splitSign cs
  let whole := cs.takeWhile Char.isDigit
  let (fraction, tail) :=
    match cs.dropWhile Char.isDigit with
    | '.' :: cs => (cs.takeWhile Char.isDigit, cs.dropWhile Char.isDigit)
    | cs => ([], cs)
  if whole ++ fraction = [] then none
  else (readExponent? tail).bind fun e =>
    Binary64.ofDecimal? negative (digitsValue (whole ++ fraction)) (e - fraction.length)

end RecordEditing
