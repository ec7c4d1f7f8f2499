import RecordEditing.Numeric.Binary64

/-!
The fewest decimal digits that read back as a given double. The reals that round to a double form
an interval around it; the decimal grids `10 ^ e` are tried from coarse to fine, and the first one
with a point inside gives the digits. Of two points inside, the nearer is taken, on a tie the even
one.
-/
namespace RecordEditing

structure Decimal where
  digits : Nat
  exponent : Int
  deriving DecidableEq, Repr

namespace Binary64

/-- The reals that round to a positive magnitude, in quarter units. The ends belong to it iff the
significand is even. Below a power of two the doubles lie twice as close. -/
structure Interval where
  low : Nat
  high : Nat
  closed : Bool

def interval (units : Nat) : Interval :=
  let gap := spacing units
  let below := if binade ≤ units ∧ units = Nat.pow 2 units.log2 then gap else 2 * gap
  ⟨4 * units - below, 4 * units + 2 * gap, (units / gap) % 2 == 0⟩

def Interval.has (i : Interval) (scale x : Nat) : Bool :=
  if i.closed then i.low * scale ≤ x && x ≤ i.high * scale
  else i.low * scale < x && x < i.high * scale

/-- The multiple of `10 ^ exponent` that reads back as the magnitude and is nearest to it. -/
def onGrid? (units : Nat) (exponent : Int) : Option Nat :=
  let scale := Nat.pow 10 (-exponent).toNat
  let step := Nat.pow 10 exponent.toNat * (4 * one)
  let x := 4 * units * scale
  let d := x / step
  let inside := (interval units).has scale
  match inside (d * step), inside ((d + 1) * step) with
  | true, true =>
    let below := x - d * step
    let above := (d + 1) * step - x
    if below < above then some d
    else if above < below then some (d + 1)
    else if d % 2 = 0 then some d else some (d + 1)
  | true, false => some d
  | false, true => some (d + 1)
  | false, false => none

/-- Tries the grids `10 ^ (k - 400)` for falling `k`. -/
def shortestFrom (units : Nat) : Nat → Decimal
  | 0 => ⟨0, 0⟩
  | k + 1 =>
    match onGrid? units (k - 400 : Int) with
    | some d => ⟨d, k - 400⟩
    | none => shortestFrom units k

/-- The shortest decimal of a positive magnitude. A magnitude of `b` bits is below
`10 ^ (31 * b / 100 - 323)`, so the smallest point of the first grid lies beyond it, and no coarser
grid has a point inside. -/
def shortest (units : Nat) : Decimal := shortestFrom units ((units.log2 + 1) * 31 / 100 + 80)

end Binary64
end RecordEditing
