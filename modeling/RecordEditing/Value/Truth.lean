import RecordEditing.Json.Basic
import RecordEditing.Text.Blank

/-!
How property values are compared. Values come from forms and from typed data alike, so the number
1, the text "1" and a ticked box have to agree: comparison is loose unless it is asked to be typed.
A value may be absent, which differs from null only for ordering and patterns.
-/
namespace RecordEditing

/-- What counts as set: everything but null, false, zero, the texts "" and "0", and empty arrays
and objects. -/
def Json.isTruthy : Json → Bool
  | .null => false
  | .bool b => b
  | .num n => !n.toBinary64.isZero
  | .str s => !(s == "" || s == "0")
  | .arr items => !items.isEmpty
  | .obj ms => !ms.isEmpty

def isTruthy (v : Option Json) : Bool := v.any Json.isTruthy

def numericText? (s : String) : Option Binary64 := Binary64.read? (trim s.toList)

def numeric? : Json → Option Binary64
  | .num n => some n.toBinary64
  | .str s => numericText? s
  | _ => none

def strictEq (a b : Option Json) : Bool := a.getD .null == b.getD .null

namespace Json

/-- Two texts are equal as numbers if both are numeric, else as texts. -/
def looseText (s t : String) : Bool :=
  match numericText? s, numericText? t with
  | some x, some y => x.same y
  | _, _ => s == t

/-- A number equals a numeric text that stands for it, and else its own text. -/
def looseNumber (n : Number) (s : String) : Bool :=
  match numericText? s with
  | some x => n.toBinary64.same x
  | none => String.ofList n.text == s

mutual

/-- Loose equality: null equals what is not set (of texts only the empty one), a truth value equals
what is set alike, and numbers equal numeric texts. -/
def loose : Json → Json → Bool
  | .null, .null => true
  | .null, .str s => s == ""
  | .str s, .null => s == ""
  | .null, b => !b.isTruthy
  | a, .null => !a.isTruthy
  | .bool a, b => a == b.isTruthy
  | a, .bool b => b == a.isTruthy
  | .num a, .num b => a.toBinary64.same b.toBinary64
  | .num n, .str s => looseNumber n s
  | .str s, .num n => looseNumber n s
  | .str s, .str t => looseText s t
  | .arr a, .arr b => looseItems a b
  | .obj a, .obj b => sameMembers a b
  | _, _ => false

def looseItems : List Json → List Json → Bool
  | [], [] => true
  | x :: xs, y :: ys => loose x y && looseItems xs ys
  | _, _ => false

end

/-- Order of values: by number if both are numeric, by code points if both are texts, else none. -/
def order? (a b : Json) : Option Ordering :=
  match numeric? a, numeric? b with
  | some x, some y => some (x.order y)
  | _, _ =>
    match a, b with
    | .str s, .str t => some (compare s t)
    | _, _ => none

end Json

def looseEq (a b : Option Json) : Bool := (a.getD .null).loose (b.getD .null)

/-- An absent value has no place in the order. -/
def order? (a b : Option Json) : Option Ordering :=
  match a, b with
  | some x, some y => x.order? y
  | _, _ => none

end RecordEditing
