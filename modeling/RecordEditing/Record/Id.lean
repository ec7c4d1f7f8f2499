import RecordEditing.Json.Parser
import RecordEditing.Json.Printer
import RecordEditing.Json.Fields
import RecordEditing.Record.Error

/-!
How records are addressed. A record has an id within its provider, a 64-bit integer or a text, and
is addressed from outside by the provider's name and that id. The written form is
`provider::id`, integers bare and texts as JSON strings.
-/
namespace RecordEditing

inductive RecordId where
  | int (i : Int)
  | text (s : String)
  deriving DecidableEq, Repr

namespace RecordId

def fits (i : Int) : Bool := -9223372036854775808 ≤ i && i < 9223372036854775808

def ofValue? : Json → Option RecordId
  | .num (.int i) => if fits i then some (.int i) else none
  | .str s => some (.text s)
  | _ => none

def toJson : RecordId → Json
  | .int i => .int i
  | .text s => .str s

/-- The id 0, in paste requests the level above all records. -/
def isZero : RecordId → Bool
  | .int i => i == 0
  | .text s => s == "0"

def shown : RecordId → String
  | .int i => String.ofList (Number.intText i)
  | .text s => s

/-- Integers come before texts. -/
def before : RecordId → RecordId → Bool
  | .int i, .int j => i < j
  | .int _, .text _ => true
  | .text _, .int _ => false
  | .text s, .text t => s < t

instance : LT RecordId := ⟨fun a b => before a b⟩

instance : DecidableLT RecordId := fun a b => inferInstanceAs (Decidable (before a b = true))

end RecordId

structure RecordRef where
  provider : String
  id : RecordId
  deriving DecidableEq, Repr

namespace RecordRef

def before (a b : RecordRef) : Bool :=
  a.provider < b.provider || (a.provider == b.provider && a.id < b.id)

instance : LT RecordRef := ⟨fun a b => before a b⟩

instance : DecidableLT RecordRef := fun a b => inferInstanceAs (Decidable (before a b = true))

def idChars : RecordId → List Char
  | .int i => Number.intText i
  | .text s => Json.literal s.toList

def chars (r : RecordRef) : List Char := r.provider.toList ++ ':' :: ':' :: idChars r.id

def text (r : RecordRef) : String := String.ofList r.chars

/-- What stands before and after the first `::`. -/
def splitMark : List Char → Option (List Char × List Char)
  | ':' :: ':' :: cs => some ([], cs)
  | c :: cs => (splitMark cs).map fun (before, rest) => (c :: before, rest)
  | [] => none

def readInt? (cs : List Char) : Option Int :=
  let (negative, ds) := splitSign cs
  if ds = [] ∨ !ds.all Char.isDigit then none
  else
    let i : Int := if negative then -digitsValue ds else digitsValue ds
    if RecordId.fits i then some i else none

def readId? (cs : List Char) : Option RecordId :=
  match readInt? cs with
  | some i => some (.int i)
  | none => (JsonText.stringOnly? cs).map .text

/-- Reads the written form; signs and zeros before an integer and blanks around a JSON string are
allowed. -/
def ofText (text : String) : Except RecordError RecordRef :=
  match splitMark text.toList with
  | none => .error (.invalidRef text .noMark)
  | some ([], _) => .error (.invalidRef text .emptyProvider)
  | some (provider, rest) =>
    match readId? rest with
    | some id => .ok ⟨String.ofList provider, id⟩
    | none => .error (.invalidRef text .invalidId)

def ofText? (text : String) : Option RecordRef := (ofText text).toOption

def ofJson? (j : Json) : Option RecordRef := j.str?.bind ofText?

def toJson (r : RecordRef) : Json := .str r.text

end RecordRef
end RecordEditing
