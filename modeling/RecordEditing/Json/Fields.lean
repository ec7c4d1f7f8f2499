import RecordEditing.Json.Basic

/-!
Reading the fields of a record from the members of an object. A field may be known under several
names and is given at most once. Unknown members do not matter. A record may also be written as the
list of its fields in order, as many as there are.
-/
namespace RecordEditing
namespace Json

def str? : Json → Option String
  | .str s => some s
  | _ => none

def bool? : Json → Option Bool
  | .bool b => some b
  | _ => none

def items? : Json → Option (List Json)
  | .arr items => some items
  | _ => none

def members? : Json → Option (List (String × Json))
  | .obj ms => some ms
  | _ => none

def listOf? {α : Type} (read : Json → Option α) (j : Json) : Option (List α) :=
  (items? j).bind (·.mapM read)

def word? : Json → Option UInt32
  | .num (.int i) => if 0 ≤ i ∧ i < UInt32.size then some (UInt32.ofNat i.toNat) else none
  | _ => none

/-- A choice by name: a string, or an object with the name as its only member and nothing in it.
Inside a tagged record nothing may also be written as an empty object. -/
def choice? {α : Type} (nested : Bool) (pick : String → Option α) : Json → Option α
  | .str s => pick s
  | .obj [(s, .null)] => pick s
  | .obj [(s, .obj [])] => if nested then pick s else none
  | _ => none

end Json

abbrev Fields := List (String × Json)

namespace Fields

def ofJson? (names : List String) : Json → Option Fields
  | .obj ms => some ms
  | .arr items => if items.length ≤ names.length then some (names.zip items) else none
  | _ => none

def given (names : List String) (fs : Fields) : List Json :=
  (fs.filter fun f => names.contains f.1).map (·.2)

def required? {α : Type} (names : List String) (read : Json → Option α) (fs : Fields) : Option α :=
  match given names fs with
  | [j] => read j
  | _ => none

def withDefault? {α : Type} (names : List String) (default : α) (read : Json → Option α)
    (fs : Fields) : Option α :=
  match given names fs with
  | [] => some default
  | [j] => read j
  | _ => none

def optional? {α : Type} (names : List String) (read : Json → Option α) (fs : Fields) :
    Option (Option α) :=
  match given names fs with
  | [] => some none
  | [.null] => some none
  | [j] => (read j).map some
  | _ => none

/-- The kind of a tagged record. Inside another tagged record a kind may also be given by its
number. -/
def kind? (kinds : List String) (nested : Bool) : Json → Option String
  | .str s => some s
  | .num (.int i) => if nested && 0 ≤ i then kinds[i.toNat]? else none
  | _ => none

def optionalMember (name : String) : Option Json → Fields
  | none => []
  | some j => [(name, j)]

end Fields
end RecordEditing
