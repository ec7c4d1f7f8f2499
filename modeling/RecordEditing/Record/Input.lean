import RecordEditing.Record.Basic

/-!
Pending input: the values of a form before they are committed to a record, with the complaints
about them. While a form is being edited its values count before those of the record.
-/
namespace RecordEditing

structure PendingInput where
  values : List (String × Json)
  errors : List (String × List String)
  deriving Repr

namespace PendingInput

def empty : PendingInput := ⟨[], []⟩

def ofRecord (r : Record) : PendingInput := ⟨r.properties, []⟩

def get? (input : PendingInput) (name : String) : Option Json := Entries.find? name input.values

def has (input : PendingInput) (name : String) : Bool := Entries.contains name input.values

def set (input : PendingInput) (name : String) (value : Json) : PendingInput :=
  { input with values := Entries.insert name value input.values }

/-- A value goes with its complaints. -/
def remove (input : PendingInput) (name : String) : PendingInput :=
  ⟨Entries.erase name input.values, Entries.erase name input.errors⟩

def errorsOf (input : PendingInput) (name : String) : List String :=
  (Entries.find? name input.errors).getD []

def complain (input : PendingInput) (name message : String) (append : Bool) : PendingInput :=
  let earlier := if append then input.errorsOf name else []
  { input with errors := Entries.insert name (earlier ++ [message]) input.errors }

def resetErrors (input : PendingInput) (name : String) : PendingInput :=
  { input with errors := Entries.erase name input.errors }

def isInvalid (input : PendingInput) (name : String) : Bool := !(input.errorsOf name).isEmpty

def anyInvalid (input : PendingInput) : Bool := input.errors.any fun e => !e.2.isEmpty

def toJson (input : PendingInput) : Json :=
  let errors := input.errors.map fun e => (e.1, Json.arr (e.2.map .str))
  .obj (("values", .obj input.values) :: if errors.isEmpty then [] else [("errors", .obj errors)])

def ofJson? (j : Json) : Option PendingInput := do
  let fs ← Fields.ofJson? ["values", "errors"] j
  let values ← Fields.required? ["values"] Json.members? fs
  let errors ← Fields.withDefault? ["errors"] [] (fun e => do
    (← e.members?).mapM fun (name, list) => do return (name, ← list.listOf? Json.str?)) fs
  return ⟨values, errors⟩

end PendingInput

/-- What a form shows: a record, input, both or neither. -/
structure FormState where
  record : Option Record
  input : Option PendingInput

/-- The value that counts: of the input if it has one, else of the record. -/
def FormState.value? (form : FormState) (name : String) : Option Json :=
  match form.input.bind (·.get? name) with
  | some v => some v
  | none => form.record.bind (·.get? name)

end RecordEditing
