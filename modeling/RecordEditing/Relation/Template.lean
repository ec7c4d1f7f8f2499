import RecordEditing.Filter.Text

/-!
Filter templates. A template is a filter that names properties of a known record where a filter has
values. A leaf is a link, comparing a property of the searched record with one of the known record,
or a literal, comparing it with a value; other leaves are malformed.
-/
namespace RecordEditing

inductive TemplateOperation where
  | compare (op : Operator)
  | all
  | any
  deriving DecidableEq, Repr

namespace TemplateOperation

def symbol : TemplateOperation → String
  | .compare op => op.symbol
  | .all => "AND"
  | .any => "OR"

def ofSymbol? : String → Option TemplateOperation
  | "=" | "==" => some (.compare .equals)
  | ">" => some (.compare .greater)
  | "<" => some (.compare .less)
  | "LIKE" | "like" => some (.compare .like)
  | "IN" | "in" => some (.compare .oneOf)
  | "AND" | "and" => some .all
  | "OR" | "or" => some .any
  | _ => none

end TemplateOperation

structure LeafParts where
  /-- The property of the known record. -/
  known : Option String := none
  /-- The property of the searched record. -/
  searched : Option String := none
  searchedValue : Option Json := none
  property : Option String := none
  value : Option Json := none
  deriving Repr

/-- A rule as written; its operation decides whether the parts or the children count. -/
inductive TemplateRule where
  | mk (operation : TemplateOperation) (parts : LeafParts) (children : List TemplateRule)
  deriving Repr

inductive Leaf where
  | link (known searched : String)
  | literal (property : String) (value : Json)
  deriving Repr

namespace LeafParts

/-- The searched property may be given under either name, and so may the value. A known property
without a searched one is itself the searched one. -/
def leaf? (p : LeafParts) : Option Leaf :=
  match p.searched.or p.property, p.known, p.searchedValue.or p.value with
  | some searched, some known, _ => some (.link known searched)
  | some property, none, some value => some (.literal property value)
  | none, some property, some value => some (.literal property value)
  | _, _, _ => none

end LeafParts

namespace TemplateRule

def link (op : Operator) (known searched : String) : TemplateRule :=
  .mk (.compare op) { known := some known, searched := some searched } []

def operation : TemplateRule → TemplateOperation
  | .mk op _ _ => op

def isGroup (t : TemplateRule) : Bool :=
  match t.operation with
  | .compare _ => false
  | _ => true

def operationMember (op : TemplateOperation) : Fields :=
  if op = .compare .equals then [] else [("operation", .str op.symbol)]

def partMembers (p : LeafParts) : Fields :=
  Fields.optionalMember "local" (p.known.map .str) ++
    Fields.optionalMember "remote" (p.searched.map .str) ++
    Fields.optionalMember "remote_value" p.searchedValue ++
    Fields.optionalMember "property" (p.property.map .str) ++
    Fields.optionalMember "value" p.value

mutual

/-- The written form leaves out an equality sign, absent parts and an empty list of children. -/
def toJson : TemplateRule → Json
  | .mk op p children =>
    .obj (operationMember op ++ partMembers p ++
      match toItems children with
      | [] => []
      | items => [("children", .arr items)])

def toItems : List TemplateRule → List Json
  | [] => []
  | t :: ts => toJson t :: toItems ts

end

def operationOf? (fs : Fields) : Option TemplateOperation :=
  Fields.withDefault? ["operation"] (.compare .equals)
    (Json.choice? false TemplateOperation.ofSymbol?) fs

def partsOf? (fs : Fields) : Option LeafParts := do
  return {
    known := ← Fields.optional? ["local"] Json.str? fs
    searched := ← Fields.optional? ["remote"] Json.str? fs
    searchedValue := ← Fields.optional? ["remote_value"] some fs
    property := ← Fields.optional? ["property"] Json.str? fs
    value := ← Fields.optional? ["value"] some fs }

def fieldNames : List String :=
  ["operation", "local", "remote", "remote_value", "property", "value", "children"]

def withChildren? (fs : Fields) (children : List TemplateRule) : Option TemplateRule := do
  return .mk (← operationOf? fs) (← partsOf? fs) children

mutual

def ofJson? : Json → Option TemplateRule
  | .obj ms => do withChildren? ms (← childrenOf? ms)
  | .arr [op, k, s, sv, p, v, .arr children] => do
    withChildren? (fieldNames.zip [op, k, s, sv, p, v]) (← ofItems? children)
  | .arr items =>
    if items.length < fieldNames.length then withChildren? (fieldNames.zip items) [] else none
  | _ => none

def ofItems? : List Json → Option (List TemplateRule)
  | [] => some []
  | j :: js => do
    let t ← ofJson? j
    let ts ← ofItems? js
    return t :: ts

def childrenOf? : List (String × Json) → Option (List TemplateRule)
  | [] => some []
  | (name, j) :: ms =>
    if name = "children" then
      if Fields.given ["children"] ms = [] then
        match j with
        | .arr items => ofItems? items
        | _ => none
      else none
    else childrenOf? ms

end

def listOfJson? (j : Json) : Option (List TemplateRule) := j.listOf? ofJson?

end TemplateRule
end RecordEditing
