import RecordEditing.Json.Parser
import RecordEditing.Palette.Compile
import RecordEditing.Relation.Definition

/-!
Definitions of containers as they are written. A definition says how records are organised and
from which providers they come, lays out the palettes and relates parents to children.
-/
namespace RecordEditing

structure BasicDefinition where
  mode : Mode := .flat
  dataProvider : String
  parentProvider : Option String := none
  rootProvider : Option String := none
  deriving DecidableEq, Repr

namespace BasicDefinition

def optionalName (n : Option String) : Json := (n.map Json.str).getD .null

def toJson (b : BasicDefinition) : Json :=
  .obj [("mode", .str b.mode.word), ("data_provider", .str b.dataProvider),
    ("parent_data_provider", optionalName b.parentProvider),
    ("root_data_provider", optionalName b.rootProvider)]

def ofJson? (j : Json) : Option BasicDefinition := do
  let fs ← Fields.ofJson? ["mode", "data_provider", "parent_data_provider", "root_data_provider"] j
  return {
    mode := ← Fields.withDefault? ["mode"] .flat Mode.ofJson? fs
    dataProvider := ← Fields.required? ["data_provider"] Json.str? fs
    parentProvider := ← Fields.optional? ["parent_data_provider"] Json.str? fs
    rootProvider := ← Fields.optional? ["root_data_provider"] Json.str? fs }

end BasicDefinition

structure ContainerConfig where
  name : String
  basic : BasicDefinition
  /-- Selector fields besides those that the palettes name. -/
  selectors : List String := []
  palettes : Option Json := none
  subpalettes : Option Json := none
  relations : Relations := {}
  deriving Repr

namespace ContainerConfig

def toJson (c : ContainerConfig) : Json :=
  .obj ([("name", .str c.name), ("basic", c.basic.toJson)] ++
    (if c.selectors.isEmpty then [] else [("selectors", .arr (c.selectors.map .str))]) ++
    Fields.optionalMember "palettes" c.palettes ++
    Fields.optionalMember "subpalettes" c.subpalettes ++
    [("relationships", c.relations.toJson)])

def ofJson? (j : Json) : Option ContainerConfig := do
  let fs ← Fields.ofJson?
    ["name", "basic", "selectors", "palettes", "subpalettes", "relationships"] j
  return {
    name := ← Fields.required? ["name"] Json.str? fs
    basic := ← Fields.required? ["basic"] BasicDefinition.ofJson? fs
    selectors := ← Fields.withDefault? ["selectors"] [] (Json.listOf? Json.str?) fs
    palettes := ← Fields.optional? ["palettes"] some fs
    subpalettes := ← Fields.optional? ["subpalettes"] some fs
    relations := ← Fields.withDefault? ["relationships"] {} Relations.ofJson? fs }

/-- The places of a definition that know their members. -/
inductive Place where
  | value
  | choice
  | config
  | basic
  | relations
  | root
  | children
  | child
  | template
  | rule
  | setters
  | setter

namespace Place

/-- The members in the order of the fields, and after them their other names. -/
def members : Place → Option (List (String × Place))
  | .config => some [("name", .value), ("basic", .basic), ("selectors", .value),
      ("palettes", .value), ("subpalettes", .value), ("relationships", .relations)]
  | .basic => some [("mode", .choice), ("data_provider", .value),
      ("parent_data_provider", .value), ("root_data_provider", .value)]
  | .relations => some [("root", .root), ("children", .children)]
  | .root => some [("provider", .value), ("filter", .template), ("setters", .setters)]
  | .child => some [("from", .value), ("to", .value), ("filter", .template),
      ("inverse", .template), ("setters", .setters), ("source", .value), ("destination", .value)]
  | .rule => some [("operation", .choice), ("local", .value), ("remote", .value),
      ("remote_value", .value), ("property", .value), ("value", .value), ("children", .template)]
  | .setter => some [("to_field", .value), ("from_field", .value), ("value", .value),
      ("property", .value)]
  | _ => none

def items : Place → Option Place
  | .children => some .child
  | .template => some .rule
  | .setters => some .setter
  | _ => none

def asWritten : Place → Bool
  | .choice => true
  | _ => false

def grammar : Grammar Place := ⟨members, items, asWritten⟩

end Place

def ofText? (text : String) : Option ContainerConfig := do
  let d ← Document.ofText? text
  let j ← d.read? Place.grammar .config Document.maxDepth
  ofJson? j

end ContainerConfig
end RecordEditing
