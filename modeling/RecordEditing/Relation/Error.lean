import RecordEditing.Record.Basic
import RecordEditing.Relation.Template

/-!
What can go wrong when records are related to each other.
-/
namespace RecordEditing

/-- A way to fill one property of a record: from a property of another record, or with a value. The
parts are kept as written. -/
structure Setter where
  target : Option String := none
  source : Option String := none
  value : Option Json := none
  deriving Repr

namespace Setter

def toJson (s : Setter) : Json :=
  .obj (Fields.optionalMember "to_field" (s.target.map .str) ++
    Fields.optionalMember "from_field" (s.source.map .str) ++
    Fields.optionalMember "value" s.value)

def ofJson? (j : Json) : Option Setter := do
  let fs ← Fields.ofJson? ["to_field", "from_field", "value"] j
  return {
    target := ← Fields.optional? ["to_field", "property"] Json.str? fs
    source := ← Fields.optional? ["from_field"] Json.str? fs
    value := ← Fields.optional? ["value"] some fs }

end Setter

inductive Relation where
  | child (source destination : String)
  | root (provider : String)
  deriving DecidableEq, Repr

inductive RelationFault where
  | malformedRule (rule : TemplateRule)
  | emptyGroup
  | malformedSetter (setter : Setter)
  | noSetters (relation : Relation)
  | noFilter (relation : Relation)
  | noInverse (source destination : String)
  | copyingRootSetter (target : String)
  | noRootCondition
  | noRelation (source destination : String)
  | noParentProvider
  deriving Repr

inductive RelationError where
  | configuration (fault : RelationFault)
  /-- A link was to be filled in, but there is no known record. -/
  | missingParent (property : String)
  | providerMismatch (expected actual : String)
  | notFound (ref : RecordRef)
  /-- The target belongs to what is being moved. -/
  | circular (ref : RecordRef)
  | record (error : RecordError)
  deriving Repr

def Relation.text : Relation → String
  | .child source destination => "relationship " ++ source ++ " -> " ++ destination
  | .root provider => "root condition of " ++ provider

def RelationFault.message : RelationFault → String
  | .malformedRule rule =>
    "filter rule " ++ rule.toJson.text ++ " names neither a link nor a literal"
  | .emptyGroup => "filter group without children"
  | .malformedSetter setter =>
    "setter " ++ setter.toJson.text ++
      " must be \x7bto_field, from_field\x7d or \x7bto_field, value\x7d"
  | .noSetters relation => relation.text ++ " has no setters"
  | .noFilter relation => relation.text ++ " has no filter"
  | .noInverse source destination =>
    (Relation.child source destination).text ++ " has no inverse filter"
  | .copyingRootSetter target => "root setter for `" ++ target ++ "` cannot copy from another field"
  | .noRootCondition => "hierarchical container has no root condition"
  | .noRelation source destination =>
    "no relationship from `" ++ source ++ "` to `" ++ destination ++ "`"
  | .noParentProvider => "parented list container has no parent data provider"

def RelationError.message : RelationError → String
  | .configuration fault => "relationship configuration error: " ++ fault.message
  | .missingParent property =>
    "rule reads `" ++ property ++ "` of the known record, but none was given"
  | .providerMismatch expected actual =>
    "expected a model of provider `" ++ expected ++ "`, got `" ++ actual ++ "`"
  | .notFound ref => "model `" ++ ref.text ++ "` not found"
  | .circular ref =>
    "cannot paste relative to `" ++ ref.text ++ "`: it is part of the cut selection"
  | .record error => error.message

end RecordEditing
