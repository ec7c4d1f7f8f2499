import RecordEditing.Relation.Instance
import RecordEditing.Relation.Setter

/-!
Conditions between parents and children. A condition names the providers of both, says by a
template which children a parent has, and by setters how a record becomes a child.
-/
namespace RecordEditing

structure ParentChild where
  source : String
  destination : String
  filter : List TemplateRule := []
  inverse : Option (List TemplateRule) := none
  setters : List Setter := []
  deriving Repr

def checkProvider (expected : String) (r : Record) : Except RelationError Unit :=
  if r.provider = expected then .ok () else .error (.providerMismatch expected r.provider)

namespace ParentChild

def relation (c : ParentChild) : Relation := .child c.source c.destination

/-- The template that searches parents: the one given, or the links of the filter turned round. -/
def inverseTemplate (c : ParentChild) : List TemplateRule :=
  c.inverse.getD (TemplateRule.inverses c.filter)

def childFilter (c : ParentChild) (parent : Record) : Except RelationError (List FilterRule) :=
  TemplateRule.instantiateItems (some parent) c.filter

def parentFilter (c : ParentChild) (child : Record) : Except RelationError (List FilterRule) :=
  match c.inverseTemplate with
  | [] => .error (.configuration (.noInverse c.source c.destination))
  | template => TemplateRule.instantiateItems (some child) template

def requireSetters (c : ParentChild) : Except RelationError Unit :=
  if c.setters.isEmpty then .error (.configuration (.noSetters c.relation)) else .ok ()

/-- What a setter writes for a new parent: its properties, null where it lacks one. -/
def fromParent (parent : Record) : Assignment → Except RelationError (String × Json)
  | .copy target source => .ok (target, (parent.get? source).getD .null)
  | .literal target value => .ok (target, value)

/-- What a setter writes for the parent of a sibling: what the sibling has. -/
def fromSibling (sibling : Record) : Assignment → Except RelationError (String × Json)
  | .copy target _ => .ok (target, (sibling.get? target).getD .null)
  | .literal target value => .ok (target, value)

def applyTo (c : ParentChild) (parent child : Record) : Written :=
  match (do
    c.requireSetters
    checkProvider c.source parent
    checkProvider c.destination child : Except RelationError Unit) with
  | .error e => .failed child e
  | .ok () => Setter.writeAll (fromParent parent) c.setters child

def copyFrom (c : ParentChild) (sibling receiver : Record) : Written :=
  match (do
    c.requireSetters
    checkProvider c.destination sibling
    checkProvider c.destination receiver : Except RelationError Unit) with
  | .error e => .failed receiver e
  | .ok () => Setter.writeAll (fromSibling sibling) c.setters receiver

def relates (c : ParentChild) (parent child : Record) : Bool :=
  parent.provider == c.source && child.provider == c.destination &&
    TemplateRule.allHoldBetween parent child c.filter

def neededProperties (c : ParentChild) : List String := firstSeen (TemplateRule.readsOf c.filter)

/-- A condition can be used if it has setters, all of them well formed, and a filter. -/
def validate (c : ParentChild) : Except RelationError Unit := do
  c.requireSetters
  c.setters.forM fun s => s.assignment.map fun _ => ()
  if c.filter.isEmpty then .error (.configuration (.noFilter c.relation))

def toJson (c : ParentChild) : Json :=
  .obj ([("from", .str c.source), ("to", .str c.destination),
      ("filter", .arr (TemplateRule.toItems c.filter))] ++
    Fields.optionalMember "inverse" (c.inverse.map fun ts => .arr (TemplateRule.toItems ts)) ++
    [("setters", .arr (c.setters.map Setter.toJson))])

def ofJson? (j : Json) : Option ParentChild := do
  let fs ← Fields.ofJson? ["from", "to", "filter", "inverse", "setters"] j
  return {
    source := ← Fields.required? ["from", "source"] Json.str? fs
    destination := ← Fields.required? ["to", "destination"] Json.str? fs
    filter := ← Fields.withDefault? ["filter"] [] TemplateRule.listOfJson? fs
    inverse := ← Fields.optional? ["inverse"] TemplateRule.listOfJson? fs
    setters := ← Fields.withDefault? ["setters"] [] (Json.listOf? Setter.ofJson?) fs }

end ParentChild
end RecordEditing
