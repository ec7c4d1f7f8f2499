import RecordEditing.Relation.ParentChild

/-!
Which records of a provider are the roots of a tree, and how a record becomes one. There is no
known record, so neither the filter nor the setters may read one.
-/
namespace RecordEditing

structure RootCondition where
  provider : String
  filter : List TemplateRule := []
  setters : List Setter := []
  deriving Repr

namespace RootCondition

def relation (c : RootCondition) : Relation := .root c.provider

def rootFilter (c : RootCondition) : Except RelationError (List FilterRule) :=
  TemplateRule.instantiateItems none c.filter

/-- Is the record a root? No record is if the filter cannot be built. -/
def holds (c : RootCondition) (r : Record) : Bool :=
  r.provider == c.provider &&
    match c.rootFilter with
    | .ok filter => matchesFilter filter r
    | .error _ => false

def requireSetters (c : RootCondition) : Except RelationError Unit :=
  if c.setters.isEmpty then .error (.configuration (.noSetters c.relation)) else .ok ()

/-- Only values can be written. -/
def literalOnly : Assignment → Except RelationError (String × Json)
  | .copy target _ => .error (.configuration (.copyingRootSetter target))
  | .literal target value => .ok (target, value)

def applyTo (c : RootCondition) (r : Record) : Written :=
  match (do
    c.requireSetters
    checkProvider c.provider r : Except RelationError Unit) with
  | .error e => .failed r e
  | .ok () => Setter.writeAll literalOnly c.setters r

/-- A condition can be used if it has setters and a filter, every setter is well formed and writes a
value, and the filter can be built. -/
def validate (c : RootCondition) : Except RelationError Unit := do
  c.requireSetters
  if c.filter.isEmpty then .error (.configuration (.noFilter c.relation))
  c.setters.forM fun s => s.assignment.bind fun a => (literalOnly a).map fun _ => ()
  c.rootFilter.map fun _ => ()

def toJson (c : RootCondition) : Json :=
  .obj [("provider", .str c.provider), ("filter", .arr (TemplateRule.toItems c.filter)),
    ("setters", .arr (c.setters.map Setter.toJson))]

def ofJson? (j : Json) : Option RootCondition := do
  let fs ← Fields.ofJson? ["provider", "filter", "setters"] j
  return {
    provider := ← Fields.required? ["provider"] Json.str? fs
    filter := ← Fields.withDefault? ["filter"] [] TemplateRule.listOfJson? fs
    setters := ← Fields.withDefault? ["setters"] [] (Json.listOf? Setter.ofJson?) fs }

end RootCondition
end RecordEditing
