import RecordEditing.Relation.Root

/-!
The relations of a container and how they place records. Only a hierarchical container has roots,
and a flat one has no structure at all.
-/
namespace RecordEditing

inductive Mode where
  /-- Records without structure. -/
  | flat
  /-- Every record belongs to one of another provider. -/
  | parented
  /-- A tree, possibly of several providers. -/
  | hierarchical
  deriving DecidableEq, Repr

namespace Mode

def word : Mode → String
  | .flat => "flat"
  | .parented => "parented_list"
  | .hierarchical => "hierarchical"

def ofWord? : String → Option Mode
  | "flat" => some .flat
  | "parented_list" | "parented" => some .parented
  | "hierarchical" => some .hierarchical
  | _ => none

def ofJson? (j : Json) : Option Mode := Json.choice? false ofWord? j

end Mode

structure Relations where
  root : Option RootCondition := none
  children : List ParentChild := []
  deriving Repr

namespace Relations

def between? (rs : Relations) (source destination : String) : Option ParentChild :=
  rs.children.find? fun c => c.source == source && c.destination == destination

def startingAt (rs : Relations) (source : String) : List ParentChild :=
  rs.children.filter (·.source == source)

def endingAt (rs : Relations) (destination : String) : List ParentChild :=
  rs.children.filter (·.destination == destination)

def requireBetween (rs : Relations) (source destination : String) :
    Except RelationError ParentChild :=
  match rs.between? source destination with
  | some c => .ok c
  | none => .error (.configuration (.noRelation source destination))

def validate (rs : Relations) : Except RelationError Unit := do
  match rs.root with
  | some root => root.validate
  | none => .ok ()
  rs.children.forM ParentChild.validate

def isRoot (rs : Relations) (mode : Mode) (r : Record) : Bool :=
  mode == .hierarchical && rs.root.any (·.holds r)

/-- Makes a record a root; without a hierarchy nothing is to be done. -/
def setRoot (rs : Relations) (mode : Mode) (r : Record) : Written :=
  if mode = .hierarchical then
    match rs.root with
    | some root => root.applyTo r
    | none => .failed r (.configuration .noRootCondition)
  else .unchanged r

def setParent (rs : Relations) (mode : Mode) (parent child : Record) : Written :=
  if mode = .flat then .unchanged child
  else
    match rs.requireBetween parent.provider child.provider with
    | .ok c => c.applyTo parent child
    | .error e => .failed child e

/-- Gives a record the position of another one: the root level, or the same parent among the records
of a provider. -/
def setSameParent (rs : Relations) (mode : Mode) (parentProvider : String)
    (sibling receiver : Record) : Written :=
  if rs.isRoot mode sibling then rs.setRoot mode receiver
  else if mode = .flat then .unchanged receiver
  else
    match rs.requireBetween parentProvider sibling.provider with
    | .ok c => c.copyFrom sibling receiver
    | .error e => .failed receiver e

/-- Writes to one record after the other up to the first failure. -/
def writeEach (write : Record → Written) : List Record → List Record × Except RelationError Unit
  | [] => ([], .ok ())
  | r :: rest =>
    match (write r).result with
    | .error e => ((write r).record :: rest, .error e)
    | .ok () =>
      let (written, result) := writeEach write rest
      ((write r).record :: written, result)

def toJson (rs : Relations) : Json :=
  .obj (Fields.optionalMember "root" (rs.root.map RootCondition.toJson) ++
    [("children", .arr (rs.children.map ParentChild.toJson))])

def ofJson? (j : Json) : Option Relations := do
  let fs ← Fields.ofJson? ["root", "children"] j
  return {
    root := ← Fields.optional? ["root"] RootCondition.ofJson? fs
    children := ← Fields.withDefault? ["children"] [] (Json.listOf? ParentChild.ofJson?) fs }

end Relations
end RecordEditing
