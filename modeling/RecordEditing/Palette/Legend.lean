import RecordEditing.Named
import RecordEditing.Palette.ConditionText

/-!
Fields and legends. A legend is a named, ordered group of fields, in which a field occurs once: to
place it again only widens the condition under which it is visible.
-/
namespace RecordEditing

/-- A field of a form. Without conditions it is always visible and always editable. -/
structure Field where
  name : String
  visible : Option Condition := none
  editable : Option Condition := none
  deriving Repr

instance : Named Field := ⟨Field.name⟩

namespace Field

def holdsOr (form : FormState) (c : Option Condition) : Bool := c.all (·.holds form)

def isVisible (f : Field) (form : FormState) : Bool := holdsOr form f.visible

def isEditable (f : Field) (form : FormState) : Bool := holdsOr form f.editable

/-- The conditions of two placements: where one has none the field is always visible. -/
def mergeVisible : Option Condition → Option Condition → Option Condition
  | some c, some d => some (c.orElse d)
  | _, _ => none

/-- Another placement of the field counts only for where the field is visible. -/
def merge (f other : Field) : Field := { f with visible := mergeVisible f.visible other.visible }

def conditionMember (name : String) (c : Option Condition) : Fields :=
  Fields.optionalMember name (c.map Condition.toJson)

def toJson (f : Field) : Json :=
  .obj (("name", .str f.name) ::
    (conditionMember "visible_condition" f.visible ++
      conditionMember "editable_condition" f.editable))

def ofJson? (j : Json) : Option Field := do
  let fs ← Fields.ofJson? ["name", "visible_condition", "editable_condition"] j
  return {
    name := ← Fields.required? ["name"] Json.str? fs
    visible := ← Fields.optional? ["visible_condition"] Condition.ofJson? fs
    editable := ← Fields.optional? ["editable_condition"] Condition.ofJson? fs }

end Field

structure Legend where
  name : String
  fields : List Field := []
  isOpen : Bool := true
  deriving Repr

instance : Named Legend := ⟨Legend.name⟩

namespace Legend

/-- Places a field, before the one called `before` if that is there. A field already in the legend
is merged where it stands. -/
def place (l : Legend) (f : Field) (before : Option String) : Legend :=
  if Named.has f.name l.fields then
    { l with fields := Named.update f.name (·.merge f) l.fields }
  else { l with fields := Named.insertAt before f l.fields }

def add (l : Legend) (f : Field) : Legend := l.place f none

def remove (l : Legend) (name : String) : Legend :=
  { l with fields := Named.remove name l.fields }

def field? (l : Legend) (name : String) : Option Field := Named.find? name l.fields

def visibleFields (l : Legend) (form : FormState) : List Field :=
  l.fields.filter (·.isVisible form)

def toJson (l : Legend) : Json :=
  .obj [("name", .str l.name), ("properties", .arr (l.fields.map Field.toJson)),
    ("initially_visible", .bool l.isOpen)]

def ofJson? (j : Json) : Option Legend := do
  let fs ← Fields.ofJson? ["name", "properties", "initially_visible"] j
  return {
    name := ← Fields.required? ["name"] Json.str? fs
    fields := ← Fields.withDefault? ["properties"] [] (Json.listOf? Field.ofJson?) fs
    isOpen := ← Fields.withDefault? ["initially_visible"] true Json.bool? fs }

end Legend
end RecordEditing
