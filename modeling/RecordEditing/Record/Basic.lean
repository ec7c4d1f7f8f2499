import RecordEditing.Entries
import RecordEditing.Record.Id

/-!
Records: named properties owned by one provider. The property `id` holds the record's id.
-/
namespace RecordEditing

structure Record where
  provider : String
  properties : List (String × Json)
  deriving Repr

namespace Record

def idProperty : String := "id"

def empty (provider : String) : Record := ⟨provider, []⟩

def get? (r : Record) (name : String) : Option Json := Entries.find? name r.properties

def set (r : Record) (name : String) (value : Json) : Record :=
  { r with properties := Entries.insert name value r.properties }

def id? (r : Record) : Option RecordId := (r.get? idProperty).bind RecordId.ofValue?

def ref? (r : Record) : Option RecordRef := r.id?.map (⟨r.provider, ·⟩)

def setId (r : Record) (id : RecordId) : Record := r.set idProperty id.toJson

/-- Is this the record of the id? The property has to be the id itself, not a value loosely equal
to it. -/
def hasId (r : Record) (id : RecordId) : Bool := r.get? idProperty == some id.toJson

def ofJson? (j : Json) : Option Record := do
  let fs ← Fields.ofJson? ["provider", "properties"] j
  let provider ← Fields.required? ["provider"] Json.str? fs
  let properties ← Fields.required? ["properties"] Json.members? fs
  return ⟨provider, properties⟩

def toJson (r : Record) : Json :=
  .obj [("provider", .str r.provider), ("properties", .obj r.properties)]

@[simp]
theorem get?_set_self (r : Record) (name : String) (value : Json) :
    (r.set name value).get? name = some value :=
  Entries.find?_insert_self name value r.properties

theorem get?_set_of_ne (r : Record) {name other : String} (ne : name ≠ other) (value : Json) :
    (r.set name value).get? other = r.get? other :=
  Entries.find?_insert_of_ne ne value r.properties

theorem set_set (r : Record) (name : String) (first second : Json) :
    (r.set name first).set name second = r.set name second := by
  unfold set
  rw [Entries.insert_insert_self]

end Record
end RecordEditing
