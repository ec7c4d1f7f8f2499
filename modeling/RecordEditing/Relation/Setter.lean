import RecordEditing.Relation.Error

/-!
What setters do. A setter fills its target from a property of another record or with a value; any
other combination of parts is malformed.
-/
namespace RecordEditing

inductive Assignment where
  | copy (target source : String)
  | literal (target : String) (value : Json)
  deriving Repr

namespace Setter

def assignment (s : Setter) : Except RelationError Assignment :=
  match s.target, s.source, s.value with
  | some target, some source, none => .ok (.copy target source)
  | some target, none, some value => .ok (.literal target value)
  | _, _, _ => .error (.configuration (.malformedSetter s))

end Setter

/-- A record after an attempt to write to it. What was written before a failure stays written. -/
structure Written where
  record : Record
  result : Except RelationError Unit

namespace Written

def unchanged (r : Record) : Written := ⟨r, .ok ()⟩

def failed (r : Record) (e : RelationError) : Written := ⟨r, .error e⟩

end Written

namespace Setter

/-- Writes the setters in order up to the first malformed one. `source` says what a copy reads. -/
def writeAll (write : Assignment → Except RelationError (String × Json)) :
    List Setter → Record → Written
  | [], r => .unchanged r
  | s :: rest, r =>
    match s.assignment with
    | .error e => .failed r e
    | .ok a =>
      match write a with
      | .error e => .failed r e
      | .ok (target, value) => writeAll write rest (r.set target value)

end Setter
end RecordEditing
