import RecordEditing.Container.Basic

/-!
What a command answers: the lines it prints and, if it fails, what was being done and why it failed.
Lines printed before a failure stay.
-/
namespace RecordEditing

inductive Activity where
  | loadingContainer (path : String)
  | reading (path : String)
  | parsing (source : String)
  | loadingData (path : String)
  | takingRecord (index : Nat) (provider : String)
  | choosingPalette
  | lookingUp (id : String)
  deriving DecidableEq, Repr

inductive Cause where
  | unreadable
  /-- The text is no JSON, or not of the form that is wanted. -/
  | malformed
  | notObject (found : Json)
  | notDataSet
  | notRecordList (provider : String)
  | noRecord (id : String)
  | container (error : ContainerError)
  | palette (error : PaletteError)
  | record (error : RecordError)
  | relation (error : RelationError)
  deriving Repr

/-- A failure within activities, the widest one first. -/
structure Failure where
  activities : List Activity := []
  cause : Cause
  deriving Repr

structure Report where
  lines : List String := []
  failure : Option Failure := none
  deriving Repr

def Activity.message : Activity → String
  | .loadingContainer path => "loading container definition " ++ path
  | .reading path => "reading " ++ path
  | .parsing source => "parsing " ++ source
  | .loadingData path => "loading data set " ++ path
  | .takingRecord index provider => "record #" ++ toString index ++ " of `" ++ provider ++ "`"
  | .choosingPalette => "resolving palette"
  | .lookingUp id => "looking up " ++ id

def Cause.message? : Cause → Option String
  | .unreadable => none
  | .malformed => none
  | .notObject found => some ("expected a JSON object, found `" ++ found.text ++ "`")
  | .notDataSet => some "data set must be an object keyed by provider name"
  | .notRecordList provider => some ("records of `" ++ provider ++ "` must be an array")
  | .noRecord id => some ("record " ++ id ++ " not found")
  | .container error => some error.message
  | .palette error => some error.message
  | .record error => some error.message
  | .relation error => some error.message

namespace Failure

def during (activity : Activity) (f : Failure) : Failure :=
  { f with activities := activity :: f.activities }

def messages (f : Failure) : List String :=
  f.activities.map Activity.message ++ f.cause.message?.toList

end Failure

namespace Report

def ofLines (lines : List String) : Report := { lines }

def failed (f : Failure) : Report := { failure := some f }

def andThen {α : Type} (value : Except Failure α) (next : α → Report) : Report :=
  match value with
  | .ok a => next a
  | .error f => failed f

def after (line : String) (r : Report) : Report := { r with lines := line :: r.lines }

end Report
end RecordEditing
