import RecordEditing.Command.Report
import RecordEditing.Record.Input
import RecordEditing.Store.Basic

/-!
What commands read: definitions of containers, data sets, and single records and inputs. A data set
is an object with a list of records for each provider.
-/
namespace RecordEditing

structure SourceFile where
  path : String
  content : Option String
  deriving DecidableEq, Repr

namespace SourceFile

def container (file : SourceFile) : Except Failure Container :=
  let loaded : Except Failure Container :=
    match file.content with
    | none => .error { cause := .unreadable }
    | some text =>
      match ContainerConfig.ofText? text with
      | none => .error { cause := .malformed }
      | some config => config.compile.mapError fun e => { cause := .container e }
  loaded.mapError (.during (.loadingContainer file.path))

end SourceFile

/-- The members of an object; nothing else is taken for a record. -/
def Json.asObject (j : Json) : Except Failure (List (String × Json)) :=
  match j with
  | .obj members => .ok members
  | found => .error { cause := .notObject found }

def Json.ofSource (source : String) (text : String) : Except Failure Json :=
  match Json.ofText? text with
  | some j => .ok j
  | none => .error { activities := [.parsing source], cause := .malformed }

namespace Store

def takeRecords (provider : String) (index : Nat) : List Json → Except Failure (List Record)
  | [] => .ok []
  | j :: rest =>
    match j.asObject with
    | .error f => .error (f.during (.takingRecord index provider))
    | .ok properties =>
      (takeRecords provider (index + 1) rest).map (⟨provider, properties⟩ :: ·)

def takeTable (provider : String) : Json → Except Failure Table
  | .arr items => (takeRecords provider 0 items).map (.ofRecords provider)
  | _ => .error { cause := .notRecordList provider }

def ofDataSet : Json → Except Failure Store
  | .obj providers => (providers.mapM fun e => takeTable e.1 e.2).map ofTables
  | _ => .error { cause := .notDataSet }

end Store

namespace SourceFile

def store (file : SourceFile) : Except Failure Store :=
  match file.content with
  | none => .error { activities := [.reading file.path], cause := .unreadable }
  | some text => do
    let j ← Json.ofSource file.path text
    (Store.ofDataSet j).mapError (.during (.loadingData file.path))

end SourceFile

def Record.ofSource (provider text : String) : Except Failure Record := do
  let j ← Json.ofSource "--record" text
  return ⟨provider, ← j.asObject⟩

def PendingInput.ofSource (text : String) : Except Failure PendingInput := do
  let j ← Json.ofSource "--input" text
  return ⟨← j.asObject, []⟩

end RecordEditing
