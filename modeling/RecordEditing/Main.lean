import RecordEditing.Command.Arguments
import RecordEditing.Command.Basic

/-!
The command line: reads the files that a command names, prints its lines, and after them what went
wrong.
-/
namespace RecordEditing

def readSource (path : String) : IO SourceFile := do
  try
    let content ← IO.FS.readFile path
    return ⟨path, some content⟩
  catch _ => return ⟨path, none⟩

def readCommand (a : Arguments) : IO (Option Command) := do
  match a.positional, a.get? "record", a.get? "data" with
  | ["palettes", container], _, _ => return some (.palettes (← readSource container))
  | ["resolve", container], some record, _ =>
    return some (.resolve (← readSource container) record (a.get? "input"))
  | ["tree", container], _, some data =>
    let label := (a.get? "label").getD "title"
    return some (.tree (← readSource container) (← readSource data) label)
  | ["parent", container, id], _, some data =>
    return some (.parent (← readSource container) (← readSource data) id)
  | _, _, _ => return none

def usage : String :=
  "usage: palettes CONTAINER\n" ++
  "       resolve CONTAINER --record RECORD [--input INPUT]\n" ++
  "       tree CONTAINER --data DATA [--label PROPERTY]\n" ++
  "       parent CONTAINER --data DATA ID"

def printReport (r : Report) : IO UInt32 := do
  for line in r.lines do IO.println line
  match r.failure with
  | none => return 0
  | some f =>
    IO.eprintln ("Error: " ++ ": ".intercalate f.messages)
    return 1

end RecordEditing

def main (arguments : List String) : IO UInt32 := do
  let command ← match RecordEditing.Arguments.ofList? arguments with
    | some a => RecordEditing.readCommand a
    | none => pure none
  match command with
  | some command => RecordEditing.printReport command.report
  | none =>
    IO.eprintln RecordEditing.usage
    return 2
