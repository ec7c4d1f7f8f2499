import RecordEditing.Command.Lines
import RecordEditing.Command.Load

/-!
The commands: list the palettes of a container, show the palette of a record, print the records of
a container as a tree, and name the parent of a record.
-/
namespace RecordEditing

inductive Command where
  | palettes (container : SourceFile)
  | resolve (container : SourceFile) (record : String) (input : Option String)
  | tree (container data : SourceFile) (label : String)
  | parent (container data : SourceFile) (id : String)
  deriving DecidableEq, Repr

namespace Command

def palettesReport (container : SourceFile) : Report :=
  .andThen container.container fun c => .ofLines (c.heading "Container" :: c.palettes.lines)

def formOf (c : Container) (record : String) (input : Option String) :
    Except Failure FormState := do
  let r ← Record.ofSource c.basic.dataProvider record
  let pending ← input.mapM PendingInput.ofSource
  return ⟨some r, pending⟩

def resolveReport (container : SourceFile) (record : String) (input : Option String) : Report :=
  .andThen container.container fun c =>
    .andThen (formOf c record input) fun form =>
      match c.palettes.choose form with
      | .error e => .failed ⟨[.choosingPalette], .palette e⟩
      | .ok palette => .ofLines (palette.visibleLines form)

def treeLines (c : Container) (store : Store) (label : String) : Report :=
  match c.tops store with
  | .error e => .failed { cause := .relation e }
  | .ok [] => .ofLines [indent 1 "no records"]
  | .ok tops =>
    let o := c.outline store tops
    ⟨o.lines.map (OutlineLine.text label), o.failure.map fun e => { cause := .relation e }⟩

def treeReport (container data : SourceFile) (label : String) : Report :=
  .andThen container.container fun c =>
    .andThen data.store fun store => .after (c.heading "Tree") (treeLines c store label)

def lookUp (store : Store) (id : String) : Except Failure Record :=
  match (RecordRef.ofText id).bind store.find? with
  | .error e => .error ⟨[.lookingUp id], .record e⟩
  | .ok none => .error { cause := .noRecord id }
  | .ok (some r) => .ok r

def parentLine (id : String) : Option Record → String
  | none => id ++ " has no parent"
  | some found => id ++ " → " ++ (found.ref?.map RecordRef.text).getD namelessText

def parentReport (container data : SourceFile) (id : String) : Report :=
  .andThen container.container fun c =>
    .andThen data.store fun store =>
      .andThen (lookUp store id) fun r =>
        if c.isRoot r then .ofLines [id ++ " is a root record"]
        else
          match c.parentOf store r with
          | .error e => .failed { cause := .relation e }
          | .ok found => .ofLines [parentLine id found]

def report : Command → Report
  | .palettes container => palettesReport container
  | .resolve container record input => resolveReport container record input
  | .tree container data label => treeReport container data label
  | .parent container data id => parentReport container data id

end Command
end RecordEditing
