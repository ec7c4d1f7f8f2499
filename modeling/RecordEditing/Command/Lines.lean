import RecordEditing.Container.Outline

/-!
The lines that commands print. A level of indentation is two blanks wide.
-/
namespace RecordEditing

def Container.heading (c : Container) (word : String) : String :=
  word ++ " " ++ c.name ++ " (" ++ c.basic.mode.word ++ ")"

def namelessText : String := "<record without id>"

def indent (depth : Nat) (text : String) : String :=
  String.ofList (List.replicate (2 * depth) ' ') ++ text

namespace Field

def fieldLine (text : String) : String := indent 2 ("- " ++ text)

def conditionLine (f : Field) : String :=
  match f.visible with
  | some c => fieldLine (f.name ++ " if " ++ c.text)
  | none => fieldLine f.name

def stateLine (form : FormState) (f : Field) : String :=
  fieldLine (f.name ++ if f.isEditable form then "" else " (read-only)")

end Field

namespace Legend

def lines (l : Legend) : List String :=
  indent 1 (l.name ++ if l.isOpen then "" else " (hidden)") :: l.fields.map Field.conditionLine

/-- A legend without visible fields is left out. -/
def visibleLines (form : FormState) (l : Legend) : List String :=
  match l.visibleFields form with
  | [] => []
  | fields => indent 1 l.name :: fields.map (Field.stateLine form)

end Legend

namespace Palette

def heading (p : Palette) : String := "Palette " ++ p.name

def lines (p : Palette) : List String :=
  "" :: p.heading :: indent 1 ("when " ++ p.condition.text) :: p.legends.flatMap Legend.lines

def visibleLines (form : FormState) (p : Palette) : List String :=
  p.heading :: p.legends.flatMap (Legend.visibleLines form)

end Palette

def PaletteCollection.lines (c : PaletteCollection) : List String :=
  match c.palettes with
  | [] => [indent 1 "no palettes"]
  | palettes => palettes.flatMap Palette.lines

namespace OutlineLine

/-- The labelled property as it is shown: a string bare, nothing for null. -/
def labelText (label : String) (r : Record) : String :=
  match r.get? label with
  | none => ""
  | some .null => ""
  | some v => " " ++ v.shown

def text (label : String) (line : OutlineLine) : String :=
  indent (line.depth + 1) <|
    match line.record.ref? with
    | none => namelessText
    | some ref => ref.text ++ labelText label line.record ++ if line.repeated then " (cycle)" else ""

end OutlineLine

end RecordEditing
