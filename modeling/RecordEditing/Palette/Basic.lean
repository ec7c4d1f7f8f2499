import RecordEditing.Palette.Legend

/-!
Palettes and collections of them. A palette lays out the fields of a form in legends and has a
condition; the palette with the best score is chosen for a form.
-/
namespace RecordEditing

structure Palette where
  name : String
  condition : Condition := .always
  legends : List Legend := []
  deriving Repr

instance : Named Palette := ⟨Palette.name⟩

namespace Palette

def defaultName : String := "default"

def insertLegend (p : Palette) (l : Legend) (before : Option String) : Palette :=
  { p with legends := Named.insertAt before l p.legends }

def legend? (p : Palette) (name : String) : Option Legend := Named.find? name p.legends

def ensureLegend (p : Palette) (name : String) : Palette :=
  if Named.has name p.legends then p else { p with legends := p.legends ++ [{ name }] }

def updateLegend (p : Palette) (name : String) (f : Legend → Legend) : Palette :=
  { p with legends := Named.update name f p.legends }

def removeLegend (p : Palette) (name : String) : Palette :=
  { p with legends := Named.remove name p.legends }

def visibleFields (p : Palette) (form : FormState) : List Field :=
  p.legends.flatMap (·.visibleFields form)

def field? (p : Palette) (name : String) : Option Field := p.legends.findSome? (·.field? name)

def updateField (name : String) (f : Field → Field) : List Legend → List Legend
  | [] => []
  | l :: ls =>
    if Named.has name l.fields then { l with fields := Named.update name f l.fields } :: ls
    else l :: updateField name f ls

def withField (p : Palette) (name : String) (f : Field → Field) : Palette :=
  { p with legends := updateField name f p.legends }

def score? (p : Palette) (form : FormState) : Option UInt32 := p.condition.score? form

def toJson (p : Palette) : Json :=
  .obj [("name", .str p.name), ("condition", p.condition.toJson),
    ("legends", .arr (p.legends.map Legend.toJson))]

def ofJson? (j : Json) : Option Palette := do
  let fs ← Fields.ofJson? ["name", "condition", "legends"] j
  return {
    name := ← Fields.required? ["name"] Json.str? fs
    condition := ← Fields.required? ["condition"] Condition.ofJson? fs
    legends := ← Fields.withDefault? ["legends"] [] (Json.listOf? Legend.ofJson?) fs }

end Palette

inductive PaletteError where
  | noMatch
  | ambiguous (score : UInt32) (names : List String)
  | unknown (name : String)
  /-- The field lists under this name are no object. -/
  | notFieldLists (place : String)
  /-- The names of the selector fields are no list. -/
  | notSelectorList (place : String)
  deriving DecidableEq, Repr

namespace PaletteError

def invalidMessage (place fault : String) : String :=
  "invalid palette configuration for `" ++ place ++ "`: " ++ fault

def message : PaletteError → String
  | .noMatch => "no palette matches the provided data"
  | .ambiguous score names =>
    "more than one palette matches exactly (score " ++ toString score.toNat ++ "): " ++
      ", ".intercalate names
  | .unknown name => "unknown palette `" ++ name ++ "`"
  | .notFieldLists place => invalidMessage place "expected an object of field lists"
  | .notSelectorList place => invalidMessage place "expected an array of field names"

end PaletteError

/-- The best score that was met so far, and the palettes that have it. -/
structure Winners where
  best : Option UInt32 := none
  palettes : List Palette := []
  deriving Repr

namespace Winners

/-- Compares one more palette: it loses, joins the winners, or takes their place. -/
def offer (form : FormState) (w : Winners) (p : Palette) : Winners :=
  match p.score? form with
  | none => w
  | some score =>
    match w.best with
    | some top =>
      if score < top then w
      else if score = top then { w with palettes := w.palettes ++ [p] }
      else ⟨some score, [p]⟩
    | none => ⟨some score, [p]⟩

end Winners

structure PaletteCollection where
  palettes : List Palette
  deriving Repr

namespace PaletteCollection

def empty : PaletteCollection := ⟨[]⟩

def update (c : PaletteCollection) (name : String) (f : Palette → Palette) : PaletteCollection :=
  ⟨Named.update name f c.palettes⟩

/-- Adds a palette, in place of one of the same name. -/
def add (c : PaletteCollection) (p : Palette) : PaletteCollection :=
  if Named.has p.name c.palettes then c.update p.name fun _ => p
  else ⟨c.palettes ++ [p]⟩

def palette (c : PaletteCollection) (name : String) : Except PaletteError Palette :=
  match Named.find? name c.palettes with
  | some p => .ok p
  | none => .error (.unknown name)

def remove (c : PaletteCollection) (name : String) : PaletteCollection :=
  ⟨Named.remove name c.palettes⟩

def winners (c : PaletteCollection) (form : FormState) : Winners :=
  c.palettes.foldl (Winners.offer form) {}

def choose (c : PaletteCollection) (form : FormState) : Except PaletteError Palette :=
  let w := c.winners form
  match w.best, w.palettes with
  | some _, [single] => .ok single
  | some score, first :: more => .error (.ambiguous score ((first :: more).map Palette.name))
  | _, _ => .error .noMatch

def toJson (c : PaletteCollection) : Json :=
  .obj [("palettes", .arr (c.palettes.map Palette.toJson))]

def ofJson? (j : Json) : Option PaletteCollection := do
  let fs ← Fields.ofJson? ["palettes"] j
  return ⟨← Fields.required? ["palettes"] (Json.listOf? Palette.ofJson?) fs⟩

end PaletteCollection
end RecordEditing
