import RecordEditing.Palette.Source

/-!
What selectors mean. The selector of a palette is a row of values and names of selector fields: a
name asks for the field to be set, and a value for some selector field to have it. The key of a
sub-palette is a selector field, alone or with a value after an underscore.
-/
namespace RecordEditing
namespace Selector

/-- Names of selector fields are marked off by bars, one name after the other. -/
def markNames (selectors : List String) (cs : List Char) : List Char :=
  selectors.foldl (fun working name =>
    if name = "" then working
    else replaceAll name.toList ('|' :: (name.toList ++ ['|'])) working) cs

/-- The parts of a selector. A selector with bars of its own is taken as it is. -/
def parts (selector : String) (selectors : List String) : List String :=
  let cs := selector.toList
  let working := if cs.contains '|' then cs else markNames selectors cs
  (tokens (· = '|') working).map String.ofList

def partCondition (selectors : List String) (part : String) : Condition :=
  if selectors.contains part then .setTo part
  else .chain .any (selectors.map fun name => .textIs name part)

def paletteCondition (selector : String) (selectors : List String) : Condition :=
  if selector = Palette.defaultName then .always
  else .chain .all ((parts selector selectors).map (partCondition selectors))

def keyCuts (key : String) : List (String × String) :=
  (cutsAt '_' key.toList).map fun (front, rest) => (String.ofList front, String.ofList rest)

/-- The field below which a sub-palette shows. -/
def owner (key : String) (selectors : List String) : String :=
  if selectors.contains key then key
  else
    match (keyCuts key).find? fun cut => selectors.contains cut.1 with
    | some (front, _) => front
    | none => key

/-- The condition of a sub-palette: its field is set, or has the value after the underscore. -/
def subpaletteCondition (key : String) (selectors : List String) : Condition :=
  if selectors.contains key then .setTo key
  else
    match (keyCuts key).find? fun cut => cut.2 ≠ "" && selectors.contains cut.1 with
    | some (front, rest) => .textIs front rest
    | none => .setTo key

end Selector
end RecordEditing
