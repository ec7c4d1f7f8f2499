import RecordEditing.Palette.Basic
import RecordEditing.Text.Split

/-!
Palettes as they are written in container definitions: a field list for each selector, the names of
the selector fields, and field lists that show only below a selector field.
-/
namespace RecordEditing

structure PaletteSource where
  selectors : List String := []
  /-- Selectors with their field lists. -/
  palettes : List (String × String) := []
  /-- Keys of sub-palettes with their field lists. -/
  subpalettes : List (String × String) := []
  deriving Repr

namespace PaletteSource

def selectorKey : String := "__selector__"

def texts (ms : List (String × Json)) : List (String × String) :=
  ms.filterMap fun (k, v) => v.str?.map (k, ·)

def selectorsOf (ms : List (String × Json)) : Except PaletteError (List String) :=
  match Entries.find? selectorKey ms with
  | none => .ok []
  | some (.arr names) => .ok (names.filterMap Json.str?)
  | some _ => .error (.notSelectorList selectorKey)

def subpalettesOf : Option Json → Except PaletteError (List (String × String))
  | none => .ok []
  | some (.obj ms) => .ok (texts ms)
  | some _ => .error (.notFieldLists "subpalettes")

/-- Reads the members of two objects. What is no text is passed over. -/
def ofJson (palettes : Json) (subpalettes : Option Json) : Except PaletteError PaletteSource :=
  match palettes with
  | .obj ms => do
    let selectors ← selectorsOf ms
    let subs ← subpalettesOf subpalettes
    return ⟨selectors, texts (ms.filter (·.1 ≠ selectorKey)), subs⟩
  | _ => .error (.notFieldLists "palettes")

def fieldTokens (fields : String) : List String :=
  (tokens (fun c => c = ';' || c = ',') fields.toList).map String.ofList

/-- The legend a token opens: a name in braces, with an optional `_legend` at its end and an optional
`:hide` before the closing brace. The answer is the name and whether the legend is hidden. -/
def legendToken? (token : String) : Option (String × Bool) :=
  match token.toList with
  | '\x7b' :: cs =>
    let name := cs.takeWhile fun c => c ≠ ':' && c ≠ '\x7d'
    let rest := cs.dropWhile fun c => c ≠ ':' && c ≠ '\x7d'
    let hidden := rest = ":hide\x7d".toList
    if name ≠ [] ∧ (hidden ∨ rest = ['\x7d']) then
      some (String.ofList (dropSuffix "_legend".toList name), hidden)
    else none
  | _ => none

end PaletteSource
end RecordEditing
