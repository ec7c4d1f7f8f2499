import RecordEditing.Palette.Selector

/-!
From written palettes to collections. A field is placed in the legend that is open, and after it
the fields of the sub-palettes it owns, each visible only where all the sub-palettes around it are.
A palette that exists already gets the new condition and keeps its legends.
-/
namespace RecordEditing

/-- The fields of sub-palettes by the field that owns them. -/
abbrev SubPalettes := List (String × List Field)

namespace SubPalettes

def add (selectors : List String) (subs : SubPalettes) (entry : String × String) : SubPalettes :=
  let owner := Selector.owner entry.1 selectors
  let condition := Selector.subpaletteCondition entry.1 selectors
  let fields := (PaletteSource.fieldTokens entry.2).map fun name =>
    { name, visible := some condition : Field }
  Entries.insert owner ((Entries.find? owner subs).getD [] ++ fields) subs

def ofList (selectors : List String) (entries : List (String × String)) : SubPalettes :=
  entries.foldl (add selectors) []

theorem length_erase_lt {name : String} {subs : SubPalettes} {fields : List Field}
    (found : Entries.find? name subs = some fields) :
    (Entries.erase name subs).length < subs.length := by
  induction subs with
  | nil => simp [Entries.find?] at found
  | cons e subs ih =>
    obtain ⟨k, fs⟩ := e
    by_cases same : k = name
    · have := List.length_filter_le (fun e : String × List Field => decide (e.1 ≠ name)) subs
      simp only [Entries.erase, List.filter_cons, same, ne_eq, not_true_eq_false, decide_false,
        Bool.false_eq_true, ↓reduceIte, List.length_cons]
      simp only [ne_eq] at this
      omega
    · have := ih (by simpa [Entries.find?, same] using found)
      simp only [Entries.erase, List.filter_cons, ne_eq, same, not_false_eq_true, decide_true,
        ↓reduceIte, List.length_cons] at this ⊢
      omega

/-- The condition of a field inside a sub-palette that has a condition itself. -/
def within (outer inner : Option Condition) : Option Condition :=
  match outer, inner with
  | some o, some i => some (.chain .all [o, i])
  | _, i => i

/-- A field with the fields that show below it. On the way down a sub-palette is opened once. -/
def placements (subs : SubPalettes) (f : Field) : List Field :=
  match _found : Entries.find? f.name subs with
  | none => [f]
  | some children =>
    f :: children.flatMap fun child =>
      placements (Entries.erase f.name subs) { child with visible := within f.visible child.visible }
termination_by subs.length
decreasing_by exact length_erase_lt _found

end SubPalettes

namespace Palette

structure Reading where
  palette : Palette
  legend : String

def unnamedLegend : String := "unnamed"

def readToken (subs : SubPalettes) (state : Reading) (token : String) : Reading :=
  match PaletteSource.legendToken? token with
  | some (name, hidden) =>
    let p := state.palette.ensureLegend name
    ⟨p.updateLegend name ({ · with isOpen := !hidden }), name⟩
  | none =>
    let fields := SubPalettes.placements subs { name := token }
    let p := state.palette.ensureLegend state.legend
    { state with palette := p.updateLegend state.legend fun l => fields.foldl Legend.add l }

def readFields (subs : SubPalettes) (fields : String) (p : Palette) : Palette :=
  ((PaletteSource.fieldTokens fields).foldl (readToken subs) ⟨p, unnamedLegend⟩).palette

/-- Compiles the palette of a selector, on top of the one that there is. -/
def compile (subs : SubPalettes) (selectors : List String) (selector fields : String)
    (existing : Option Palette) : Palette :=
  let p := existing.getD { name := selector }
  readFields subs fields { p with condition := Selector.paletteCondition selector selectors }

end Palette

namespace PaletteSource

def compilePalette (subs : SubPalettes) (selectors : List String) (c : PaletteCollection)
    (entry : String × String) : PaletteCollection :=
  if entry.1 = selectorKey then c
  else c.add (Palette.compile subs selectors entry.1 entry.2 (Named.find? entry.1 c.palettes))

def allSelectors (source : PaletteSource) (extra : List String) : List String :=
  firstSeen (source.selectors ++ extra)

def compileInto (source : PaletteSource) (extra : List String) (c : PaletteCollection) :
    PaletteCollection :=
  let selectors := source.allSelectors extra
  let subs := SubPalettes.ofList selectors source.subpalettes
  source.palettes.foldl (compilePalette subs selectors) c

end PaletteSource
end RecordEditing
