import Mathlib.Data.List.Induction
import RecordEditing.Proofs.Palette.Absorption
import RecordEditing.Proofs.Palette.Expansion

/-!
Compiling twice. A source is a run of writes to palettes, each of them a run of writes to legends,
and those runs of writes to fields. At each level the writes to one name settle: conditions and flags
are set to what the last write says, and fields know all their placements.
-/
namespace RecordEditing

def lastSet {α β : Type} (set? : β → Option α) (a : α) (bs : List β) : α :=
  bs.foldl (fun a b => (set? b).getD a) a

/-- The steps do not read what they change, so the last change is also the last the second time. -/
theorem lastSet_again {α β : Type} (set? : β → Option α) (a : α) (bs : List β) :
    lastSet set? (lastSet set? a bs) bs = lastSet set? a bs := by
  have either (start : α) : lastSet set? start bs = lastSet set? a bs ∨ lastSet set? start bs = start := by
    unfold lastSet
    induction bs using List.reverseRecOn with
    | nil => exact Or.inr rfl
    | append_singleton bs b ih =>
      simp only [List.foldl_append, List.foldl_cons, List.foldl_nil]
      cases set? b with
      | some v => exact Or.inl rfl
      | none => exact ih
  rcases either (lastSet set? a bs) with same | same <;> exact same

/-- What one token writes to a legend: whether it is shown open, or fields. -/
structure LegendWrite where
  legend : String
  opened : Option Bool := none
  fields : List Field := []

namespace LegendWrite

def edit (e : LegendWrite) (l : Legend) : Legend :=
  { e.fields.foldl Legend.add l with isOpen := e.opened.getD l.isOpen }

def write (e : LegendWrite) : Named.Write Legend where
  name := e.legend
  fresh := { name := e.legend }
  edit := e.edit
  name_fresh := rfl
  name_edit l := Legend.name_addAll e.fields l

def placed (es : List LegendWrite) : List Field := es.flatMap fields

def Plain (e : LegendWrite) : Prop := ∀ f ∈ e.fields, f.Plain

variable {es : List LegendWrite}

theorem foldl_edit (es : List LegendWrite) (l : Legend) :
    es.foldl (fun l e => e.edit l) l = { l with
      fields := Named.runAll ((placed es).map Field.placing) l.fields
      isOpen := lastSet opened l.isOpen es } := by
  induction es generalizing l with
  | nil => rfl
  | cons e es ih =>
    have first : e.edit l = { l with
        fields := Named.runAll (e.fields.map Field.placing) l.fields
        isOpen := e.opened.getD l.isOpen } := by
      unfold edit
      rw [Legend.addAll_eq_runAll]
    have all : (placed (e :: es)).map Field.placing =
        e.fields.map Field.placing ++ (placed es).map Field.placing := by
      unfold placed
      rw [List.flatMap_cons, List.map_append]
    rw [List.foldl_cons, ih, first, all, Named.runAll_append]
    rfl

theorem settling (plain : ∀ e ∈ es, e.Plain) : Named.Settling (es.map write) := by
  apply Named.settling_map
  intro cs selected l
  have fields : ∀ f ∈ placed cs, f.Plain := by
    intro f member
    obtain ⟨e, there, within⟩ := List.mem_flatMap.mp member
    exact plain e (selected there) f within
  change cs.foldl (fun l e => e.edit l) (cs.foldl (fun l e => e.edit l) l) =
    cs.foldl (fun l e => e.edit l) l
  simp only [foldl_edit, lastSet_again, Named.runAll_again (Field.settling_placing fields)]

end LegendWrite

namespace SubPalettes

def Plain (subs : SubPalettes) : Prop := ∀ owner, ∀ f ∈ subs.fieldsOf owner, f.Plain

theorem plain_ofList (selectors : List String) (entries : List (String × String)) :
    (ofList selectors entries).Plain := by
  intro owner f member c visible ms same
  obtain ⟨entry, _, _, listed⟩ := (mem_fieldsOf_ofList selectors).mp member
  obtain ⟨token, _, rfl⟩ := List.mem_map.mp listed
  -- The condition of a sub-palette is about one property.
  obtain rfl : Selector.subpaletteCondition entry.1 selectors = c := Option.some.inj visible
  unfold Selector.subpaletteCondition at same
  split at same
  · cases same
  · split at same <;> cases same

theorem within_plain {outer inner : Option Condition} (plain : ∀ c, inner = some c → c.Plain) :
    ∀ c, within outer inner = some c → c.Plain := by
  intro c combined
  cases outer with
  | none => exact plain c combined
  | some o =>
    cases inner with
    | none => cases combined
    | some i =>
      cases combined
      rintro ms ⟨⟩

theorem placements_plain {subs : SubPalettes} (plain : subs.Plain) {f : Field} (start : f.Plain) :
    ∀ x ∈ placements subs f, x.Plain := by
  intro x placed
  fun_induction placements subs f with
  | case1 subs f missing =>
    obtain rfl := List.mem_singleton.mp placed
    exact start
  | case2 subs f children found ih =>
    rcases List.mem_cons.mp placed with rfl | deeper
    · exact start
    · obtain ⟨child, member, below⟩ := List.mem_flatMap.mp deeper
      have listed : child ∈ subs.fieldsOf f.name := by
        unfold fieldsOf
        rw [found]
        exact member
      exact ih child (forall_fieldsOf_erase plain f.name) (within_plain (plain f.name child listed))
        below

end SubPalettes

namespace Palette

variable (subs : SubPalettes)

def tokenWrite (current token : String) : LegendWrite :=
  match PaletteSource.legendToken? token with
  | some (name, hidden) => { legend := name, opened := some (!hidden) }
  | none => { legend := current, fields := SubPalettes.placements subs { name := token } }

def tokenWrites : String → List String → List LegendWrite
  | _, [] => []
  | current, token :: rest =>
    tokenWrite subs current token :: tokenWrites (tokenWrite subs current token).legend rest

theorem tokenWrite_plain (plain : subs.Plain) (current token : String) :
    (tokenWrite subs current token).Plain := by
  unfold tokenWrite
  split
  · rintro f ⟨⟩
  · exact SubPalettes.placements_plain plain (by rintro c ⟨⟩)

theorem tokenWrites_plain (plain : subs.Plain) (current : String) (tokens : List String) :
    ∀ e ∈ tokenWrites subs current tokens, e.Plain := by
  induction tokens generalizing current with
  | nil =>
    intro e member
    cases member
  | cons token rest ih =>
    intro e member
    rcases List.mem_cons.mp member with rfl | later
    · exact tokenWrite_plain subs plain current token
    · exact ih _ e later

theorem updateLegend_ensureLegend (p : Palette) (e : LegendWrite) :
    (p.ensureLegend e.legend).updateLegend e.legend e.edit =
      { p with legends := e.write.run p.legends } := by
  have written : e.write.run p.legends = Named.update e.legend e.edit
      (if Named.has e.legend p.legends then p.legends else p.legends ++ [{ name := e.legend }]) :=
    e.write.run_eq_update p.legends
  unfold ensureLegend updateLegend
  rw [written]
  split <;> rfl

theorem readToken_eq (state : Reading) (token : String) :
    readToken subs state token =
      ⟨{ state.palette with
        legends := (tokenWrite subs state.legend token).write.run state.palette.legends },
        (tokenWrite subs state.legend token).legend⟩ := by
  rw [← updateLegend_ensureLegend]
  unfold readToken tokenWrite
  cases PaletteSource.legendToken? token with
  | some opened => rfl
  | none =>
    -- Only the fields are written: the legend stays open or closed.
    have fields : LegendWrite.edit
        { legend := state.legend, fields := SubPalettes.placements subs { name := token } } =
        fun l => (SubPalettes.placements subs { name := token }).foldl Legend.add l := by
      funext l
      unfold LegendWrite.edit
      rw [Legend.addAll_eq_runAll]
      rfl
    simp only [fields]

theorem readTokens_eq (tokens : List String) (state : Reading) :
    (tokens.foldl (readToken subs) state).palette = { state.palette with
      legends := Named.runAll ((tokenWrites subs state.legend tokens).map LegendWrite.write)
        state.palette.legends } := by
  induction tokens generalizing state with
  | nil => rfl
  | cons token rest ih =>
    rw [List.foldl_cons, ih, readToken_eq]
    rfl

variable (selectors : List String)

def fieldWrites (fields : String) : List LegendWrite :=
  tokenWrites subs unnamedLegend (PaletteSource.fieldTokens fields)

theorem fieldWrites_plain (plain : subs.Plain) (fields : String) :
    ∀ e ∈ fieldWrites subs fields, e.Plain :=
  tokenWrites_plain subs plain unnamedLegend (PaletteSource.fieldTokens fields)

def compileOnto (entry : String × String) (p : Palette) : Palette :=
  { p with
    condition := Selector.paletteCondition entry.1 selectors
    legends := Named.runAll ((fieldWrites subs entry.2).map LegendWrite.write) p.legends }

theorem compile_eq_compileOnto (selector fields : String) (existing : Option Palette) :
    compile subs selectors selector fields existing =
      compileOnto subs selectors (selector, fields) (existing.getD { name := selector }) :=
  readTokens_eq subs _ _

def write (entry : String × String) : Named.Write Palette where
  name := entry.1
  fresh := { name := entry.1 }
  edit := compileOnto subs selectors entry
  name_fresh := rfl
  name_edit _ := rfl

theorem foldl_compileOnto (es : List (String × String)) (p : Palette) :
    es.foldl (fun p e => compileOnto subs selectors e p) p = { p with
      condition := lastSet (fun e => some (Selector.paletteCondition e.1 selectors)) p.condition es
      legends := Named.runAll
        ((es.flatMap fun e => fieldWrites subs e.2).map LegendWrite.write) p.legends } := by
  induction es generalizing p with
  | nil => rfl
  | cons e es ih =>
    rw [List.foldl_cons, ih, List.flatMap_cons, List.map_append, Named.runAll_append]
    rfl

theorem settling {subs : SubPalettes} (plain : subs.Plain) (es : List (String × String)) :
    Named.Settling (es.map (write subs selectors)) := by
  apply Named.settling_map
  intro cs _ p
  have writes : ∀ e ∈ cs.flatMap fun c => fieldWrites subs c.2, e.Plain := by
    intro e member
    obtain ⟨c, _, within⟩ := List.mem_flatMap.mp member
    exact fieldWrites_plain subs plain c.2 e within
  change cs.foldl (fun p e => compileOnto subs selectors e p)
      (cs.foldl (fun p e => compileOnto subs selectors e p) p) =
    cs.foldl (fun p e => compileOnto subs selectors e p) p
  simp only [foldl_compileOnto, lastSet_again, Named.runAll_again (LegendWrite.settling writes)]

end Palette

namespace PaletteSource

variable (subs : SubPalettes) (selectors : List String)

theorem compilePalette_eq (c : PaletteCollection) (entry : String × String) :
    compilePalette subs selectors c entry =
      if entry.1 = selectorKey then c
      else ⟨(Palette.write subs selectors entry).run c.palettes⟩ := by
  have compiled : Palette.compile subs selectors entry.1 entry.2 (Named.find? entry.1 c.palettes) =
      (Palette.write subs selectors entry).item c.palettes :=
    Palette.compile_eq_compileOnto subs selectors entry.1 entry.2 _
  have name : ((Palette.write subs selectors entry).item c.palettes).name = entry.1 :=
    (Palette.write subs selectors entry).name_item c.palettes
  have written : (Palette.write subs selectors entry).run c.palettes =
      if Named.has entry.1 c.palettes then
        Named.update entry.1 (fun _ => (Palette.write subs selectors entry).item c.palettes)
          c.palettes
      else c.palettes ++ [(Palette.write subs selectors entry).item c.palettes] :=
    (Palette.write subs selectors entry).run_eq_replace c.palettes
  unfold compilePalette PaletteCollection.add PaletteCollection.update
  rw [compiled, name, written]
  split
  · rfl
  · split <;> rfl

theorem compileAll_eq (entries : List (String × String)) (c : PaletteCollection) :
    entries.foldl (compilePalette subs selectors) c =
      ⟨Named.runAll ((entries.filter fun entry => entry.1 != selectorKey).map
        (Palette.write subs selectors)) c.palettes⟩ := by
  induction entries generalizing c with
  | nil => rfl
  | cons entry entries ih =>
    rw [List.foldl_cons, ih, compilePalette_eq]
    split
    · next skipped => simp [skipped]
    · next taken =>
      simp [taken]
      rfl

end PaletteSource

/-- Compiling a source again, into the collection that it was compiled into, changes nothing. -/
theorem compileInto_compileInto (source : PaletteSource) (extra : List String)
    (c : PaletteCollection) :
    source.compileInto extra (source.compileInto extra c) = source.compileInto extra c := by
  unfold PaletteSource.compileInto
  simp only [PaletteSource.compileAll_eq]
  rw [Named.runAll_again]
  exact Palette.settling _ (SubPalettes.plain_ofList _ _) _

end RecordEditing
