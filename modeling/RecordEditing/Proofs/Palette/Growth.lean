import Mathlib.Order.Defs.Unbundled
import RecordEditing.Proofs.Palette.Recompile

/-!
Compiling on top of palettes that are there. What is there keeps its place, and fields are shown at
least where they were; palettes, legends and fields that are new come after it. A name that is there
is found again, so no name is ever given twice.
-/
namespace RecordEditing

section Places

variable {α : Type} {R : α → α → Prop} {xs ys : List α}

/-- Each item of the first list has an item at its place in the second one that is related to it. -/
def Grown (R : α → α → Prop) (xs ys : List α) : Prop :=
  ∀ (i : Nat) (x : α), xs[i]? = some x → ∃ y, ys[i]? = some y ∧ R x y

theorem Grown.cons {x y : α} (first : R x y) (rest : Grown R xs ys) :
    Grown R (x :: xs) (y :: ys) := by
  intro i z here
  cases i with
  | zero =>
    obtain rfl : x = z := Option.some.inj here
    exact ⟨y, rfl, first⟩
  | succ i => exact rest i z here

variable [IsPreorder α R]

instance : IsPreorder (List α) (Grown R) where
  refl _ _ x here := ⟨x, here, refl_of R x⟩
  trans _ _ _ first second i x here := by
    obtain ⟨y, there, related⟩ := first i x here
    obtain ⟨z, last, again⟩ := second i y there
    exact ⟨z, last, trans_of R related again⟩

namespace Named

variable [Named α]

theorem Write.grown_run {w : Write α} (edited : ∀ x, Named.name x = w.name → R x (w.edit x))
    (xs : List α) : Grown R xs (w.run xs) := by
  induction xs with
  | nil =>
    intro i x here
    cases here
  | cons x xs ih =>
    unfold Write.run
    split
    · next same => exact .cons (edited x same) (refl_of (Grown R) xs)
    · exact .cons (refl_of R x) ih

theorem grown_runAll {ws : List (Write α)}
    (edited : ∀ w ∈ ws, ∀ x, name x = w.name → R x (w.edit x)) (xs : List α) :
    Grown R xs (runAll ws xs) := by
  induction ws generalizing xs with
  | nil => exact refl_of (Grown R) xs
  | cons w ws ih =>
    obtain ⟨first, later⟩ := List.forall_mem_cons.mp edited
    exact trans_of (Grown R) (w.grown_run first xs) (ih later (w.run xs))

end Named
end Places

/-- The field is the same, and visible at least where it was. -/
structure Field.Widened (old new : Field) : Prop where
  name : new.name = old.name
  editable : new.editable = old.editable
  visible : ∀ form, old.isVisible form = true → new.isVisible form = true

instance : IsPreorder Field Field.Widened where
  refl _ := ⟨rfl, rfl, fun _ => id⟩
  trans _ _ _ first second := ⟨second.name.trans first.name, second.editable.trans first.editable,
    fun form shown => second.visible form (first.visible form shown)⟩

theorem Field.widened_merge (f other : Field) : f.Widened (f.merge other) where
  name := rfl
  editable := rfl
  visible form shown := by rw [isVisible_merge, shown, Bool.true_or]

structure Legend.Widened (old new : Legend) : Prop where
  name : new.name = old.name
  fields : Grown Field.Widened old.fields new.fields

instance : IsPreorder Legend Legend.Widened where
  refl l := ⟨rfl, refl_of (Grown Field.Widened) l.fields⟩
  trans _ _ _ first second :=
    ⟨second.name.trans first.name, trans_of (Grown Field.Widened) first.fields second.fields⟩

theorem LegendWrite.widened_edit (e : LegendWrite) (l : Legend) : l.Widened (e.edit l) := by
  refine ⟨Legend.name_addAll e.fields l, ?_⟩
  unfold edit
  rw [Legend.addAll_eq_runAll]
  apply Named.grown_runAll
  intro w listed x _
  obtain ⟨f, _, rfl⟩ := List.mem_map.mp listed
  exact x.widened_merge f

structure Palette.Widened (old new : Palette) : Prop where
  name : new.name = old.name
  legends : Grown Legend.Widened old.legends new.legends

instance : IsPreorder Palette Palette.Widened where
  refl p := ⟨rfl, refl_of (Grown Legend.Widened) p.legends⟩
  trans _ _ _ first second :=
    ⟨second.name.trans first.name, trans_of (Grown Legend.Widened) first.legends second.legends⟩

theorem Palette.widened_compileOnto (subs : SubPalettes) (selectors : List String)
    (entry : String × String) (p : Palette) : p.Widened (compileOnto subs selectors entry p) := by
  refine ⟨rfl, ?_⟩
  apply Named.grown_runAll
  intro w listed l _
  obtain ⟨e, _, rfl⟩ := List.mem_map.mp listed
  exact e.widened_edit l

/-- The palette is widened, and left alone if it has none of the names. -/
structure Palette.WidenedAmong (names : List String) (old new : Palette) : Prop extends
    old.Widened new where
  untouched : old.name ∉ names → new = old

instance (names : List String) : IsPreorder Palette (Palette.WidenedAmong names) where
  refl p := ⟨refl_of Palette.Widened p, fun _ => rfl⟩
  trans _ _ _ first second := ⟨trans_of Palette.Widened first.toWidened second.toWidened,
    fun other => (second.untouched (first.name ▸ other)).trans (first.untouched other)⟩

/-- To compile a source into a collection keeps the palettes, legends and fields of the collection
where they are. Fields stay editable where they were and visible at least where they were, and
palettes that the source does not name stay as they are. -/
theorem compileInto_widens (source : PaletteSource) (extra : List String) (c : PaletteCollection) :
    Grown (Palette.WidenedAmong (source.palettes.map Prod.fst)) c.palettes
      (source.compileInto extra c).palettes := by
  unfold PaletteSource.compileInto
  dsimp only
  rw [PaletteSource.compileAll_eq]
  apply Named.grown_runAll
  intro w listed p named
  obtain ⟨entry, given, rfl⟩ := List.mem_map.mp listed
  refine ⟨Palette.widened_compileOnto _ _ entry p, ?_⟩
  intro other
  refine absurd ?_ other
  exact List.mem_map.mpr ⟨entry, (List.mem_filter.mp given).1, named.symm⟩

theorem LegendWrite.nodup_edit (e : LegendWrite) {l : Legend}
    (distinct : (l.fields.map Field.name).Nodup) : ((e.edit l).fields.map Field.name).Nodup := by
  unfold edit
  rw [Legend.addAll_eq_runAll]
  exact Named.nodup_runAll _ distinct

structure Palette.Distinct (p : Palette) : Prop where
  legends : (p.legends.map Legend.name).Nodup
  fields : ∀ l ∈ p.legends, (l.fields.map Field.name).Nodup

theorem Palette.Distinct.compileOnto {p : Palette} (distinct : p.Distinct) (subs : SubPalettes)
    (selectors : List String) (entry : String × String) :
    (p.compileOnto subs selectors entry).Distinct := by
  refine ⟨Named.nodup_runAll _ distinct.legends, ?_⟩
  refine Named.forall_mem_runAll ?_ distinct.fields
  intro w listed l source _
  obtain ⟨e, _, rfl⟩ := List.mem_map.mp listed
  apply e.nodup_edit
  rcases source with old | rfl
  · exact old
  · exact .nil

/-- The palettes have different names, and none of them gives a name twice. -/
structure PaletteCollection.Distinct (c : PaletteCollection) : Prop where
  names : (c.palettes.map Palette.name).Nodup
  palettes : ∀ p ∈ c.palettes, p.Distinct

theorem PaletteCollection.Distinct.compileInto {c : PaletteCollection} (distinct : c.Distinct)
    (source : PaletteSource) (extra : List String) : (source.compileInto extra c).Distinct := by
  unfold PaletteSource.compileInto
  dsimp only
  rw [PaletteSource.compileAll_eq]
  refine ⟨Named.nodup_runAll _ distinct.names, ?_⟩
  refine Named.forall_mem_runAll ?_ distinct.palettes
  intro w listed p origin _
  obtain ⟨entry, _, rfl⟩ := List.mem_map.mp listed
  refine Palette.Distinct.compileOnto ?_ _ _ entry
  rcases origin with old | rfl
  · exact old
  · exact ⟨.nil, nofun⟩

/-- The palettes of some sources, compiled one after the other, each with selector fields that are
given besides its own. -/
def PaletteCollection.ofSources (runs : List (PaletteSource × List String)) : PaletteCollection :=
  runs.foldl (fun c run => run.1.compileInto run.2 c) .empty

/-- However many sources are compiled on top of each other, no name is given twice in one place. -/
theorem ofSources_distinct (runs : List (PaletteSource × List String)) :
    (PaletteCollection.ofSources runs).Distinct := by
  have run : ∀ c : PaletteCollection, c.Distinct →
      (runs.foldl (fun c run => run.1.compileInto run.2 c) c).Distinct := by
    induction runs with
    | nil => exact fun _ distinct => distinct
    | cons first rest ih => exact fun c distinct => ih _ (distinct.compileInto first.1 first.2)
  exact run .empty ⟨.nil, nofun⟩

end RecordEditing
