import Mathlib.Data.List.DropRight
import Mathlib.Data.List.Induction
import RecordEditing.Proofs.Palette.Merge

/-!
What a legend shows after fields were placed in it and removed from it. A field of the legend is made
of the placements of its name since the name was last removed: of the first one, widened by the
others. So it is visible where one of them is, and editable where the first one is.
-/
namespace RecordEditing

inductive LegendStep where
  | place (f : Field) (before : Option String)
  | remove (name : String)

namespace LegendStep

def removes (name : String) : LegendStep → Bool
  | .place _ _ => false
  | .remove n => n == name

def placement? (name : String) : LegendStep → Option Field
  | .place f _ => if f.name = name then some f else none
  | .remove _ => none

/-- The placements of a name since its last removal, first things first. -/
def placed (name : String) (steps : List LegendStep) : List Field :=
  (steps.rtakeWhile fun s => !s.removes name).filterMap (placement? name)

variable {name : String} {steps : List LegendStep}

theorem placed_snoc_place (f : Field) (before : Option String) :
    placed name (steps ++ [.place f before]) =
      placed name steps ++ if f.name = name then [f] else [] := by
  unfold placed
  rw [List.rtakeWhile_concat_pos _ _ _ rfl, List.filterMap_append]
  by_cases here : f.name = name <;> simp [placement?, here]

theorem placed_snoc_remove (removed : String) :
    placed name (steps ++ [.remove removed]) =
      if removed = name then [] else placed name steps := by
  unfold placed
  rw [List.rtakeWhile_concat]
  by_cases here : removed = name
  · simp [removes, here]
  · simp [removes, placement?, here]

end LegendStep

namespace Field

/-- The field that some placements make: the first one, widened by the others. -/
def merged? : List Field → Option Field
  | [] => none
  | f :: rest => some (rest.foldl merge f)

theorem merged?_eq_none_iff {fs : List Field} : merged? fs = none ↔ fs = [] := by
  cases fs <;> simp [merged?]

theorem merged?_snoc (fs : List Field) (f : Field) :
    merged? (fs ++ [f]) = some ((merged? fs).elim f (·.merge f)) := by
  cases fs with
  | nil => rfl
  | cons g rest =>
    rw [List.cons_append, merged?, merged?, List.foldl_append]
    rfl

theorem mergeAll_eq (fs : List Field) (f : Field) :
    (fs.foldl merge f).name = f.name ∧ (fs.foldl merge f).editable = f.editable ∧
      ∀ form, (fs.foldl merge f).isVisible form = (f :: fs).any (·.isVisible form) := by
  induction fs generalizing f with
  | nil => simp
  | cons g fs ih =>
    obtain ⟨name, editable, visible⟩ := ih (f.merge g)
    refine ⟨name, editable, ?_⟩
    intro form
    rw [List.foldl_cons, visible form]
    simp only [List.any_cons, isVisible_merge, Bool.or_assoc]

end Field

namespace Legend

open LegendStep

def step (l : Legend) : LegendStep → Legend
  | .place f before => l.place f before
  | .remove name => l.remove name

variable {l : Legend} {steps : List LegendStep}

theorem nodup_place (distinct : (l.fields.map Field.name).Nodup) (f : Field)
    (before : Option String) : ((l.place f before).fields.map Field.name).Nodup := by
  unfold place
  split
  · rwa [f.names_merged]
  · next missing => exact Named.nodup_insertAt before distinct (mt Named.has_iff.mpr missing)

theorem field?_place (l : Legend) (f : Field) (before : Option String) (name : String) :
    (l.place f before).field? name =
      if f.name = name then some ((l.field? name).elim f (·.merge f)) else l.field? name := by
  unfold place
  split
  · next there =>
    have updated : Named.find? name (Named.update f.name (·.merge f) l.fields) =
        if f.name = name then (l.field? name).map (·.merge f) else l.field? name :=
      @Named.find?_update Field _ f.name (·.merge f) (fun _ => rfl) name l.fields
    refine updated.trans ?_
    split
    · next here =>
      cases found : l.field? name with
      | none => exact absurd (here ▸ Named.has_iff.mp there) (Named.find?_eq_none_iff.mp found)
      | some x => rfl
    · rfl
  · next missing =>
    have new : f.name ∉ l.fields.map Field.name := mt Named.has_iff.mpr missing
    have put : Named.find? name (Named.insertAt before f l.fields) =
        if f.name = name then some f else l.field? name := Named.find?_insertAt before new name
    refine put.trans ?_
    split
    · next here =>
      have unplaced : l.field? name = none := Named.find?_eq_none_iff.mpr (here ▸ new)
      rw [unplaced]
      rfl
    · rfl

/-- A field of the legend is what the placements of its name since the last removal make. -/
structure Reflects (l : Legend) (steps : List LegendStep) : Prop where
  distinct : (l.fields.map Field.name).Nodup
  found : ∀ name, l.field? name = Field.merged? (placed name steps)

theorem Reflects.step (reflects : l.Reflects steps) (s : LegendStep) :
    (l.step s).Reflects (steps ++ [s]) := by
  cases s with
  | place f before =>
    refine ⟨nodup_place reflects.distinct f before, ?_⟩
    intro name
    change (l.place f before).field? name = _
    rw [field?_place, placed_snoc_place, reflects.found]
    split
    · rw [Field.merged?_snoc]
    · rw [List.append_nil]
  | remove removed =>
    refine ⟨Named.nodup_remove reflects.distinct, ?_⟩
    intro name
    have left : (l.remove removed).field? name = if removed = name then none else l.field? name :=
      Named.find?_remove reflects.distinct name
    change (l.remove removed).field? name = _
    rw [left, placed_snoc_remove, reflects.found]
    split <;> rfl

theorem reflects_run (empty : l.fields = []) (steps : List LegendStep) :
    (steps.foldl Legend.step l).Reflects steps := by
  induction steps using List.reverseRecOn with
  | nil => exact ⟨by simp [empty], by simp [empty, field?, Named.find?, placed, Field.merged?]⟩
  | append_singleton steps s ih =>
    rw [List.foldl_append]
    exact ih.step s

theorem Reflects.names (reflects : l.Reflects steps) (name : String) :
    name ∈ l.fields.map Field.name ↔ placed name steps ≠ [] := by
  have missing : l.field? name = none ↔ name ∉ l.fields.map Field.name := Named.find?_eq_none_iff
  rw [← not_iff_not, ← missing, reflects.found, Field.merged?_eq_none_iff, ne_eq, not_not]

end Legend

/-- Whatever is placed in an empty legend and removed from it: no name occurs twice, and the names are
those placed since their last removal. A field is visible where one of these placements is, and
editable where the first of them is. -/
theorem legend_shows_placements (name : String) (isOpen : Bool) (steps : List LegendStep) :
    let l := steps.foldl Legend.step { name, isOpen }
    (l.fields.map Field.name).Nodup ∧
    (∀ n, n ∈ l.fields.map Field.name ↔ LegendStep.placed n steps ≠ []) ∧
    ∀ x ∈ l.fields, ∃ first rest, LegendStep.placed x.name steps = first :: rest ∧ ∀ form,
      (x.isVisible form = true ↔ ∃ f ∈ first :: rest, f.isVisible form = true) ∧
      (x.isEditable form = true ↔ first.isEditable form = true) := by
  intro l
  have reflects : l.Reflects steps := Legend.reflects_run rfl steps
  refine ⟨reflects.distinct, reflects.names, ?_⟩
  intro x member
  have made : some x = Field.merged? (LegendStep.placed x.name steps) :=
    (Named.find?_of_mem reflects.distinct member).symm.trans (reflects.found x.name)
  cases split : LegendStep.placed x.name steps with
  | nil =>
    rw [split] at made
    cases made
  | cons first rest =>
    rw [split] at made
    obtain rfl : x = rest.foldl Field.merge first := Option.some.inj made
    obtain ⟨_, editable, visible⟩ := Field.mergeAll_eq rest first
    refine ⟨first, rest, rfl, fun form => ⟨?_, ?_⟩⟩
    · rw [visible form, List.any_eq_true]
    · unfold Field.isEditable
      rw [editable]

end RecordEditing
