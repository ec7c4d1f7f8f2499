import RecordEditing.Palette.Selector
import RecordEditing.Proofs.Palette.ExactScore
import RecordEditing.Proofs.Text.Marking

/-!
The order of selector fields. The names of selector fields are marked off in a selector one after the
other, each in what the names before it have left. Where no two names overlap, every order gives the
same parts, and the conditions of the parts differ only in the order of alternatives.
-/
namespace RecordEditing
namespace Selector

/-- Names that can be told apart in every text. -/
structure Unambiguous (names : List String) : Prop where
  nonempty : ∀ n ∈ names, n ≠ ""
  unbarred : ∀ n ∈ names, '|' ∉ n.toList
  apart : ∀ m ∈ names, ∀ n ∈ names, m ≠ n → Apart m.toList n.toList

instance (names : List String) : Decidable (Unambiguous names) :=
  decidable_of_iff ((∀ n ∈ names, n ≠ "") ∧ (∀ n ∈ names, '|' ∉ n.toList) ∧
      ∀ m ∈ names, ∀ n ∈ names, m ≠ n → Apart m.toList n.toList)
    ⟨fun ⟨nonempty, unbarred, apart⟩ => ⟨nonempty, unbarred, apart⟩,
      fun ⟨nonempty, unbarred, apart⟩ => ⟨nonempty, unbarred, apart⟩⟩

variable {names others : List String} (perm : names.Perm others)

include perm

theorem markNames_perm (unambiguous : Unambiguous names) (cs : List Char) :
    markNames names cs = markNames others cs := by
  unfold markNames
  apply perm.foldl_eq'
  intro m first n second working
  by_cases same : m = n
  · rw [same]
  simp only [if_neg (unambiguous.nonempty m first), if_neg (unambiguous.nonempty n second)]
  exact markWord_comm (unambiguous.apart m first n second same) (unambiguous.unbarred m first)
    (unambiguous.unbarred n second) working

theorem parts_perm (unambiguous : Unambiguous names) (selector : String) :
    parts selector names = parts selector others := by
  simp only [parts, markNames_perm perm unambiguous]

theorem score?_partCondition_perm (form : FormState) (part : String) :
    (partCondition names part).score? form = (partCondition others part).score? form := by
  unfold partCondition
  rw [perm.contains_eq]
  split
  · rfl
  · rw [Condition.score?_eq_capped, Condition.score?_eq_capped]
    exact congrArg _ (Condition.exactScore?_rearranged (.reorder .any (perm.map _)) form)

theorem holds_partCondition_perm (form : FormState) (part : String) :
    (partCondition names part).holds form = (partCondition others part).holds form := by
  unfold partCondition
  rw [perm.contains_eq]
  split
  · rfl
  · rw [Condition.holds, Condition.holds, Condition.anyHolds_eq_any, Condition.anyHolds_eq_any]
    exact (perm.map _).any_eq

end Selector

open Selector in
/-- Where no two names of selector fields overlap, their order changes neither the parts of a selector
nor, for any form, what its condition scores and whether it holds. -/
theorem selector_order_irrelevant (selector : String) {names others : List String}
    (unambiguous : Unambiguous names) (perm : names.Perm others) (form : FormState) :
    parts selector names = parts selector others ∧
      (paletteCondition selector names).score? form =
        (paletteCondition selector others).score? form ∧
      (paletteCondition selector names).holds form =
        (paletteCondition selector others).holds form := by
  have same := parts_perm perm unambiguous selector
  refine ⟨same, ?_⟩
  unfold paletteCondition
  split
  · exact ⟨rfl, rfl⟩
  · rw [← same]
    simp only [Condition.score?, Condition.holds, Condition.scores_eq_map, Condition.allHold_eq_all,
      List.map_map, List.all_map, Function.comp_def, score?_partCondition_perm perm,
      holds_partCondition_perm perm, and_self]

def roundForm : FormState :=
  { record := some ⟨"page", [("oo", .str "o"), ("type", .str "o")]⟩, input := none }

open Selector in
theorem selector_order_irrelevant_round :
    Unambiguous ["type", "oo"] ∧ ["type", "oo"].Perm ["oo", "type"] ∧
      parts "typeooo" ["oo", "type"] = ["type", "oo", "o"] ∧
      (paletteCondition "typeooo" ["oo", "type"]).score? roundForm = some 4 ∧
      (paletteCondition "typeooo" ["oo", "type"]).holds roundForm = true := by
  have unambiguous : Unambiguous ["type", "oo"] := by decide +kernel
  have perm : ["type", "oo"].Perm ["oo", "type"] := .swap "oo" "type" []
  obtain ⟨same, scores, holds⟩ :=
    selector_order_irrelevant "typeooo" unambiguous perm roundForm
  exact ⟨unambiguous, perm, same.symm.trans (by decide +kernel),
    scores.symm.trans (by decide +kernel), holds.symm.trans (by decide +kernel)⟩

/-- Names that overlap are found in one order and lost in the other. -/
example : Selector.parts "type" ["ty", "ype"] = ["ty", "pe"] ∧
    Selector.parts "type" ["ype", "ty"] = ["t", "ype"] := by decide +kernel

end RecordEditing
