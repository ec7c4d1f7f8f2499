import Mathlib.Data.List.Forall2
import RecordEditing.Palette.Selector
import RecordEditing.Proofs.Text.Pieces

/-!
The parts of a selector. To mark off the names of selector fields only adds bars, whatever the
names are and however they overlap. So the parts, one after the other, are the selector without its
bars, and the condition has one member for each of them.
-/
namespace RecordEditing
namespace Selector

/-- What one part of a selector asks for: a selector field to be set, if it is the name of one, and
else some selector field to have it as its value. -/
inductive PartAsks (names : List String) : String → Condition → Prop where
  | field {part : String} (listed : part ∈ names) : PartAsks names part (.setTo part)
  | value {part : String} (other : part ∉ names) :
      PartAsks names part (.chain .any (names.map fun name => .textIs name part))

theorem asks_partCondition (names : List String) (part : String) :
    PartAsks names part (partCondition names part) := by
  unfold partCondition
  split
  · next listed => exact .field (List.contains_iff_mem.mp listed)
  · next other => exact .value (mt List.contains_iff_mem.mpr other)

theorem filter_markNames (names : List String) (cs : List Char) :
    (markNames names cs).filter (· ≠ '|') = cs.filter (· ≠ '|') := by
  induction names generalizing cs with
  | nil => rfl
  | cons name names ih =>
    -- The other names are marked off in what this one leaves.
    have marked : markNames (name :: names) cs =
        markNames names (if name = "" then cs else markWord name.toList cs) := rfl
    rw [marked, ih]
    split
    · rfl
    · next named => exact filter_markWord (mt String.toList_eq_nil_iff.mp named) cs

theorem parts_eq (names : List String) (solid : ∀ c ∈ selector.toList, isBlank c = false) :
    ∃ marked : List Char, marked.filter (· ≠ '|') = selector.toList.filter (· ≠ '|') ∧
      (∀ c ∈ marked, isBlank c = false) ∧
      parts selector names = (tokens (· = '|') marked).map String.ofList := by
  unfold parts
  dsimp only
  split
  · exact ⟨selector.toList, rfl, solid, rfl⟩
  · have same := filter_markNames names selector.toList
    exact ⟨markNames names selector.toList, same, solid_of_filter solid same, rfl⟩

theorem join_parts (names : List String) (solid : ∀ c ∈ selector.toList, isBlank c = false) :
    String.join (parts selector names) = String.ofList (selector.toList.filter (· ≠ '|')) := by
  obtain ⟨marked, same, unblank, cut⟩ := parts_eq names solid
  have whole : (tokens (· = '|') marked).flatten = marked.filter (· ≠ '|') := by
    simpa using flatten_tokens (· = '|') unblank
  have chars :
      (parts selector names).flatMap String.toList = (tokens (· = '|') marked).flatten := by
    rw [cut, List.flatMap_map]
    simp
  rw [← String.toList_inj, String.toList_join, chars, whole, same, String.toList_ofList]

theorem of_mem_parts (solid : ∀ c ∈ selector.toList, isBlank c = false) {part : String}
    (member : part ∈ parts selector names) : part ≠ "" ∧ '|' ∉ part.toList := by
  obtain ⟨marked, _, unblank, cut⟩ := parts_eq names solid
  rw [cut] at member
  obtain ⟨piece, listed, rfl⟩ := List.mem_map.mp member
  obtain ⟨nonempty, unbarred⟩ := of_mem_tokens unblank listed
  constructor
  · rw [← String.toList_inj.ne, String.toList_ofList]
    exact nonempty
  · rw [String.toList_ofList]
    exact fun bar => absurd (unbarred '|' bar) (by decide)

end Selector

open Selector in
/-- Nothing of a selector without blanks is lost. Its condition has one member for each part, and
the parts, which have no bars, are together the selector without its bars. -/
theorem selector_parts_complete {selector : String} (special : selector ≠ Palette.defaultName)
    (solid : ∀ c ∈ selector.toList, isBlank c = false) (names : List String) :
    ∃ parts members, paletteCondition selector names = .chain .all members ∧
      List.Forall₂ (PartAsks names) parts members ∧
      (∀ part ∈ parts, part ≠ "" ∧ '|' ∉ part.toList) ∧
      String.join parts = String.ofList (selector.toList.filter (· ≠ '|')) := by
  have asks : List.Forall₂ (PartAsks names) (parts selector names)
      ((parts selector names).map (partCondition names)) := by
    apply List.forall₂_map_right_iff.mpr
    exact List.forall₂_same.mpr fun part _ => asks_partCondition names part
  exact ⟨_, _, if_neg special, asks, fun part => of_mem_parts solid, join_parts names solid⟩

open Selector in
/-- Names that contain each other, that reach over the bars of others, and an empty one. -/
theorem selector_parts_complete_typewriter :
    let names := ["type", "ty", "", "e|w"]
    "typewriter" ≠ Palette.defaultName ∧ (∀ c ∈ "typewriter".toList, isBlank c = false) ∧
      Selector.parts "typewriter" names = ["ty", "p", "e", "w", "riter"] ∧
      ∃ parts members, paletteCondition "typewriter" names = .chain .all members ∧
        List.Forall₂ (PartAsks names) parts members ∧ String.join parts = "typewriter" := by
  intro names
  have special : "typewriter" ≠ Palette.defaultName := by decide
  have unblank : ("typewriter".toList.all fun c => !isBlank c) = true := by decide +kernel
  have solid : ∀ c ∈ "typewriter".toList, isBlank c = false := by simpa using unblank
  obtain ⟨parts, members, chain, asks, _, whole⟩ := selector_parts_complete special solid names
  have unbarred : String.ofList ("typewriter".toList.filter (· ≠ '|')) = "typewriter" := by
    decide +kernel
  exact ⟨special, solid, by decide +kernel, parts, members, chain, asks, whole.trans unbarred⟩

end RecordEditing
