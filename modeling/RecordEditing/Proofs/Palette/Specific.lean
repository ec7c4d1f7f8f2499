import Mathlib.Data.Multiset.MapFold
import RecordEditing.Proofs.Palette.Choice
import RecordEditing.Proofs.Palette.ExactScore
import RecordEditing.Proofs.Palette.Recompile

/-!
Palettes that are compiled from selectors. A part of a selector scores at least one point where it
matches, so a palette with more parts outscores those with some of them, and every palette that
matches outscores the default one.
-/
namespace RecordEditing
namespace Condition

/-- The condition scores points on the form, if it matches at all. -/
def Counts (form : FormState) (c : Condition) : Prop :=
  ∀ n, c.exactScore? form = some n → 0 < n

variable {form : FormState} {totals : List (Option Nat)}

theorem counts_points {holds : Bool} {n : Nat} (scored : points? holds 1 = some n) : 0 < n := by
  cases holds with
  | false => cases scored
  | true =>
    cases scored
    decide

theorem counts_chain {j : Conjunction} {ms : List Condition} (members : ∀ m ∈ ms, m.Counts form) :
    (chain j ms).Counts form := by
  intro n total
  rw [exactScore?_chain] at total
  obtain ⟨⟨⟨t, listed, scored⟩, _⟩, rfl⟩ := matched_of_total total
  obtain ⟨m, member, same⟩ := List.mem_map.mp listed
  obtain ⟨k, rfl⟩ := Option.isSome_iff_exists.mp scored
  have points : 0 < k := members m member k same
  have counted : k ∈ (ms.map (exactScore? form)).filterMap id :=
    List.mem_filterMap.mpr ⟨some k, listed, rfl⟩
  exact List.sum_pos_iff_exists_pos_nat.mpr ⟨k, counted, points⟩

theorem total_lt_of_more {t : Option Nat} {rest : List (Option Nat)} {n : Nat}
    (points : ∀ k, t = some k → 0 < k) (nonempty : totals ≠ [])
    (total : chainTotal? .all (t :: (totals ++ rest)) = some n) :
    ∃ k, chainTotal? .all totals = some k ∧ k < n := by
  obtain ⟨⟨_, every⟩, rfl⟩ := matched_of_total total
  have scored := every rfl
  obtain ⟨first, member⟩ := List.exists_mem_of_ne_nil totals nonempty
  have within : ∀ u ∈ totals, u.isSome = true := fun u member =>
    scored u (List.mem_cons_of_mem t (List.mem_append_left rest member))
  have matched : Matched .all totals := ⟨⟨first, member, within first member⟩, fun _ => within⟩
  obtain ⟨k, rfl⟩ := Option.isSome_iff_exists.mp (scored t List.mem_cons_self)
  refine ⟨_, chainTotal?_of_matched matched, ?_⟩
  have further : 0 < k := points k rfl
  -- The further members add their points, and the rest takes nothing away.
  simp only [List.filterMap_cons, id, List.filterMap_append, List.sum_cons, List.sum_append]
  omega

end Condition

namespace Selector

open Condition

variable (form : FormState) (selectors : List String)

theorem counts_part (part : String) : (partCondition selectors part).Counts form := by
  unfold partCondition
  split
  · exact fun n scored => counts_points scored
  · apply counts_chain
    intro m member
    obtain ⟨name, _, rfl⟩ := List.mem_map.mp member
    exact fun n scored => counts_points scored

theorem counts_paletteCondition {selector : String} (special : selector ≠ Palette.defaultName) :
    (paletteCondition selector selectors).Counts form := by
  unfold paletteCondition
  rw [if_neg special]
  apply counts_chain
  intro m member
  obtain ⟨part, _, rfl⟩ := List.mem_map.mp member
  exact counts_part form selectors part

theorem part_of_paletteCondition {selector : String} {ms : List Condition}
    (chain : paletteCondition selector selectors = .chain .all ms) :
    ∀ m ∈ ms, m.Counts form := by
  unfold paletteCondition at chain
  split at chain
  · cases chain
  · cases chain
    intro m member
    obtain ⟨part, _, rfl⟩ := List.mem_map.mp member
    exact counts_part form selectors part

end Selector

namespace Palette

/-- The palette asks for everything that the other one asks for, which is something, and for more. -/
def MoreSpecific (p other : Palette) : Prop :=
  ∃ ms ns, p.condition = .chain .all ms ∧ other.condition = .chain .all ns ∧ ns ≠ [] ∧
    (ns : Multiset Condition) < ms

theorem perm_of_lt {ms ns : List Condition} (less : (ns : Multiset Condition) < ms) :
    ∃ m rest, ms.Perm (m :: (ns ++ rest)) := by
  obtain ⟨m, more⟩ := Multiset.lt_iff_cons_le.mp less
  obtain ⟨kept, same, sublist⟩ := Multiset.coe_le.mp more
  obtain ⟨rest, split⟩ := sublist.exists_perm_append
  exact ⟨m, rest, split.trans (same.append_right rest)⟩

variable {form : FormState} {p other : Palette}

theorem MoreSpecific.outscores (more : p.MoreSpecific other)
    (parts : ∀ ms, p.condition = .chain .all ms → ∀ m ∈ ms, m.Counts form) {n : Nat}
    (total : p.condition.exactScore? form = some n) :
    ∃ k, other.condition.exactScore? form = some k ∧ k < n := by
  obtain ⟨ms, ns, condition, asked, nonempty, less⟩ := more
  obtain ⟨m, rest, perm⟩ := perm_of_lt less
  have points : m.Counts form := parts ms condition m (perm.mem_iff.mpr List.mem_cons_self)
  rw [condition, Condition.exactScore?_chain,
    Condition.chainTotal?_perm (perm.map (Condition.exactScore? form)), List.map_cons,
    List.map_append] at total
  rw [asked, Condition.exactScore?_chain]
  exact Condition.total_lt_of_more points (mt List.map_eq_nil_iff.mp nonempty) total

theorem score?_of_exact {n : Nat} (total : p.condition.exactScore? form = some n) :
    p.score? form = some (Condition.capped n) := by
  unfold score?
  rw [Condition.score?_eq_capped, total]
  rfl

theorem exact_of_matching (matching : (p.score? form).isSome = true) :
    ∃ n, p.condition.exactScore? form = some n := by
  unfold score? at matching
  rw [Condition.score?_eq_capped, Option.isSome_map] at matching
  exact Option.isSome_iff_exists.mp matching

end Palette

namespace PaletteSource

variable (source : PaletteSource) (extra : List String)

theorem condition_of_compiled :
    ∀ p ∈ (source.compileInto extra .empty).palettes,
      p.condition = Selector.paletteCondition p.name (source.allSelectors extra) := by
  unfold compileInto
  dsimp only
  rw [compileAll_eq]
  apply Named.forall_mem_runAll
  · intro w listed p _ named
    obtain ⟨entry, _, rfl⟩ := List.mem_map.mp listed
    have name : p.name = entry.1 := named
    change Selector.paletteCondition entry.1 _ = Selector.paletteCondition p.name _
    rw [name]
  · intro p member
    cases member

variable {source extra} {form : FormState} {p : Palette}

theorem moreSpecific_of_parts {other : Palette}
    (member : p ∈ (source.compileInto extra .empty).palettes) (special : p.name ≠ Palette.defaultName)
    (another : other ∈ (source.compileInto extra .empty).palettes)
    (asking : other.name ≠ Palette.defaultName)
    (nonempty : Selector.parts other.name (source.allSelectors extra) ≠ [])
    (less : (Selector.parts other.name (source.allSelectors extra) : Multiset String) <
      Selector.parts p.name (source.allSelectors extra)) : p.MoreSpecific other := by
  refine ⟨_, _, (condition_of_compiled source extra p member).trans (if_neg special),
    (condition_of_compiled source extra other another).trans (if_neg asking),
    mt List.map_eq_nil_iff.mp nonempty, ?_⟩
  exact Multiset.map_lt_map less

theorem parts_count (member : p ∈ (source.compileInto extra .empty).palettes)
    (ms : List Condition) (chain : p.condition = .chain .all ms) : ∀ m ∈ ms, m.Counts form := by
  rw [condition_of_compiled source extra p member] at chain
  exact Selector.part_of_paletteCondition form _ chain

theorem default_score (member : p ∈ (source.compileInto extra .empty).palettes)
    (named : p.name = Palette.defaultName) : p.score? form = some 0 := by
  unfold Palette.score?
  rw [condition_of_compiled source extra p member, Selector.paletteCondition, if_pos named]
  rfl

theorem special_score (member : p ∈ (source.compileInto extra .empty).palettes)
    (special : p.name ≠ Palette.defaultName) {s : UInt32} (scored : p.score? form = some s) :
    0 < s := by
  obtain ⟨n, total⟩ := Palette.exact_of_matching (Option.isSome_of_eq_some scored)
  obtain rfl : Condition.capped n = s :=
    Option.some.inj ((Palette.score?_of_exact total).symm.trans scored)
  rw [condition_of_compiled source extra p member] at total
  have points := Selector.counts_paletteCondition form (source.allSelectors extra) special n total
  rw [UInt32.lt_iff_toNat_lt, Condition.toNat_capped]
  change 0 < _
  omega

theorem special_of_best {q : Palette} (member : p ∈ (source.compileInto extra .empty).palettes)
    (special : p.name ≠ Palette.defaultName) (matching : (p.score? form).isSome = true)
    {top : UInt32} (best : (source.compileInto extra .empty).Best form top)
    (tied : q ∈ (source.compileInto extra .empty).scoring form top) :
    q.name ≠ Palette.defaultName := by
  intro named
  obtain ⟨s, score⟩ := Option.isSome_iff_exists.mp matching
  obtain ⟨within, scored⟩ := PaletteCollection.mem_scoring.mp tied
  have zero : (0 : UInt32) = top := Option.some.inj ((default_score within named).symm.trans scored)
  have below : s ≤ 0 := zero ▸ best.bound p member s score
  exact UInt32.not_le.mpr (special_score member special score) below

end PaletteSource

/-- Among the palettes of one source a palette that asks for more than another one wins over it, and
any palette that matches wins over the default one, which otherwise always matches. -/
theorem specific_palette_wins (source : PaletteSource) (extra : List String) (form : FormState) :
    let c := source.compileInto extra .empty
    (∀ a ∈ c.palettes, ∀ b ∈ c.palettes, b.MoreSpecific a → (b.score? form).isSome = true →
      (a.score? form).isSome = true ∧
        ∀ n, b.condition.exactScore? form = some n → n < 4294967296 →
          (∃ s t, a.score? form = some s ∧ b.score? form = some t ∧ s < t) ∧
            c.choose form ≠ .ok a) ∧
    ((∃ p ∈ c.palettes, p.name ≠ Palette.defaultName ∧ (p.score? form).isSome = true) →
      (∀ p, c.choose form = .ok p → p.name ≠ Palette.defaultName) ∧
        ∀ top names, c.choose form = .error (.ambiguous top names) →
          Palette.defaultName ∉ names) ∧
    ((∃ p ∈ c.palettes, p.name = Palette.defaultName) → c.choose form ≠ .error .noMatch) := by
  intro c
  refine ⟨?_, ?_, ?_⟩
  · intro a first b second more matching
    have parts : ∀ ms, b.condition = .chain .all ms → ∀ m ∈ ms, m.Counts form :=
      PaletteSource.parts_count second
    constructor
    · obtain ⟨m, total⟩ := Palette.exact_of_matching matching
      obtain ⟨k, fewer, _⟩ := more.outscores parts total
      exact Option.isSome_of_eq_some (Palette.score?_of_exact fewer)
    · intro n total small
      obtain ⟨k, fewer, less⟩ := more.outscores parts total
      have lower := Palette.score?_of_exact fewer
      have higher := Palette.score?_of_exact total
      have below := Condition.capped_lt less small
      exact ⟨⟨_, _, lower, higher, below⟩,
        PaletteCollection.not_chosen_of_lower lower second higher below⟩
  · rintro ⟨p, member, special, matching⟩
    constructor
    · intro q chosen
      obtain ⟨top, best, tied⟩ := PaletteCollection.best_of_chosen chosen
      exact PaletteSource.special_of_best member special matching best tied
    · intro top names ambiguous listed
      obtain ⟨best, rfl⟩ := PaletteCollection.best_of_ambiguous ambiguous
      obtain ⟨q, tied, named⟩ := List.mem_map.mp listed
      exact PaletteSource.special_of_best member special matching best tied named
  · rintro ⟨p, member, named⟩ nothing
    have unmatched := PaletteCollection.score?_of_noMatch nothing p member
    rw [PaletteSource.default_score member named] at unmatched
    cases unmatched

def elementSource : PaletteSource where
  selectors := ["type", "addImage"]
  palettes := [("default", "{title_legend},title,type"), ("text", "{title_legend},type,text"),
    ("textaddImage", "{title_legend},type,text;{image_legend:hide},addImage,size")]

def illustratedText : FormState :=
  { record := some ⟨"element", [("addImage", .str "1"), ("type", .str "text")]⟩, input := none }

theorem specific_palette_wins_element :
    let c := elementSource.compileInto [] .empty
    ∃ a ∈ c.palettes, ∃ b ∈ c.palettes, a.name = "text" ∧ b.name = "textaddImage" ∧
      b.MoreSpecific a ∧ (a.score? illustratedText).isSome = true ∧
        (∃ s t, a.score? illustratedText = some s ∧ b.score? illustratedText = some t ∧ s < t) ∧
          c.choose illustratedText ≠ .ok a ∧
            (∀ p, c.choose illustratedText = .ok p → p.name ≠ Palette.defaultName) ∧
              c.choose illustratedText ≠ .error .noMatch := by
  intro c
  have scored : ∀ e ∈ [("default", some 0), ("text", some 1), ("textaddImage", some 2)],
      ∃ p ∈ c.palettes, (p.name, p.condition.exactScore? illustratedText) = e := by
    decide +kernel
  obtain ⟨d, fallback, isDefault⟩ := scored ("default", some 0) (by decide)
  obtain ⟨a, first, isText⟩ := scored ("text", some 1) (by decide)
  obtain ⟨b, second, isImage⟩ := scored ("textaddImage", some 2) (by decide)
  obtain ⟨text, _⟩ := Prod.mk.inj isText
  obtain ⟨image, total⟩ := Prod.mk.inj isImage
  have parts : Selector.parts "text" (elementSource.allSelectors []) = ["text"] ∧
      Selector.parts "textaddImage" (elementSource.allSelectors []) = ["text", "addImage"] := by
    decide +kernel
  have more : b.MoreSpecific a := by
    apply PaletteSource.moreSpecific_of_parts second (by rw [image]; decide) first
      (by rw [text]; decide)
    · rw [text, parts.1]
      decide
    · rw [text, image, parts.1, parts.2]
      exact Multiset.lt_iff_cons_le.mpr ⟨"addImage", (Multiset.cons_swap "addImage" "text" 0).le⟩
  have matching : (b.score? illustratedText).isSome = true :=
    Option.isSome_of_eq_some (Palette.score?_of_exact total)
  obtain ⟨wins, special, always⟩ := specific_palette_wins elementSource [] illustratedText
  obtain ⟨fits, outscored⟩ := wins a first b second more matching
  obtain ⟨lower, unchosen⟩ := outscored 2 total (by decide)
  have named : b.name ≠ Palette.defaultName := by rw [image]; decide
  exact ⟨a, first, b, second, text, image, more, fits, lower, unchosen,
    (special ⟨b, second, named, matching⟩).1, always ⟨d, fallback, (Prod.mk.inj isDefault).1⟩⟩

end RecordEditing
