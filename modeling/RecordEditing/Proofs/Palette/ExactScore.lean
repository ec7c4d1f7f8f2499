import Mathlib.Algebra.BigOperators.Group.List.Basic
import Mathlib.Algebra.Ring.Nat
import RecordEditing.Proofs.Palette.Score

/-!
Scores without a limit. Scores are words, and every addition inside of a condition stays at the
largest one; the result is the sum over all natural numbers, limited once at the end. So neither the
order of the members of a chain nor the nesting of chains of one kind changes a score.
-/
namespace RecordEditing
namespace Condition

def points? (holds : Bool) (weight : Nat) : Option Nat := if holds then some weight else none

/-- The sum over the members of a chain that match, if all of them do (one at least), or, where one is
enough, if any of them does. -/
def chainTotal? : Conjunction → List (Option Nat) → Option Nat
  | .all, totals =>
    if totals ≠ [] ∧ ∀ t ∈ totals, t.isSome then some (totals.filterMap id).sum else none
  | .any, totals => if ∃ t ∈ totals, t.isSome then some (totals.filterMap id).sum else none

mutual

/-- The score of a condition without a limit. -/
def exactScore? (form : FormState) : Condition → Option Nat
  | .always => some 0
  | .constant v w => points? v w.toNat
  | .isSet p typed w => points? (truthHolds true typed (form.value? p)) w.toNat
  | .isUnset p typed w => points? (truthHolds false typed (form.value? p)) w.toNat
  | .equals p v typed w => points? (valueHolds v typed (form.value? p)) w.toNat
  | .not c => points? (exactScore? form c).isNone 1
  | .chain j ms => chainTotal? j (exactScores form ms)

def exactScores (form : FormState) : List Condition → List (Option Nat)
  | [] => []
  | c :: cs => exactScore? form c :: exactScores form cs

end

theorem exactScores_eq_map (form : FormState) (cs : List Condition) :
    exactScores form cs = cs.map (exactScore? form) := by
  induction cs with
  | nil => rfl
  | cons c cs ih => simp [exactScores, ih]

theorem exactScore?_chain (form : FormState) (j : Conjunction) (ms : List Condition) :
    (chain j ms).exactScore? form = chainTotal? j (ms.map (exactScore? form)) := by
  rw [exactScore?, exactScores_eq_map]

def capped (n : Nat) : UInt32 := UInt32.ofNat (min n 4294967295)

theorem toNat_capped (n : Nat) : (capped n).toNat = min n 4294967295 :=
  UInt32.toNat_ofNat_of_lt' (by simp only [UInt32.size]; omega)

theorem capped_toNat (w : UInt32) : capped w.toNat = w := by
  have small := w.toNat_lt
  apply UInt32.toNat_inj.mp
  rw [toNat_capped]
  omega

theorem capped_lt {k n : Nat} (less : k < n) (small : n < 4294967296) :
    capped k < capped n := by
  rw [UInt32.lt_iff_toNat_lt, toNat_capped, toNat_capped]
  omega

theorem addScores_capped (m n : Nat) : addScores (capped m) (capped n) = capped (m + n) := by
  apply UInt32.toNat_inj.mp
  change (capped ((capped m).toNat + (capped n).toNat)).toNat = (capped (m + n)).toNat
  simp only [toNat_capped]
  omega

theorem foldl_addScores_capped (ns : List Nat) (n : Nat) :
    (ns.map capped).foldl addScores (capped n) = capped (n + ns.sum) := by
  induction ns generalizing n with
  | nil => rfl
  | cons m ns ih =>
    rw [List.map_cons, List.foldl_cons, addScores_capped, ih, List.sum_cons, Nat.add_assoc]

theorem weighted_eq_capped (holds : Bool) (w : UInt32) :
    weighted holds w = (points? holds w.toNat).map capped := by
  cases holds with
  | false => rfl
  | true => exact congrArg some (capped_toNat w).symm

variable {j : Conjunction} {totals : List (Option Nat)}

theorem matched_map {α : Type} {f : Nat → α} :
    Matched j (totals.map (Option.map f)) ↔ Matched j totals := by
  simp only [Matched, List.mem_map, exists_exists_and_eq_and, Option.isSome_map,
    forall_exists_index, and_imp, forall_apply_eq_imp_iff₂]

theorem chainTotal?_of_matched (matched : Matched j totals) :
    chainTotal? j totals = some (totals.filterMap id).sum := by
  obtain ⟨⟨t, member, scored⟩, every⟩ := matched
  cases j with
  | all => exact if_pos ⟨List.ne_nil_of_mem member, every rfl⟩
  | any => exact if_pos ⟨t, member, scored⟩

theorem chainTotal?_of_unmatched (unmatched : ¬ Matched j totals) : chainTotal? j totals = none := by
  cases j with
  | all =>
    apply if_neg
    rintro ⟨nonempty, every⟩
    obtain ⟨t, member⟩ := List.exists_mem_of_ne_nil totals nonempty
    exact unmatched ⟨⟨t, member, every t member⟩, fun _ => every⟩
  | any =>
    apply if_neg
    intro found
    exact unmatched ⟨found, by rintro ⟨⟩⟩

theorem isSome_chainTotal? : (chainTotal? j totals).isSome = true ↔ Matched j totals := by
  by_cases matched : Matched j totals
  · simp [chainTotal?_of_matched matched, matched]
  · simp [chainTotal?_of_unmatched matched, matched]

theorem matched_of_total {n : Nat} (total : chainTotal? j totals = some n) :
    Matched j totals ∧ (totals.filterMap id).sum = n := by
  have matched := isSome_chainTotal?.mp (Option.isSome_of_eq_some total)
  rw [chainTotal?_of_matched matched] at total
  exact ⟨matched, Option.some.inj total⟩

theorem chainScore_capped (j : Conjunction) (totals : List (Option Nat)) :
    chainScore j (totals.map (Option.map capped)) = (chainTotal? j totals).map capped := by
  have limited : (totals.map (Option.map capped)).filterMap id =
      (totals.filterMap id).map capped := by
    rw [List.filterMap_map, List.map_filterMap]
    rfl
  have agrees : (chainScore j (totals.map (Option.map capped))).isSome = true ↔
      Matched j totals := (isSome_chainScore j _).trans matched_map
  by_cases matched : Matched j totals
  · rw [chainTotal?_of_matched matched]
    obtain ⟨s, score⟩ := Option.isSome_iff_exists.mp (agrees.mpr matched)
    unfold chainScore at score ⊢
    rw [Option.ite_none_left_eq_some] at score
    rw [if_neg score.1, limited]
    -- Where the chain matches there is a first score, and the others are added to it.
    cases matching : totals.filterMap id with
    | nil => exact absurd matching (exists_isSome_iff.mp matched.1)
    | cons n ns => exact congrArg some (foldl_addScores_capped ns n)
  · rw [chainTotal?_of_unmatched matched]
    exact Option.not_isSome_iff_eq_none.mp (mt agrees.mp matched)

theorem score?_eq_capped (form : FormState) (c : Condition) :
    c.score? form = (c.exactScore? form).map capped := by
  induction c using Condition.induction with
  | always => exact congrArg some (capped_toNat 0).symm
  | constant v w => exact weighted_eq_capped v w
  | isSet p typed w => exact weighted_eq_capped _ w
  | isUnset p typed w => exact weighted_eq_capped _ w
  | equals p v typed w => exact weighted_eq_capped _ w
  | not c ih =>
    rw [score?, ih, Option.isNone_map]
    exact weighted_eq_capped _ 1
  | chain j ms ih =>
    have members : ms.map (score? form) = (ms.map (exactScore? form)).map (Option.map capped) := by
      rw [List.map_map]
      exact List.map_congr_left ih
    rw [score?, scores_eq_map, members, chainScore_capped, exactScore?_chain]

theorem chainTotal?_perm {others : List (Option Nat)} (perm : totals.Perm others) :
    chainTotal? j totals = chainTotal? j others := by
  have same : Matched j totals ↔ Matched j others := by simp only [Matched, perm.mem_iff]
  by_cases matched : Matched j totals
  · rw [chainTotal?_of_matched matched, chainTotal?_of_matched (same.mp matched),
      (perm.filterMap id).sum_eq]
  · rw [chainTotal?_of_unmatched matched, chainTotal?_of_unmatched (mt same.mpr matched)]

variable {before inner after : List (Option Nat)}

theorem matched_splice (nonempty : inner ≠ []) :
    Matched j (before ++ chainTotal? j inner :: after) ↔ Matched j (before ++ inner ++ after) := by
  obtain ⟨first, member⟩ := List.exists_mem_of_ne_nil inner nonempty
  simp only [Matched, List.mem_append, List.mem_cons, isSome_chainTotal?, or_and_right, exists_or,
    exists_eq_left, or_imp, forall_and, forall_eq]
  grind

theorem sum_inner (matched : Matched j (before ++ inner ++ after)) :
    ((chainTotal? j inner).toList).sum = (inner.filterMap id).sum := by
  by_cases inside : Matched j inner
  · rw [chainTotal?_of_matched inside]
    exact List.sum_singleton
  · -- Inside of a chain that matches, one of its kind fails only if none of its members scores.
    have unscored : inner.filterMap id = [] := by
      apply Classical.byContradiction
      intro scored
      refine inside ⟨exists_isSome_iff.mpr scored, fun kind t member => ?_⟩
      exact matched.2 kind t (List.mem_append_left _ (List.mem_append_right _ member))
    rw [chainTotal?_of_unmatched inside, unscored]
    rfl

theorem chainTotal?_splice (nonempty : inner ≠ []) :
    chainTotal? j (before ++ chainTotal? j inner :: after) =
      chainTotal? j (before ++ inner ++ after) := by
  by_cases matched : Matched j (before ++ inner ++ after)
  · rw [chainTotal?_of_matched matched, chainTotal?_of_matched ((matched_splice nonempty).mpr matched)]
    have split : before ++ chainTotal? j inner :: after = before ++ [chainTotal? j inner] ++ after :=
      List.append_cons before _ after
    have single : [chainTotal? j inner].filterMap id = (chainTotal? j inner).toList := by
      cases chainTotal? j inner <;> rfl
    rw [split]
    simp only [List.filterMap_append, List.sum_append, single, sum_inner matched]
  · rw [chainTotal?_of_unmatched matched,
      chainTotal?_of_unmatched (mt (matched_splice nonempty).mp matched)]

/-- The conditions that come about when members of chains, at any depth, are put into another order
and chains with members are joined with the chains of their kind around them, or taken out again. -/
inductive Rearranged : Condition → Condition → Prop
  | reorder (j : Conjunction) {ms ns : List Condition} (perm : ms.Perm ns) :
      Rearranged (.chain j ms) (.chain j ns)
  | splice (j : Conjunction) (before : List Condition) {inner : List Condition}
      (nonempty : inner ≠ []) (after : List Condition) :
      Rearranged (.chain j (before ++ .chain j inner :: after))
        (.chain j (before ++ inner ++ after))
  | not {c d : Condition} (inner : Rearranged c d) : Rearranged (.not c) (.not d)
  | member (j : Conjunction) (before : List Condition) {c d : Condition} (inner : Rearranged c d)
      (after : List Condition) :
      Rearranged (.chain j (before ++ c :: after)) (.chain j (before ++ d :: after))
  | symm {c d : Condition} (back : Rearranged d c) : Rearranged c d
  | trans {c d e : Condition} (first : Rearranged c d) (second : Rearranged d e) : Rearranged c e

theorem exactScore?_rearranged {c d : Condition} (rearranged : Rearranged c d) (form : FormState) :
    c.exactScore? form = d.exactScore? form := by
  induction rearranged with
  | reorder j perm =>
    rw [exactScore?_chain, exactScore?_chain]
    exact chainTotal?_perm (perm.map _)
  | splice j before nonempty after =>
    simp only [exactScore?_chain, List.map_append, List.map_cons]
    exact chainTotal?_splice (mt List.map_eq_nil_iff.mp nonempty)
  | not inner ih => rw [exactScore?, exactScore?, ih]
  | member j before inner after ih =>
    simp only [exactScore?_chain, List.map_append, List.map_cons, ih]
  | symm back ih => exact ih.symm
  | trans _ _ first second => exact first.trans second

end Condition

open Condition in
/-- A score is the exact score, limited once, and neither the order of members nor the nesting of
chains of one kind changes it. -/
theorem score_limited_once (form : FormState) :
    (∀ c : Condition,
      (c.score? form).map UInt32.toNat = (c.exactScore? form).map (min · 4294967295)) ∧
    ∀ c d : Condition, Rearranged c d → c.score? form = d.score? form := by
  constructor
  · intro c
    rw [score?_eq_capped, Option.map_map]
    exact congrArg (Option.map · (c.exactScore? form)) (funext toNat_capped)
  · intro c d rearranged
    rw [score?_eq_capped, score?_eq_capped, exactScore?_rearranged rearranged]

def nestedWeights : Condition :=
  .chain .all [.chain .all [.constant true 4294967295, .isSet "title" false 5],
    .not (.isSet "locked" false 1)]

def flatWeights : Condition :=
  .chain .all [.not (.isSet "locked" false 1), .constant true 4294967295, .isSet "title" false 5]

def titledPage : FormState :=
  { record := some ⟨"page", [("title", .str "Home")]⟩, input := none }

open Condition in
theorem score_limited_once_page : Rearranged nestedWeights flatWeights ∧
    nestedWeights.exactScore? titledPage = some 4294967301 ∧
      nestedWeights.score? titledPage = some 4294967295 ∧
        nestedWeights.score? titledPage = flatWeights.score? titledPage := by
  have joined := Rearranged.splice .all []
    (List.cons_ne_nil (constant true 4294967295) [isSet "title" false 5])
    [.not (isSet "locked" false 1)]
  have rearranged : Rearranged nestedWeights flatWeights :=
    joined.trans (.reorder .all List.perm_append_comm)
  exact ⟨rearranged, by decide +kernel, by decide +kernel,
    (score_limited_once titledPage).2 _ _ rearranged⟩

/-- An empty conjunction cannot be taken out of another one: it does not match. -/
example (form : FormState) :
    (Condition.chain .all [.always, .chain .all []]).score? form = none ∧
      (Condition.chain .all [.always]).score? form = some 0 := ⟨rfl, rfl⟩

end RecordEditing
