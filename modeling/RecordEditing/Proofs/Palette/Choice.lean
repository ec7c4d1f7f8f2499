import Mathlib.Data.List.Induction
import RecordEditing.Palette.Basic

/-!
Which palette is chosen: the one with the best score. Where several have it they are named instead,
and where no palette matches there is nothing to choose from. The pass over the palettes keeps a
score and a list, which it clears and extends; after any palettes these are the best of the scores
and all palettes that have it, in their order.
-/
namespace RecordEditing

theorem two_le_length_iff {α : Type} {xs : List α} :
    2 ≤ xs.length ↔ xs ≠ [] ∧ ∀ x, xs ≠ [x] := by
  match xs with
  | [] => simp
  | [x] => simp
  | x :: y :: rest => simp

namespace PaletteCollection

variable {c : PaletteCollection} {form : FormState}

def scoring (c : PaletteCollection) (form : FormState) (top : UInt32) : List Palette :=
  c.palettes.filter fun p => p.score? form == some top

theorem mem_scoring {p : Palette} {top : UInt32} :
    p ∈ c.scoring form top ↔ p ∈ c.palettes ∧ p.score? form = some top := by
  rw [scoring, List.mem_filter, beq_iff_eq]

/-- The score is that of a palette, and no palette has a better one. -/
structure Best (c : PaletteCollection) (form : FormState) (top : UInt32) : Prop where
  scored : c.scoring form top ≠ []
  bound : ∀ p ∈ c.palettes, ∀ s, p.score? form = some s → s ≤ top

/-- What a pass over a collection leaves behind: nothing while no palette matches, and else the best
score with all palettes that have it. -/
inductive Found (c : PaletteCollection) (form : FormState) : Winners → Prop where
  | nothing (unmatched : ∀ p ∈ c.palettes, p.score? form = none) : Found c form {}
  | best {top : UInt32} (best : c.Best form top) : Found c form ⟨some top, c.scoring form top⟩

section Step

variable {seen : List Palette} {p : Palette}

theorem forall_mem_snoc {property : Palette → Prop} :
    (∀ q ∈ seen ++ [p], property q) ↔ (∀ q ∈ seen, property q) ∧ property p := by
  rw [List.forall_mem_append, List.forall_mem_singleton]

theorem scoring_snoc_self {top : UInt32} (score : p.score? form = some top) :
    scoring ⟨seen ++ [p]⟩ form top = scoring ⟨seen⟩ form top ++ [p] := by
  simp [scoring, score]

theorem scoring_snoc_of_ne {top : UInt32} (other : p.score? form ≠ some top) :
    scoring ⟨seen ++ [p]⟩ form top = scoring ⟨seen⟩ form top := by
  simp [scoring, other]

theorem scoring_eq_nil {top : UInt32}
    (lower : ∀ q ∈ seen, ∀ s, q.score? form = some s → s < top) : scoring ⟨seen⟩ form top = [] := by
  refine List.filter_eq_nil_iff.mpr fun q listed same => ?_
  exact UInt32.lt_irrefl top (lower q listed top (beq_iff_eq.mp same))

theorem bound_of_score {s top : UInt32} (score : p.score? form = some s) (le : s ≤ top) :
    ∀ t, p.score? form = some t → t ≤ top := by
  intro t scored
  rw [score] at scored
  exact Option.some.inj scored ▸ le

theorem found_leader {s : UInt32} (score : p.score? form = some s)
    (lower : ∀ q ∈ seen, ∀ t, q.score? form = some t → t < s) :
    Found ⟨seen ++ [p]⟩ form ⟨some s, [p]⟩ := by
  have alone : scoring ⟨seen ++ [p]⟩ form s = [p] := by
    rw [scoring_snoc_self score, scoring_eq_nil lower, List.nil_append]
  have best : Best ⟨seen ++ [p]⟩ form s := by
    refine ⟨by rw [alone]; exact List.cons_ne_nil p [], forall_mem_snoc.mpr ⟨?_, ?_⟩⟩
    · exact fun q listed t scored => UInt32.le_of_lt (lower q listed t scored)
    · exact bound_of_score score (UInt32.le_refl s)
  have found := Found.best best
  rwa [alone] at found

theorem Best.snoc {top : UInt32} (best : Best ⟨seen⟩ form top)
    (bound : ∀ s, p.score? form = some s → s ≤ top) : Best ⟨seen ++ [p]⟩ form top := by
  refine ⟨?_, forall_mem_snoc.mpr ⟨best.bound, bound⟩⟩
  by_cases same : p.score? form = some top
  · rw [scoring_snoc_self same]
    exact List.append_ne_nil_of_right_ne_nil _ (List.cons_ne_nil p [])
  · rw [scoring_snoc_of_ne same]
    exact best.scored

/-- One step of the pass: the palettes seen so far grow by the one that is compared. -/
theorem found_offer {w : Winners} (found : Found ⟨seen⟩ form w) (p : Palette) :
    Found ⟨seen ++ [p]⟩ form (w.offer form p) := by
  unfold Winners.offer
  cases score : p.score? form with
  | none =>
    cases found with
    | nothing unmatched => exact Found.nothing (forall_mem_snoc.mpr ⟨unmatched, score⟩)
    | @best top best =>
      have missed : p.score? form ≠ some top := by simp [score]
      rw [← scoring_snoc_of_ne missed]
      exact Found.best (best.snoc (by simp [score]))
  | some s =>
    cases found with
    | nothing unmatched =>
      refine found_leader score fun q listed t scored => ?_
      rw [unmatched q listed] at scored
      cases scored
    | @best top best =>
      dsimp only
      split_ifs with less same
      · -- It loses, and the winners stay.
        have missed : p.score? form ≠ some top := by
          rw [score]
          rintro ⟨⟩
          exact UInt32.lt_irrefl s less
        rw [← scoring_snoc_of_ne missed]
        exact Found.best (best.snoc (bound_of_score score (UInt32.le_of_lt less)))
      · -- It joins the winners.
        subst same
        rw [← scoring_snoc_self score]
        exact Found.best (best.snoc (bound_of_score score (UInt32.le_refl s)))
      · -- It takes the place of all of them.
        have higher : top < s :=
          UInt32.lt_of_le_of_ne (UInt32.not_lt.mp less) (Ne.symm same)
        refine found_leader score fun q listed t scored => ?_
        exact UInt32.lt_of_le_of_lt (best.bound q listed t scored) higher

end Step

theorem found_winners (c : PaletteCollection) (form : FormState) :
    Found c form (c.winners form) := by
  obtain ⟨palettes⟩ := c
  unfold winners
  induction palettes using List.reverseRecOn with
  | nil => exact Found.nothing (by simp)
  | append_singleton seen p ih =>
    rw [List.foldl_append]
    exact found_offer ih p

theorem choose_cases (c : PaletteCollection) (form : FormState) :
    ((∀ p ∈ c.palettes, p.score? form = none) ∧ c.choose form = .error .noMatch) ∨
    ∃ top, c.Best form top ∧
      ((∃ p, c.scoring form top = [p] ∧ c.choose form = .ok p) ∨
        (∀ p, c.scoring form top ≠ [p]) ∧
          c.choose form = .error (.ambiguous top ((c.scoring form top).map Palette.name))) := by
  have found := found_winners c form
  unfold choose
  generalize c.winners form = w at found ⊢
  cases found with
  | nothing unmatched => exact Or.inl ⟨unmatched, rfl⟩
  | @best top best =>
    refine Or.inr ⟨top, best, ?_⟩
    cases listed : c.scoring form top with
    | nil => exact absurd listed best.scored
    | cons first more =>
      cases more with
      | nil => exact Or.inl ⟨first, rfl, rfl⟩
      | cons second rest => exact Or.inr ⟨by simp, rfl⟩

theorem Best.scorer {top : UInt32} (best : c.Best form top) :
    ∃ p ∈ c.palettes, p.score? form = some top := by
  obtain ⟨p, scored⟩ := List.exists_mem_of_ne_nil _ best.scored
  exact ⟨p, mem_scoring.mp scored⟩

theorem Best.unique {s t : UInt32} (first : c.Best form s) (second : c.Best form t) : s = t := by
  obtain ⟨p, listed, score⟩ := first.scorer
  obtain ⟨q, stored, scored⟩ := second.scorer
  exact UInt32.le_antisymm (second.bound p listed s score) (first.bound q stored t scored)

theorem choose_of_best {top : UInt32} (best : c.Best form top) :
    (∀ p, c.scoring form top = [p] → c.choose form = .ok p) ∧
      ((∀ p, c.scoring form top ≠ [p]) →
        c.choose form = .error (.ambiguous top ((c.scoring form top).map Palette.name))) := by
  rcases choose_cases c form with ⟨nothing, _⟩ | ⟨other, otherBest, outcome⟩
  · obtain ⟨p, listed, score⟩ := best.scorer
    rw [nothing p listed] at score
    cases score
  · obtain rfl : other = top := otherBest.unique best
    rcases outcome with ⟨p, alone, one⟩ | ⟨several, named⟩
    · constructor
      · intro q single
        obtain rfl : p = q := List.cons.inj (alone.symm.trans single) |>.1
        exact one
      · intro several
        exact absurd alone (several p)
    · exact ⟨fun p alone => absurd alone (several p), fun _ => named⟩

theorem score?_of_noMatch (chosen : c.choose form = .error .noMatch) :
    ∀ p ∈ c.palettes, p.score? form = none := by
  rcases choose_cases c form with ⟨nothing, _⟩ | ⟨top, _, ⟨p, _, one⟩ | ⟨_, several⟩⟩
  · exact nothing
  · rw [one] at chosen
    cases chosen
  · rw [several] at chosen
    cases chosen

theorem choose_eq_ok_iff {p : Palette} :
    c.choose form = .ok p ↔ ∃ top, c.Best form top ∧ c.scoring form top = [p] := by
  constructor
  · intro chosen
    rcases choose_cases c form with ⟨_, refused⟩ | ⟨top, best, ⟨q, alone, one⟩ | ⟨_, several⟩⟩
    · rw [refused] at chosen
      cases chosen
    · rw [one] at chosen
      cases chosen
      exact ⟨top, best, alone⟩
    · rw [several] at chosen
      cases chosen
  · intro ⟨top, best, alone⟩
    exact (choose_of_best best).1 p alone

theorem best_of_chosen {p : Palette} (chosen : c.choose form = .ok p) :
    ∃ top, c.Best form top ∧ p ∈ c.scoring form top := by
  obtain ⟨top, best, alone⟩ := choose_eq_ok_iff.mp chosen
  exact ⟨top, best, alone ▸ List.mem_singleton_self p⟩

theorem choose_eq_ambiguous_iff {top : UInt32} {names : List String} :
    c.choose form = .error (.ambiguous top names) ↔
      c.Best form top ∧ (∀ p, c.scoring form top ≠ [p]) ∧
        names = (c.scoring form top).map Palette.name := by
  constructor
  · intro chosen
    rcases choose_cases c form with ⟨_, refused⟩ | ⟨other, best, ⟨p, _, one⟩ | ⟨several, named⟩⟩
    · rw [refused] at chosen
      cases chosen
    · rw [one] at chosen
      cases chosen
    · rw [named] at chosen
      cases chosen
      exact ⟨best, several, rfl⟩
  · rintro ⟨best, several, rfl⟩
    exact (choose_of_best best).2 several

theorem best_of_ambiguous {top : UInt32} {names : List String}
    (chosen : c.choose form = .error (.ambiguous top names)) :
    c.Best form top ∧ names = (c.scoring form top).map Palette.name := by
  obtain ⟨best, _, named⟩ := choose_eq_ambiguous_iff.mp chosen
  exact ⟨best, named⟩

/-- One palette alone has the best score if it outscores those before and after it. -/
theorem scoring_eq_singleton_iff {p : Palette} :
    (∃ top, c.Best form top ∧ c.scoring form top = [p]) ↔
      ∃ front back s, c.palettes = front ++ p :: back ∧ p.score? form = some s ∧
        ∀ q ∈ front ++ back, ∀ t, q.score? form = some t → t < s := by
  constructor
  · rintro ⟨top, best, alone⟩
    obtain ⟨front, back, split, before, score, after⟩ := List.filter_eq_cons_iff.mp alone
    refine ⟨front, back, top, split, beq_iff_eq.mp score, ?_⟩
    intro q other t scored
    have listed : q ∈ c.palettes := by
      rw [split]
      exact List.perm_middle.mem_iff.mpr (List.mem_cons_of_mem p other)
    have missed : t ≠ top := by
      rintro rfl
      have scores : (q.score? form == some t) = true := beq_iff_eq.mpr scored
      rcases List.mem_append.mp other with early | late
      · exact before q early scores
      · exact List.filter_eq_nil_iff.mp after q late scores
    exact UInt32.lt_of_le_of_ne (best.bound q listed t scored) missed
  · rintro ⟨front, back, s, split, score, outscored⟩
    have missed : ∀ q ∈ front ++ back, ¬ (q.score? form == some s) = true := by
      intro q other same
      exact UInt32.lt_irrefl s (outscored q other s (beq_iff_eq.mp same))
    have alone : c.scoring form s = [p] := by
      refine List.filter_eq_cons_iff.mpr ⟨front, back, split, ?_, beq_iff_eq.mpr score, ?_⟩
      · exact fun q early => missed q (List.mem_append_left back early)
      · exact List.filter_eq_nil_iff.mpr fun q late => missed q (List.mem_append_right front late)
    refine ⟨s, ⟨by simp [alone], ?_⟩, alone⟩
    intro q listed t scored
    rw [split] at listed
    rcases List.mem_cons.mp (List.perm_middle.mem_iff.mp listed) with rfl | other
    · obtain rfl : s = t := Option.some.inj (score.symm.trans scored)
      exact UInt32.le_refl s
    · exact UInt32.le_of_lt (outscored q other t scored)

theorem not_chosen_of_lower {a b : Palette} {s t : UInt32} (lower : a.score? form = some s)
    (member : b ∈ c.palettes) (higher : b.score? form = some t) (less : s < t) :
    c.choose form ≠ .ok a := by
  intro chosen
  obtain ⟨top, best, scored⟩ := best_of_chosen chosen
  obtain rfl : s = top := Option.some.inj (lower.symm.trans (mem_scoring.mp scored).2)
  exact UInt32.not_le.mpr less (best.bound b member t higher)

end PaletteCollection

/-- A palette is chosen if and only if it matches and outscores all others that match. If and only
if several share the best score, these are named in their order; and only where no palette matches
is there nothing to choose from. -/
theorem choice_iff_outscores (c : PaletteCollection) (form : FormState) :
    (∀ p, c.choose form = .ok p ↔ ∃ front back s, c.palettes = front ++ p :: back ∧
      p.score? form = some s ∧ ∀ q ∈ front ++ back, ∀ t, q.score? form = some t → t < s) ∧
    (∀ top names, c.choose form = .error (.ambiguous top names) ↔
      (∀ p ∈ c.palettes, ∀ s, p.score? form = some s → s ≤ top) ∧
      2 ≤ (c.palettes.filter (·.score? form == some top)).length ∧
      names = (c.palettes.filter (·.score? form == some top)).map Palette.name) ∧
    (c.choose form = .error .noMatch ↔ ∀ p ∈ c.palettes, p.score? form = none) := by
  refine ⟨?_, ?_, PaletteCollection.score?_of_noMatch, ?_⟩
  · intro p
    rw [PaletteCollection.choose_eq_ok_iff, PaletteCollection.scoring_eq_singleton_iff]
  · intro top names
    rw [PaletteCollection.choose_eq_ambiguous_iff]
    constructor
    · intro ⟨best, several, named⟩
      exact ⟨best.bound, two_le_length_iff.mpr ⟨best.scored, several⟩, named⟩
    · intro ⟨bound, atLeastTwo, named⟩
      obtain ⟨scored, several⟩ := two_le_length_iff.mp atLeastTwo
      exact ⟨⟨scored, bound⟩, several, named⟩
  · intro nothing
    rcases PaletteCollection.choose_cases c form with ⟨_, refused⟩ | ⟨top, best, _⟩
    · exact refused
    · obtain ⟨p, listed, score⟩ := best.scorer
      rw [nothing p listed] at score
      cases score

end RecordEditing
