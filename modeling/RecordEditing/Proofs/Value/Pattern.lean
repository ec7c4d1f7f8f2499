import Mathlib.Data.List.Forall2
import RecordEditing.Value.Pattern

/-!
What patterns match. A text matches a pattern if and only if it can be cut into pieces, one for each
character of the pattern: any run of characters for `%`, any single one for `_`, and for every other
character itself.
-/
namespace RecordEditing

/-- The pieces of a text that one character of a pattern stands for. -/
inductive Fits : Char → List Char → Prop where
  | run (piece : List Char) : Fits '%' piece
  | single (c : Char) : Fits '_' [c]
  | itself {p : Char} (definite : p ≠ '%') (literal : p ≠ '_') : Fits p [p]

theorem mem_suffixes {α : Type} {rest text : List α} :
    rest ∈ suffixes text ↔ ∃ run, run ++ rest = text := by
  induction text with
  | nil => simp [suffixes]
  | cons c text ih =>
    rw [suffixes, List.mem_cons, ih]
    constructor
    · rintro (rfl | ⟨run, rfl⟩)
      · exact ⟨[], rfl⟩
      · exact ⟨c :: run, rfl⟩
    · rintro ⟨_ | ⟨d, run⟩, split⟩
      · exact Or.inl split
      · exact Or.inr ⟨run, (List.cons.inj split).2⟩

theorem fits_iff {p : Char} (definite : p ≠ '%') {piece : List Char} :
    Fits p piece ↔ ∃ c, (p = '_' ∨ p = c) ∧ piece = [c] := by
  constructor
  · rintro (_ | c | ⟨_, literal⟩)
    · exact absurd rfl definite
    · exact ⟨c, Or.inl rfl, rfl⟩
    · exact ⟨p, Or.inr rfl, rfl⟩
  · rintro ⟨c, rfl | rfl, rfl⟩
    · exact .single c
    · by_cases literal : p = '_'
      · exact literal ▸ .single p
      · exact .itself definite literal

theorem matchesPattern_run (ps text : List Char) :
    matchesPattern ('%' :: ps) text = true ↔
      ∃ run rest, run ++ rest = text ∧ matchesPattern ps rest = true := by
  have search : matchesPattern ('%' :: ps) text = (suffixes text).any (matchesPattern ps) := by
    cases text <;> rfl
  rw [search, List.any_eq_true]
  constructor
  · rintro ⟨rest, left, matched⟩
    obtain ⟨run, split⟩ := mem_suffixes.mp left
    exact ⟨run, rest, split, matched⟩
  · rintro ⟨run, rest, split, matched⟩
    exact ⟨rest, mem_suffixes.mpr ⟨run, split⟩, matched⟩

theorem matchesPattern_single {p : Char} (definite : p ≠ '%') (ps text : List Char) :
    matchesPattern (p :: ps) text = true ↔
      ∃ c rest, (p = '_' ∨ p = c) ∧ text = c :: rest ∧ matchesPattern ps rest = true := by
  cases text with
  | nil => simp [matchesPattern, definite]
  | cons c text =>
    rw [matchesPattern, if_neg definite, Bool.and_eq_true, Bool.or_eq_true, decide_eq_true_eq,
      decide_eq_true_eq]
    constructor
    · rintro ⟨stands, matched⟩
      exact ⟨c, text, stands, rfl, matched⟩
    · rintro ⟨_, _, stands, ⟨⟩, matched⟩
      exact ⟨stands, matched⟩

theorem matchesPattern_cons {p : Char} {ps text : List Char} :
    matchesPattern (p :: ps) text = true ↔
      ∃ piece rest, Fits p piece ∧ piece ++ rest = text ∧ matchesPattern ps rest = true := by
  by_cases any : p = '%'
  · subst any
    rw [matchesPattern_run]
    constructor
    · rintro ⟨run, rest, split, matched⟩
      exact ⟨run, rest, .run run, split, matched⟩
    · rintro ⟨run, rest, _, split, matched⟩
      exact ⟨run, rest, split, matched⟩
  · rw [matchesPattern_single any]
    constructor
    · rintro ⟨c, rest, stands, rfl, matched⟩
      exact ⟨[c], rest, (fits_iff any).mpr ⟨c, stands, rfl⟩, rfl, matched⟩
    · rintro ⟨piece, rest, fits, rfl, matched⟩
      obtain ⟨c, stands, rfl⟩ := (fits_iff any).mp fits
      exact ⟨c, rest, stands, rfl, matched⟩

theorem pieces_of_matchesPattern {pattern text : List Char}
    (matched : matchesPattern pattern text = true) :
    ∃ pieces, List.Forall₂ Fits pattern pieces ∧ pieces.flatten = text := by
  induction pattern generalizing text with
  | nil => exact ⟨[], .nil, (List.isEmpty_iff.mp matched).symm⟩
  | cons p ps ih =>
    obtain ⟨piece, rest, fits, rfl, later⟩ := matchesPattern_cons.mp matched
    obtain ⟨pieces, fit, rfl⟩ := ih later
    exact ⟨piece :: pieces, .cons fits fit, rfl⟩

theorem matchesPattern_of_pieces {pattern : List Char} {pieces : List (List Char)}
    (fit : List.Forall₂ Fits pattern pieces) : matchesPattern pattern pieces.flatten = true := by
  induction fit with
  | nil => rfl
  | @cons p piece ps pieces fits _ ih =>
    exact matchesPattern_cons.mpr ⟨piece, pieces.flatten, fits, rfl, ih⟩

/-- Matching decides whether there are such pieces, whatever wildcards stand side by side. -/
theorem matchesPattern_iff_pieces (pattern text : List Char) :
    matchesPattern pattern text = true ↔
      ∃ pieces, List.Forall₂ Fits pattern pieces ∧ pieces.flatten = text := by
  constructor
  · exact pieces_of_matchesPattern
  · rintro ⟨pieces, fit, rfl⟩
    exact matchesPattern_of_pieces fit

/-- A run may be empty, and another one may follow right behind it. -/
example : matchesPattern ['%', '_', '%', '%', 'b'] ['a', 'b'] = true ∧
    matchesPattern ['%', '_', '%', '%', 'b'] ['b'] = false := by decide

/-- A value is like a pattern if the text it shows can be cut into such pieces, upper and lower case
being alike. -/
theorem isLike_iff {v : Option Json} {pattern : String} :
    isLike v pattern = true ↔
      ∃ j, v = some j ∧ ∃ pieces, List.Forall₂ Fits (lowerCase pattern.toList) pieces ∧
        pieces.flatten = lowerCase j.shown.toList := by
  cases v with
  | none => exact iff_of_false nofun nofun
  | some j =>
    constructor
    · exact fun like => ⟨j, rfl, pieces_of_matchesPattern like⟩
    · rintro ⟨_, ⟨⟩, pieces, fit, shown⟩
      change matchesPattern _ (lowerCase j.shown.toList) = true
      rw [← shown]
      exact matchesPattern_of_pieces fit

end RecordEditing
