import Mathlib.Data.List.TakeWhile
import RecordEditing.Proofs.Text.Marking

/-!
What cutting and marking keep of a text. To replace a word by a text that has the same characters of
some kind keeps all characters of that kind in their order, and to cut at separators loses only the
separators and blanks.
-/
namespace RecordEditing

variable {kept separates : Char → Bool} {word new cs : List Char}

theorem filter_replaceFrom (nonempty : word ≠ []) (same : new.filter kept = word.filter kept)
    (skip : Nat) (cs : List Char) :
    (replaceFrom word new skip cs).filter kept = (cs.drop skip).filter kept := by
  induction cs generalizing skip with
  | nil => simp [replaceFrom]
  | cons c cs ih =>
    rw [replaceFrom]
    split
    · next inside =>
      obtain ⟨skip, rfl⟩ := Nat.exists_eq_succ_of_ne_zero inside
      exact ih skip
    · next outside =>
      obtain rfl : skip = 0 := not_not.mp outside
      split
      · next here =>
        -- Of the word at this place `c` is the first character, and what is skipped next the others.
        obtain ⟨rest, begins⟩ := List.isPrefixOf_iff_prefix.mp here
        obtain ⟨d, word, rfl⟩ := List.exists_cons_of_ne_nil nonempty
        obtain ⟨rfl, rfl⟩ := List.cons.inj begins
        rw [List.filter_append, ih, same, ← List.filter_append]
        simp
      · rw [List.drop_zero, List.filter_cons, List.filter_cons, ih, List.drop_zero]

theorem filter_replaceAll (nonempty : word ≠ []) (same : new.filter kept = word.filter kept)
    (cs : List Char) : (replaceAll word new cs).filter kept = cs.filter kept :=
  filter_replaceFrom nonempty same 0 cs

theorem filter_markWord (nonempty : word ≠ []) (cs : List Char) :
    (markWord word cs).filter (· ≠ '|') = cs.filter (· ≠ '|') :=
  filter_replaceAll nonempty (by simp) cs

theorem solid_of_filter {marked : List Char} (solid : ∀ c ∈ cs, isBlank c = false)
    (same : marked.filter (· ≠ '|') = cs.filter (· ≠ '|')) : ∀ c ∈ marked, isBlank c = false := by
  intro c member
  by_cases bar : c = '|'
  · subst bar
    decide
  · have kept : c ∈ marked.filter (· ≠ '|') := List.mem_filter.mpr ⟨member, decide_eq_true bar⟩
    rw [same] at kept
    exact solid c (List.mem_of_mem_filter kept)

theorem flatten_splitWhere (separates : Char → Bool) (cs : List Char) :
    (splitWhere separates cs).flatten = cs.filter fun c => !separates c := by
  induction cs with
  | nil => rfl
  | cons c cs ih =>
    rw [splitWhere, List.filter_cons, ← ih]
    by_cases here : separates c = true
    · simp [here]
    · cases splitWhere separates cs <;> simp [here]

theorem trim_of_solid (solid : ∀ c ∈ cs, isBlank c = false) : trim cs = cs := by
  have front : ∀ cs : List Char, (∀ c ∈ cs, isBlank c = false) → cs.dropWhile isBlank = cs := by
    intro cs solid
    apply List.dropWhile_eq_self_iff.mpr
    intro nonempty
    rw [solid _ (List.getElem_mem nonempty)]
    exact Bool.false_ne_true
  have back : cs.reverse.dropWhile isBlank = cs.reverse :=
    front _ fun c member => solid c (List.mem_reverse.mp member)
  rw [trim, trimEnd, front cs solid, back, List.reverse_reverse]

theorem flatten_tokens (separates : Char → Bool) (solid : ∀ c ∈ cs, isBlank c = false) :
    (tokens separates cs).flatten = cs.filter fun c => !separates c := by
  have whole : (splitWhere separates cs).map trim = (splitWhere separates cs).map id := by
    apply List.map_congr_left
    intro piece member
    apply trim_of_solid
    intro c inside
    have within := List.mem_flatten_of_mem member inside
    rw [flatten_splitWhere] at within
    exact solid c (List.mem_of_mem_filter within)
  rw [tokens, whole, List.map_id, List.flatten_filter_not_isEmpty, flatten_splitWhere]

theorem of_mem_tokens (solid : ∀ c ∈ cs, isBlank c = false) {piece : List Char}
    (member : piece ∈ tokens separates cs) : piece ≠ [] ∧ ∀ c ∈ piece, separates c = false := by
  constructor
  · simpa using (List.mem_filter.mp member).2
  · intro c inside
    have within := List.mem_flatten_of_mem member inside
    rw [flatten_tokens separates solid] at within
    simpa using (List.mem_filter.mp within).2

end RecordEditing
