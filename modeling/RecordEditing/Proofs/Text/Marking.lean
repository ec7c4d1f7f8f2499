import Mathlib.Data.List.Infix
import RecordEditing.Text.Split

/-!
Marking off words. Every occurrence of a word is put between bars. Two words without bars whose
occurrences never overlap can be marked off one after the other in either order: the bars around the
one word neither cut through the other nor bring about an occurrence of it.
-/
namespace RecordEditing

def markWord (word cs : List Char) : List Char := replaceAll word ('|' :: (word ++ ['|'])) cs

/-- No occurrences of the two words overlap: neither word is a part of the other, and no end of the
one is a begin of the other. -/
structure Apart (v w : List Char) : Prop where
  outside : ¬ v <:+: w
  around : ¬ w <:+: v
  behind : ∀ s, s ≠ [] → s <:+ v → ¬ s <+: w
  before : ∀ s, s ≠ [] → s <:+ w → ¬ s <+: v

instance (v w : List Char) : Decidable (Apart v w) :=
  decidable_of_iff (¬ v <:+: w ∧ ¬ w <:+: v ∧ (∀ s ∈ v.tails, s ≠ [] → ¬ s <+: w) ∧
      ∀ s ∈ w.tails, s ≠ [] → ¬ s <+: v) (by
    simp only [List.mem_tails]
    exact ⟨fun ⟨o, a, b, f⟩ => ⟨o, a, fun s n e => b s e n, fun s n e => f s e n⟩,
      fun ⟨o, a, b, f⟩ => ⟨o, a, fun s e n => b s n e, fun s e n => f s n e⟩⟩)

variable {v w cs : List Char}

namespace Apart

theorem symm (apart : Apart v w) : Apart w v where
  outside := apart.around
  around := apart.outside
  behind := apart.before
  before := apart.behind

theorem ne_nil (apart : Apart v w) : v ≠ [] := by
  rintro rfl
  exact apart.outside List.nil_infix

theorem not_prefix (apart : Apart v w) {s : List Char} (nonempty : s ≠ []) (ending : s <:+ v)
    (cs : List Char) : ¬ w <+: s ++ cs := by
  intro begins
  rcases List.prefix_or_prefix_of_prefix begins (List.prefix_append s cs) with inside | beyond
  · exact apart.around (inside.isInfix.trans ending.isInfix)
  · exact apart.behind s nonempty ending beyond

end Apart

theorem markWord_append (nonempty : w ≠ []) (cs : List Char) :
    markWord w (w ++ cs) = '|' :: (w ++ '|' :: markWord w cs) := by
  unfold markWord
  rw [replaceAll_append nonempty]
  simp

theorem markWord_cons {c : Char} (other : ¬ w <+: c :: cs) :
    markWord w (c :: cs) = c :: markWord w cs := replaceAll_cons _ other

theorem markWord_bar (nonempty : w ≠ []) (unbarred : '|' ∉ w) (cs : List Char) :
    markWord w ('|' :: cs) = '|' :: markWord w cs := by
  apply markWord_cons
  intro begins
  rcases List.prefix_cons_iff.mp begins with empty | ⟨_, rfl, _⟩
  · exact nonempty empty
  · exact unbarred List.mem_cons_self

theorem markWord_front {front : List Char}
    (nowhere : ∀ s, s ≠ [] → s <:+ front → ¬ w <+: s ++ cs) :
    markWord w (front ++ cs) = front ++ markWord w cs := by
  induction front with
  | nil => rfl
  | cons c front ih =>
    have here : ¬ w <+: c :: (front ++ cs) :=
      nowhere (c :: front) (List.cons_ne_nil c front) List.suffix_rfl
    rw [List.cons_append, markWord_cons here, ih, List.cons_append]
    intro s nonempty ending
    exact nowhere s nonempty (ending.trans (List.suffix_cons c front))

theorem prefix_of_prefix_markWord (nonempty : w ≠ []) (unbarred : '|' ∉ v)
    (begins : v <+: markWord w cs) : v <+: cs := by
  induction cs generalizing v with
  | nil => exact begins
  | cons c cs ih =>
    by_cases here : w <+: c :: cs
    · obtain ⟨rest, split⟩ := here
      rw [← split, markWord_append nonempty] at begins
      rcases List.prefix_cons_iff.mp begins with rfl | ⟨_, rfl, _⟩
      · exact List.nil_prefix
      · exact absurd List.mem_cons_self unbarred
    · rw [markWord_cons here] at begins
      rcases List.prefix_cons_iff.mp begins with rfl | ⟨rest, rfl, later⟩
      · exact List.nil_prefix
      · have tail := ih (fun bar => unbarred (List.mem_cons_of_mem c bar)) later
        exact List.prefix_cons_iff.mpr (Or.inr ⟨rest, rfl, tail⟩)

theorem markWord_markWord_append (apart : Apart v w) (unbarred : '|' ∉ w) (cs : List Char) :
    markWord w (markWord v (v ++ cs)) = '|' :: (v ++ '|' :: markWord w (markWord v cs)) ∧
      markWord v (markWord w (v ++ cs)) = '|' :: (v ++ '|' :: markWord v (markWord w cs)) := by
  have pass : ∀ cs, markWord w (v ++ cs) = v ++ markWord w cs := fun cs =>
    markWord_front fun s nonempty ending => apart.not_prefix nonempty ending cs
  have bar := markWord_bar apart.symm.ne_nil unbarred
  constructor
  · rw [markWord_append apart.ne_nil, bar, pass, bar]
  · rw [pass, markWord_append apart.ne_nil]

theorem markWord_markWord_cons {c : Char} (nonempty : v ≠ []) (unbarred : '|' ∉ w)
    (first : ¬ v <+: c :: cs) (second : ¬ w <+: c :: cs) :
    markWord w (markWord v (c :: cs)) = c :: markWord w (markWord v cs) := by
  have later : ¬ w <+: c :: markWord v cs := by
    rw [← markWord_cons first]
    exact fun begins => second (prefix_of_prefix_markWord nonempty unbarred begins)
  rw [markWord_cons first, markWord_cons later]

theorem markWord_comm (apart : Apart v w) (unbarred : '|' ∉ v) (unbarredRight : '|' ∉ w)
    (cs : List Char) : markWord w (markWord v cs) = markWord v (markWord w cs) := by
  have shorter : ∀ {u : List Char}, u ≠ [] → ∀ rest, rest.length < (u ++ rest).length := by
    intro u nonempty rest
    have := List.length_pos_iff.mpr nonempty
    rw [List.length_append]
    omega
  -- The text is shortened by the word that begins it, or else by one character.
  induction size : cs.length using Nat.strongRecOn generalizing cs with
  | ind n ih =>
    subst size
    by_cases first : v <+: cs
    · obtain ⟨rest, rfl⟩ := first
      obtain ⟨left, right⟩ := markWord_markWord_append apart unbarredRight rest
      rw [left, right, ih _ (shorter apart.ne_nil rest) rest rfl]
    by_cases second : w <+: cs
    · obtain ⟨rest, rfl⟩ := second
      obtain ⟨left, right⟩ := markWord_markWord_append apart.symm unbarred rest
      rw [left, right, ih _ (shorter apart.symm.ne_nil rest) rest rfl]
    cases cs with
    | nil => rfl
    | cons c cs =>
      rw [markWord_markWord_cons apart.ne_nil unbarredRight first second,
        markWord_markWord_cons apart.symm.ne_nil unbarred second first, ih _ (by simp) cs rfl]

end RecordEditing
