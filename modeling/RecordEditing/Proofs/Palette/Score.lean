import RecordEditing.Palette.Condition

/-!
Scores against truth values. A condition scores where it holds, unless it has an empty conjunction
somewhere: that one holds of every form and scores on none.
-/
namespace RecordEditing
namespace Condition

@[elab_as_elim]
theorem induction {motive : Condition → Prop} (always : motive .always)
    (constant : ∀ v w, motive (.constant v w)) (isSet : ∀ p t w, motive (.isSet p t w))
    (isUnset : ∀ p t w, motive (.isUnset p t w)) (equals : ∀ p v t w, motive (.equals p v t w))
    (not : ∀ c, motive c → motive (.not c))
    (chain : ∀ j ms, (∀ m ∈ ms, motive m) → motive (.chain j ms)) : ∀ c, motive c
  | .always => always
  | .constant v w => constant v w
  | .isSet p t w => isSet p t w
  | .isUnset p t w => isUnset p t w
  | .equals p v t w => equals p v t w
  | .not c => not c (induction always constant isSet isUnset equals not chain c)
  | .chain j ms => chain j ms fun m _ => induction always constant isSet isUnset equals not chain m

mutual

/-- No conjunction in the condition is empty, at any depth. -/
def filled : Condition → Bool
  | .not c => filled c
  | .chain j ms => (j == .any || !ms.isEmpty) && allFilled ms
  | _ => true

def allFilled : List Condition → Bool
  | [] => true
  | c :: cs => filled c && allFilled cs

end

theorem allFilled_iff {cs : List Condition} :
    allFilled cs = true ↔ ∀ c ∈ cs, c.filled = true := by
  induction cs with
  | nil => simp [allFilled]
  | cons c cs ih => simp [allFilled, ih]

theorem filled_chain {j : Conjunction} {ms : List Condition}
    (filled : (chain j ms).filled = true) :
    (j = .all → ms ≠ []) ∧ ∀ m ∈ ms, m.filled = true := by
  simp only [Condition.filled, Bool.and_eq_true, Bool.or_eq_true, beq_iff_eq,
    Bool.not_eq_true', List.isEmpty_eq_false_iff] at filled
  obtain ⟨kind, members⟩ := filled
  constructor
  · rintro rfl
    exact kind.resolve_left (by decide)
  · exact allFilled_iff.mp members

theorem isSome_weighted (holds : Bool) (weight : UInt32) :
    (weighted holds weight).isSome = holds := by
  cases holds <;> rfl

theorem exists_isSome_iff {α : Type} {scores : List (Option α)} :
    (∃ s ∈ scores, s.isSome = true) ↔ scores.filterMap id ≠ [] := by
  constructor
  · intro ⟨s, member, scored⟩ unmatched
    obtain rfl : s = none := List.filterMap_eq_nil_iff.mp unmatched s member
    cases scored
  · intro matched
    obtain ⟨w, found⟩ := List.exists_mem_of_ne_nil _ matched
    obtain ⟨s, member, same⟩ := List.mem_filterMap.mp found
    exact ⟨s, member, Option.isSome_of_eq_some same⟩

def Matched {α : Type} (j : Conjunction) (scores : List (Option α)) : Prop :=
  (∃ s ∈ scores, s.isSome = true) ∧ (j = .all → ∀ s ∈ scores, s.isSome = true)

theorem isSome_chainScore (j : Conjunction) (scores : List (Option UInt32)) :
    (chainScore j scores).isSome = true ↔ Matched j scores := by
  unfold chainScore Matched
  split
  · next missing =>
    obtain ⟨conjunction, unmatched⟩ := missing
    obtain ⟨s, member, unscored⟩ := List.any_eq_true.mp unmatched
    constructor
    · intro scored
      cases scored
    · intro ⟨_, every⟩
      have scored := every conjunction s member
      rw [Option.isNone_iff_eq_none.mp unscored] at scored
      cases scored
  · next complete =>
    have every : j = .all → ∀ s ∈ scores, s.isSome = true := by
      intro conjunction s member
      rw [Option.isSome_iff_ne_none]
      rintro rfl
      exact complete ⟨conjunction, List.any_eq_true.mpr ⟨none, member, rfl⟩⟩
    rw [exists_isSome_iff, and_iff_left every]
    split
    · next unmatched =>
      constructor
      · intro scored
        cases scored
      · intro matched
        exact absurd unmatched matched
    · next first rest found =>
      constructor
      · intro _
        rw [found]
        exact List.cons_ne_nil first rest
      · intro _
        rfl

theorem isSome_score?_chain (form : FormState) (j : Conjunction) (ms : List Condition) :
    ((chain j ms).score? form).isSome = true ↔
      (∃ m ∈ ms, (m.score? form).isSome = true) ∧
        (j = .all → ∀ m ∈ ms, (m.score? form).isSome = true) := by
  have found : (∃ s ∈ ms.map (score? form), s.isSome = true) ↔
      ∃ m ∈ ms, (m.score? form).isSome = true := by
    rw [← List.any_eq_true, List.any_map, List.any_eq_true]
    rfl
  rw [score?, scores_eq_map, isSome_chainScore, Matched, found, List.forall_mem_map]

end Condition

open Condition in
/-- Without empty conjunctions a condition holds of a form if and only if it scores there. -/
theorem holds_iff_scores {c : Condition} (filled : c.filled = true) (form : FormState) :
    c.holds form = true ↔ (c.score? form).isSome = true := by
  induction c using Condition.induction with
  | always => exact Iff.rfl
  | constant v w => rw [score?, isSome_weighted, holds]
  | isSet p typed w => rw [score?, isSome_weighted, holds]
  | isUnset p typed w => rw [score?, isSome_weighted, holds]
  | equals p v typed w => rw [score?, isSome_weighted, holds]
  | not c ih =>
    have inner := ih filled
    rw [score?, isSome_weighted, holds]
    cases scored : c.score? form with
    | none => simpa [scored] using inner
    | some s => simpa [scored] using inner
  | chain j ms ih =>
    obtain ⟨nonempty, members⟩ := filled_chain filled
    have agree : ∀ m ∈ ms, (m.holds form = true ↔ (m.score? form).isSome = true) :=
      fun m member => ih m member (members m member)
    rw [isSome_score?_chain]
    cases j with
    | all =>
      rw [holds, allHold_eq_all, List.all_eq_true]
      constructor
      · intro every
        obtain ⟨m, member⟩ := List.exists_mem_of_ne_nil ms (nonempty rfl)
        have scored : ∀ m ∈ ms, (m.score? form).isSome = true :=
          fun m member => (agree m member).mp (every m member)
        exact ⟨⟨m, member, scored m member⟩, fun _ => scored⟩
      · intro ⟨_, every⟩ m member
        exact (agree m member).mpr (every rfl m member)
    | any =>
      rw [holds, anyHolds_eq_any, List.any_eq_true, and_iff_left (by rintro ⟨⟩)]
      exact exists_congr fun m => and_congr_right (agree m)

def openElement : Condition :=
  .chain .all [.not (.chain .any [.setTo "locked"]),
    .chain .any [.isSet "image" false 2, .textIs "type" "text"]]

def textElement : FormState :=
  { record := some ⟨"element", [("type", .str "text")]⟩, input := none }

theorem holds_iff_scores_openElement :
    openElement.filled = true ∧ openElement.score? textElement = some 2 ∧
      openElement.holds textElement = true :=
  ⟨rfl, by decide +kernel, (holds_iff_scores rfl textElement).mpr (by decide +kernel)⟩

/-- Of an empty conjunction there is nothing to score. -/
example (form : FormState) : (Condition.chain .all []).holds form = true ∧
    (Condition.chain .all []).score? form = none := ⟨rfl, rfl⟩

end RecordEditing
