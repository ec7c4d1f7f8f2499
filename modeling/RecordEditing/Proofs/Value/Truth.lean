import RecordEditing.Proofs.Palette.Score
import RecordEditing.Proofs.Value.Loose
import RecordEditing.Proofs.Value.Same

/-!
Loose equality and truth. A value is loosely equal to a truth value if it is set alike, and values
that are equal as typed values are loosely equal. So a condition that asks for a property to be set,
or to be unset, says the same as one that asks for the value true or false.
-/
namespace RecordEditing
namespace Json

theorem loose_bool (a : Json) (truth : Bool) : a.loose (.bool truth) = (a.isTruthy == truth) := by
  cases a with
  | null => cases truth <;> rfl
  | bool b => rfl
  | _ => exact BEq.comm

theorem loose_of_same {a b : Json} (equal : same a b = true) : loose a b = true := by
  rw [← loose_congr equal a]
  exact loose_refl a

end Json

theorem isTruthy_eq (a : Option Json) : isTruthy a = (a.getD .null).isTruthy := by
  cases a <;> rfl

theorem looseEq_bool (a : Option Json) (truth : Bool) :
    looseEq a (some (.bool truth)) = (isTruthy a == truth) := by
  rw [isTruthy_eq]
  exact Json.loose_bool _ truth

theorem strictEq_bool (a : Option Json) (truth : Bool) :
    strictEq a (some (.bool truth)) = (a == some (.bool truth)) := by
  cases a <;> rfl

namespace Condition

theorem truthHolds_eq_valueHolds (truth typed : Bool) (v : Option Json) :
    truthHolds truth typed v = valueHolds (.bool truth) typed v := by
  unfold truthHolds valueHolds
  rw [strictEq_bool, looseEq_bool]

mutual

/-- A condition with its tests for truth values written as comparisons. -/
def compared : Condition → Condition
  | .isSet p typed w => .equals p (.bool true) typed w
  | .isUnset p typed w => .equals p (.bool false) typed w
  | .not c => .not (compared c)
  | .chain j ms => .chain j (comparedAll ms)
  | c => c

def comparedAll : List Condition → List Condition
  | [] => []
  | c :: cs => compared c :: comparedAll cs

end

theorem comparedAll_eq_map (cs : List Condition) : comparedAll cs = cs.map compared := by
  induction cs with
  | nil => rfl
  | cons c cs ih => rw [comparedAll, ih, List.map_cons]

/-- Conditions that hold of the same forms and score the same on them. -/
def Equivalent (c d : Condition) : Prop :=
  ∀ form : FormState, c.holds form = d.holds form ∧ c.score? form = d.score? form

namespace Equivalent

theorem tests (p : String) (typed : Bool) (w : UInt32) :
    Equivalent (.isSet p typed w) (.equals p (.bool true) typed w) ∧
      Equivalent (.isUnset p typed w) (.equals p (.bool false) typed w) := by
  have same (truth : Bool) (form : FormState) :=
    truthHolds_eq_valueHolds truth typed (form.value? p)
  constructor
  · exact fun form => ⟨same true form, congrArg (weighted · w) (same true form)⟩
  · exact fun form => ⟨same false form, congrArg (weighted · w) (same false form)⟩

theorem not {c d : Condition} (equivalent : Equivalent c d) : Equivalent (.not c) (.not d) := by
  intro form
  obtain ⟨holds, scores⟩ := equivalent form
  simp only [Condition.holds, Condition.score?, holds, scores, and_self]

theorem chain (j : Conjunction) {f : Condition → Condition} {ms : List Condition}
    (members : ∀ m ∈ ms, Equivalent m (f m)) : Equivalent (.chain j ms) (.chain j (ms.map f)) := by
  intro form
  have holds : ms.map (Condition.holds form) = (ms.map f).map (Condition.holds form) := by
    rw [List.map_map]
    exact List.map_congr_left fun m member => (members m member form).1
  have scores : ms.map (Condition.score? form) = (ms.map f).map (Condition.score? form) := by
    rw [List.map_map]
    exact List.map_congr_left fun m member => (members m member form).2
  -- Both kinds of chains look at their members only through these two lists.
  constructor
  · have all := congrArg (List.all · id) holds
    have any := congrArg (List.any · id) holds
    simp only [List.all_map, List.any_map, Function.id_comp] at all any
    cases j with
    | all => simpa only [Condition.holds, allHold_eq_all, List.all_map] using all
    | any => simpa only [Condition.holds, anyHolds_eq_any, List.any_map] using any
  · rw [Condition.score?, Condition.score?, scores_eq_map, scores_eq_map, scores]

end Equivalent

theorem equivalent_compared (c : Condition) : Equivalent c c.compared := by
  induction c using Condition.induction with
  | isSet p typed w => exact (Equivalent.tests p typed w).1
  | isUnset p typed w => exact (Equivalent.tests p typed w).2
  | not c ih => exact ih.not
  | chain j ms ih =>
    rw [compared, comparedAll_eq_map]
    exact Equivalent.chain j ih
  | _ => exact fun form => ⟨rfl, rfl⟩

end Condition

open Condition in
/-- Loose equality takes its sides in either order, holds where typed equality does, and against a
truth value it tells whether the other side is set alike. So of every form a property is set where it
equals true and unset where it equals false, also deep inside of a condition. -/
theorem loose_equality_tells_truth (a b : Option Json) :
    looseEq a b = looseEq b a ∧
    (strictEq a b = true → looseEq a b = true) ∧
    (looseEq a (some (.bool true)) = true ↔ isTruthy a = true) ∧
    (looseEq a (some (.bool false)) = true ↔ ¬ isTruthy a = true) ∧
    (∀ (p : String) (w : UInt32),
      Equivalent (.isSet p false w) (.equals p (.bool true) false w) ∧
      Equivalent (.isUnset p false w) (.equals p (.bool false) false w)) ∧
    ∀ c : Condition, Equivalent c c.compared := by
  refine ⟨looseEq_comm a b, Json.loose_of_same, ?_, ?_, ?_, equivalent_compared⟩
  · rw [looseEq_bool, beq_iff_eq]
  · rw [looseEq_bool, beq_iff_eq, Bool.not_eq_true]
  · exact fun p w => Equivalent.tests p false w

def innerZero (negative : Bool) : Json := .arr [.null, .arr [.num (.float ⟨negative, 0⟩)]]

theorem loose_equality_tells_truth_zero :
    strictEq (some (innerZero false)) (some (innerZero true)) = true ∧
      looseEq (some (innerZero false)) (some (innerZero true)) = true ∧
      looseEq (some (innerZero false)) (some (.bool true)) = true := by
  have strict : strictEq (some (innerZero false)) (some (innerZero true)) = true := by
    decide +kernel
  obtain ⟨_, loose, set, _⟩ :=
    loose_equality_tells_truth (some (innerZero false)) (some (innerZero true))
  exact ⟨strict, loose strict, set.mpr (by decide +kernel)⟩

end RecordEditing
