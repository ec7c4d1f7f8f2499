import Mathlib.Logic.ExistsUnique
import RecordEditing.Filter.Operator
import RecordEditing.Proofs.Value.Order

/-!
Order against equality. Two values are put in order and compared for loose equality by different
functions, which both choose between numbers and texts. They choose alike: of two values that have
an order one is equal to the other, greater or less, and never two of these.
-/
namespace RecordEditing
namespace Json

theorem looseNumber_of_numeric {s : String} {x : Binary64} (numeric : numericText? s = some x)
    (n : Number) : looseNumber n s = n.toBinary64.same x := by
  rw [looseNumber, numeric]

theorem loose_of_numbers {v w : Json} {x y : Binary64} (first : numeric? v = some x)
    (second : numeric? w = some y) : v.loose w = x.same y := by
  cases v with
  | num m =>
    obtain rfl : m.toBinary64 = x := Option.some.inj first
    cases w with
    | num n =>
      obtain rfl : n.toBinary64 = y := Option.some.inj second
      rfl
    | str t => exact looseNumber_of_numeric second m
    | _ => cases second
  | str s =>
    cases w with
    | num n =>
      obtain rfl : n.toBinary64 = y := Option.some.inj second
      rw [Binary64.same_comm]
      exact looseNumber_of_numeric first n
    | str t =>
      have texts : numericText? s = some x ∧ numericText? t = some y := ⟨first, second⟩
      rw [loose, looseText, texts.1, texts.2]
    | _ => cases second
  | _ => cases first

theorem loose_of_texts {s t : String} (plain : numericText? s = none ∨ numericText? t = none) :
    loose (.str s) (.str t) = (s == t) := by
  rw [loose, looseText]
  rcases plain with plain | plain
  · rw [plain]
  · rw [plain]
    cases numericText? s <;> rfl

theorem same_iff_order_eq (x y : Binary64) : x.same y = true ↔ x.order y = .eq := by
  unfold Binary64.same Binary64.order
  rw [beq_iff_eq, Std.LawfulEqOrd.compare_eq_iff_eq]

theorem loose_iff_of_ordered {v w : Json} {place : Ordering} (ordered : order? v w = some place) :
    v.loose w = true ↔ place = .eq := by
  obtain ⟨x, y, first, second, rfl⟩ | ⟨s, t, rfl, rfl, plain, rfl⟩ := order?_cases ordered
  · rw [loose_of_numbers first second, same_iff_order_eq]
  · rw [loose_of_texts plain, beq_iff_eq, Std.LawfulEqOrd.compare_eq_iff_eq]

end Json

namespace Operator

/-- What one value is to another one, by its place before, at or behind that one. -/
def ofPlace : Ordering → Operator
  | .lt => .less
  | .eq => .equals
  | .gt => .greater

def comparisons : List Operator := [.equals, .greater, .less]

theorem holds_iff_of_ordered {v w : Json} {place : Ordering} (ordered : v.order? w = some place)
    {op : Operator} (compares : op ∈ comparisons) :
    op.holds (some v) w = true ↔ op = ofPlace place := by
  have greater : Operator.greater.holds (some v) w = true ↔ place = .gt := by
    rw [holds, order?, ordered, beq_iff_eq, Option.some.injEq]
  have less : Operator.less.holds (some v) w = true ↔ place = .lt := by
    rw [holds, order?, ordered, beq_iff_eq, Option.some.injEq]
  have equals : Operator.equals.holds (some v) w = true ↔ place = .eq :=
    Json.loose_iff_of_ordered ordered
  simp only [comparisons, List.mem_cons, List.not_mem_nil, or_false] at compares
  rcases compares with rfl | rfl | rfl
  · rw [equals]
    cases place <;> decide
  · rw [greater]
    cases place <;> decide
  · rw [less]
    cases place <;> decide

theorem greater_holds_comm (v w : Json) :
    Operator.greater.holds (some w) v = Operator.less.holds (some v) w := by
  rw [holds, holds, order?_swap (some v) (some w)]
  rcases order? (some v) (some w) with _ | place
  · rfl
  · cases place <;> rfl

end Operator

open Operator in
/-- Two values have an order from either side, turned round, or from none. Where they have one, they
are loosely equal if and only if neither comes first, and exactly one of `=`, `>` and `<` holds.
With the sides exchanged `>` and `<` change places. -/
theorem order_agrees_with_equality (v w : Json) :
    order? (some w) (some v) = (order? (some v) (some w)).map Ordering.swap ∧
    (∀ place, order? (some v) (some w) = some place →
      (place = .eq ↔ looseEq (some v) (some w) = true) ∧
      ∃! op, op ∈ comparisons ∧ op.holds (some v) w = true) ∧
    greater.holds (some w) v = less.holds (some v) w ∧
    less.holds (some w) v = greater.holds (some v) w := by
  refine ⟨order?_swap _ _, ?_, greater_holds_comm v w, (greater_holds_comm w v).symm⟩
  intro place ordered
  refine ⟨(Json.loose_iff_of_ordered ordered).symm, ofPlace place, ?_, ?_⟩
  · have compares : ofPlace place ∈ comparisons := by cases place <;> decide
    exact ⟨compares, (holds_iff_of_ordered ordered compares).mpr rfl⟩
  · rintro op ⟨compares, holds⟩
    exact (holds_iff_of_ordered ordered compares).mp holds

open Operator in
theorem order_agrees_with_equality_numeral :
    order? (some (.str "10")) (some (.int 9)) = some .gt ∧
      looseEq (some (.str "10")) (some (.int 9)) = false ∧
      (∃! op, op ∈ comparisons ∧ op.holds (some (.str "10")) (.int 9) = true) ∧
      less.holds (some (.int 9)) (.str "10") = true := by
  have ordered : order? (some (.str "10")) (some (.int 9)) = some .gt := by decide +kernel
  obtain ⟨_, agree, _, exchanged⟩ := order_agrees_with_equality (.str "10") (.int 9)
  obtain ⟨equal, one⟩ := agree .gt ordered
  have apart : ¬ looseEq (some (.str "10")) (some (.int 9)) = true :=
    fun same => absurd (equal.mpr same) (by decide)
  exact ⟨ordered, Bool.eq_false_iff.mpr apart, one, exchanged.trans (by decide +kernel)⟩

/-- Values without an order may be equal all the same. -/
example : order? (some (.bool true)) (some (.str "yes")) = none ∧
    Operator.equals.holds (some (.bool true)) (.str "yes") = true := by decide +kernel

end RecordEditing
