import RecordEditing.Value.Truth

/-!
Every value equals itself, typed and loosely. Loose equality takes its sides in either order, and the
order of values turns round with them.
-/
namespace RecordEditing

theorem Number.same_refl (n : Number) : n.same n = true := by
  cases n with
  | int i => exact beq_self_eq_true i
  | float x => exact beq_self_eq_true x.value

namespace Json

mutual

theorem same_refl (a : Json) : same a a = true := by
  cases a with
  | null => rfl
  | bool b => exact beq_self_eq_true b
  | num n => exact Number.same_refl n
  | str s => exact beq_self_eq_true s
  | arr items => exact sameItems_refl items
  | obj ms => exact sameMembers_refl ms

theorem sameItems_refl (xs : List Json) : sameItems xs xs = true := by
  cases xs with
  | nil => rfl
  | cons x xs =>
    rw [sameItems, same_refl x, sameItems_refl xs]
    rfl

theorem sameMembers_refl (ms : List (String × Json)) : sameMembers ms ms = true := by
  cases ms with
  | nil => rfl
  | cons m ms =>
    rw [sameMembers, same_refl m.2, sameMembers_refl ms, beq_self_eq_true]
    rfl

end

theorem looseText_refl (s : String) : looseText s s = true := by
  unfold looseText
  cases numericText? s with
  | none => exact beq_self_eq_true s
  | some x => exact beq_self_eq_true x.value

mutual

theorem loose_refl (a : Json) : loose a a = true := by
  cases a with
  | null => rfl
  | bool b => exact beq_self_eq_true b
  | num n => exact beq_self_eq_true n.toBinary64.value
  | str s => exact looseText_refl s
  | arr items => exact looseItems_refl items
  | obj ms => exact sameMembers_refl ms

theorem looseItems_refl (xs : List Json) : looseItems xs xs = true := by
  cases xs with
  | nil => rfl
  | cons x xs =>
    rw [looseItems, loose_refl x, looseItems_refl xs]
    rfl

end

end Json

theorem Binary64.same_comm (x y : Binary64) : x.same y = y.same x := by
  unfold same
  exact BEq.comm

theorem Number.same_comm (m n : Number) : m.same n = n.same m := by
  cases m <;> cases n
  · exact BEq.comm
  · rfl
  · rfl
  · exact Binary64.same_comm _ _

namespace Json

mutual

theorem same_comm (a b : Json) : same a b = same b a := by
  cases a <;> cases b <;> try rfl
  · exact BEq.comm
  · exact Number.same_comm _ _
  · exact BEq.comm
  · exact sameItems_comm _ _
  · exact sameMembers_comm _ _

theorem sameItems_comm (xs ys : List Json) : sameItems xs ys = sameItems ys xs := by
  cases xs with
  | nil => cases ys <;> rfl
  | cons x xs =>
    cases ys with
    | nil => rfl
    | cons y ys =>
      simp only [sameItems]
      rw [same_comm x y, sameItems_comm xs ys]

theorem sameMembers_comm (ms ns : List (String × Json)) : sameMembers ms ns = sameMembers ns ms := by
  cases ms with
  | nil => cases ns <;> rfl
  | cons m ms =>
    cases ns with
    | nil => rfl
    | cons n ns =>
      obtain ⟨j, x⟩ := m
      obtain ⟨k, y⟩ := n
      have names : (j == k) = (k == j) := BEq.comm
      simp only [sameMembers]
      rw [names, same_comm x y, sameMembers_comm ms ns]

end

theorem looseText_comm (s t : String) : looseText s t = looseText t s := by
  have texts : (s == t) = (t == s) := BEq.comm
  unfold looseText
  cases numericText? s with
  | none => cases numericText? t <;> exact texts
  | some x =>
    cases numericText? t with
    | none => exact texts
    | some y => exact Binary64.same_comm x y

mutual

theorem loose_comm (a b : Json) : loose a b = loose b a := by
  cases a <;> cases b <;> try rfl
  · exact BEq.comm
  · exact Binary64.same_comm _ _
  · exact looseText_comm _ _
  · exact looseItems_comm _ _
  · exact sameMembers_comm _ _

theorem looseItems_comm (xs ys : List Json) : looseItems xs ys = looseItems ys xs := by
  cases xs with
  | nil => cases ys <;> rfl
  | cons x xs =>
    cases ys with
    | nil => rfl
    | cons y ys =>
      simp only [looseItems]
      rw [loose_comm x y, looseItems_comm xs ys]

end

end Json

theorem looseEq_comm (a b : Option Json) : looseEq a b = looseEq b a := Json.loose_comm _ _

theorem Binary64.order_swap (x y : Binary64) : y.order x = (x.order y).swap := by
  unfold order
  exact Std.OrientedCmp.eq_swap

theorem Json.order?_swap (a b : Json) : order? b a = (order? a b).map Ordering.swap := by
  unfold order?
  rcases numeric? a with _ | x <;> rcases numeric? b with _ | y
  case some.some => exact congrArg some (Binary64.order_swap x y)
  -- Where one is no number, both have to be texts.
  all_goals
    cases a <;> cases b <;> try rfl
    exact congrArg some Std.OrientedCmp.eq_swap

theorem order?_swap (a b : Option Json) : order? b a = (order? a b).map Ordering.swap := by
  cases a with
  | none => cases b <;> rfl
  | some x =>
    cases b with
    | none => rfl
    | some y => exact Json.order?_swap x y

end RecordEditing
