import RecordEditing.Proofs.Relation.TrueParent
import RecordEditing.Proofs.Value.Rounding

/-!
Links by integers. A child is linked to a parent by the id that it holds, and ids of more than 53
bits are rounded before they are compared: a link may lead to a neighbour of the record it names.
-/
namespace RecordEditing

open Binary64 TemplateRule

variable {parent child : Record} {known searched : String} {i j : Int}

theorem TemplateRule.link_int_iff (id : parent.get? known = some (.int i))
    (up : child.get? searched = some (.int j)) :
    holdsBetween parent child (.link .equals known searched) = true ↔ rounded i = rounded j := by
  rw [holdsBetween_link, id, up]
  exact (Json.loose_int_iff j i).trans eq_comm

/-- Whether two integers are loosely equal, and which is the greater, is found out exactly if and
only if rounding keeps them apart, and so is whether a child is linked to a parent. Typed equality is
always exact. All integers are kept apart from those of at most 53 bits, and no order is reversed. -/
theorem integers_compared_exactly_iff (id : parent.get? known = some (.int i))
    (up : child.get? searched = some (.int j)) :
    (((Json.int i).loose (.int j) = true ↔ i = j) ↔ Separated i j) ∧
      ((Json.int i).order? (.int j) = some (compare i j) ↔ Separated i j) ∧
      ((holdsBetween parent child (.link .equals known searched) = true ↔ i = j) ↔
        Separated i j) ∧
      (strictEq (some (.int i)) (some (.int j)) = true ↔ i = j) ∧
      (i.natAbs < 2 ^ 53 ∨ j.natAbs < 2 ^ 53 → Separated i j) ∧
      (i ≤ j → (Json.int i).order? (.int j) ≠ some .gt) := by
  have exact_iff : ((rounded i = rounded j) ↔ i = j) ↔ Separated i j :=
    ⟨fun agree => agree.mp, fun separated => ⟨separated, congrArg rounded⟩⟩
  rw [Json.loose_int_iff, Json.order?_int, link_int_iff id up, Option.some.injEq]
  refine ⟨exact_iff, compare_rounded_iff i j, exact_iff, Json.strictEq_int i j, ?_, ?_⟩
  · rintro (small | small)
    · exact separated_of_small small
    · exact (separated_of_small small).symm
  · intro le reversed
    have greater := compare_gt_iff_gt.mp (Option.some.inj reversed)
    exact Int.not_lt.mpr (rounded_mono le) greater

def withId (id : Int) : Record := (Record.empty "page").set Record.idProperty (.int id)

def linkedTo (up : Int) : Record := (Record.empty "page").set "pid" (.int up)

theorem integers_compared_exactly_iff_page :
    (withId 9007199254740995).get? Record.idProperty = some (.int 9007199254740995) ∧
      (linkedTo 9007199254740993).get? "pid" = some (.int 9007199254740993) ∧
      holdsBetween (withId 9007199254740995) (linkedTo 9007199254740993)
        (.link .equals Record.idProperty "pid") = false := by
  have id : (withId 9007199254740995).get? Record.idProperty = some (.int 9007199254740995) := rfl
  have up : (linkedTo 9007199254740993).get? "pid" = some (.int 9007199254740993) := rfl
  have apart : Separated 9007199254740995 9007199254740993 := by decide +kernel
  have linked := (integers_compared_exactly_iff id up).2.2.1.mpr apart
  refine ⟨id, up, ?_⟩
  rw [← Bool.not_eq_true, linked]
  decide

/-- The first neighbours that are taken for each other: a link by the second leads to the first. -/
theorem neighbours_compared_equal :
    (9007199254740992 : Int) ≠ 9007199254740993 ∧
      (Json.int 9007199254740992).loose (.int 9007199254740993) = true ∧
      (Json.int 9007199254740992).order? (.int 9007199254740993) = some .eq ∧
      holdsBetween (withId 9007199254740992) (linkedTo 9007199254740993)
        (.link .equals Record.idProperty "pid") = true := by
  refine ⟨?_, ?_, ?_, ?_⟩ <;> decide +kernel

end RecordEditing
