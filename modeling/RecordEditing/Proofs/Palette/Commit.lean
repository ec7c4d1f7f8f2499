import RecordEditing.Palette.Basic
import RecordEditing.Proofs.Palette.Score

/-!
Committing the input of a form. Conditions read a form by the values that count, and these are the
same when the input has been written to the record.
-/
namespace RecordEditing
namespace Record

/-- The record with the values of the input written to it; of a name that stands in the input twice,
the first value is read there and so the last to be written here. -/
def commit (r : Record) (input : PendingInput) : Record :=
  input.values.foldr (fun entry written => written.set entry.1 entry.2) r

theorem get?_commit (r : Record) (input : PendingInput) (name : String) :
    (r.commit input).get? name = (input.get? name).or (r.get? name) := by
  unfold commit PendingInput.get?
  induction input.values with
  | nil => rfl
  | cons entry entries ih =>
    obtain ⟨key, value⟩ := entry
    rw [List.foldr_cons, Entries.find?]
    by_cases same : key = name
    · rw [if_pos same, same]
      exact get?_set_self _ name value
    · rw [if_neg same, get?_set_of_ne _ same, ih]

end Record

namespace FormState

def Agree (form other : FormState) : Prop := ∀ name, form.value? name = other.value? name

theorem value?_eq_or (form : FormState) (name : String) :
    form.value? name = (form.input.bind (·.get? name)).or (form.record.bind (·.get? name)) := by
  unfold value?
  cases form.input.bind (·.get? name) <;> rfl

theorem agree_commit (record : Option Record) (input : PendingInput) (provider : String) :
    Agree ⟨record, some input⟩ ⟨some ((record.getD (.empty provider)).commit input), none⟩ := by
  intro name
  rw [value?_eq_or, value?_eq_or]
  change (input.get? name).or _ = ((record.getD (.empty provider)).commit input).get? name
  rw [Record.get?_commit]
  cases record <;> rfl

end FormState

variable {form other : FormState}

namespace Condition

theorem score?_of_agree (agree : form.Agree other) (c : Condition) :
    c.score? form = c.score? other := by
  induction c using Condition.induction with
  | always => rfl
  | constant v w => rfl
  | isSet p typed w => rw [score?, score?, agree p]
  | isUnset p typed w => rw [score?, score?, agree p]
  | equals p v typed w => rw [score?, score?, agree p]
  | not c ih => rw [score?, score?, ih]
  | chain j ms ih =>
    rw [score?, score?, scores_eq_map, scores_eq_map, List.map_congr_left ih]

theorem holds_of_agree (agree : form.Agree other) (c : Condition) :
    c.holds form = c.holds other := by
  induction c using Condition.induction with
  | always => rfl
  | constant v w => rfl
  | isSet p typed w => rw [holds, holds, agree p]
  | isUnset p typed w => rw [holds, holds, agree p]
  | equals p v typed w => rw [holds, holds, agree p]
  | not c ih => rw [holds, holds, ih]
  | chain j ms ih =>
    have members : ms.map (holds form) = ms.map (holds other) := List.map_congr_left ih
    cases j with
    | all =>
      rw [holds, holds, allHold_eq_all, allHold_eq_all]
      simpa only [List.all_map, Function.id_comp] using congrArg (List.all · id) members
    | any =>
      rw [holds, holds, anyHolds_eq_any, anyHolds_eq_any]
      simpa only [List.any_map, Function.id_comp] using congrArg (List.any · id) members

end Condition

theorem Legend.visibleFields_of_agree (agree : form.Agree other) (l : Legend) :
    l.visibleFields form = l.visibleFields other := by
  have shown : ∀ f : Field, f.isVisible form = f.isVisible other := by
    intro f
    cases visible : f.visible with
    | none => simp only [Field.isVisible, Field.holdsOr, visible, Option.all_none]
    | some c =>
      simp only [Field.isVisible, Field.holdsOr, visible, Option.all_some,
        Condition.holds_of_agree agree c]
  exact List.filter_congr fun f _ => shown f

theorem Palette.visibleFields_of_agree (agree : form.Agree other) (p : Palette) :
    p.visibleFields form = p.visibleFields other :=
  congrArg p.legends.flatMap (funext (Legend.visibleFields_of_agree agree))

theorem PaletteCollection.choose_of_agree (agree : form.Agree other) (c : PaletteCollection) :
    c.choose form = c.choose other := by
  have offered : Winners.offer form = Winners.offer other := by
    funext w p
    have scored : p.score? form = p.score? other := Condition.score?_of_agree agree p.condition
    simp only [Winners.offer, scored]
  unfold choose winners
  rw [offered]

/-- To commit the input of a form, to its record or to one without properties, changes no score and
no truth value, and so neither the palette that is chosen nor the fields that are visible. -/
theorem commit_changes_nothing (record : Option Record) (input : PendingInput)
    (provider : String) :
    let pending : FormState := ⟨record, some input⟩
    let committed : FormState := ⟨some ((record.getD (.empty provider)).commit input), none⟩
    (∀ c : Condition, c.score? pending = c.score? committed ∧
      c.holds pending = c.holds committed) ∧
    (∀ c : PaletteCollection, c.choose pending = c.choose committed) ∧
    (∀ p : Palette, p.visibleFields pending = p.visibleFields committed) ∧
    ∀ l : Legend, l.visibleFields pending = l.visibleFields committed := by
  have agree := FormState.agree_commit record input provider
  exact ⟨fun c => ⟨c.score?_of_agree agree, c.holds_of_agree agree⟩,
    PaletteCollection.choose_of_agree agree, Palette.visibleFields_of_agree agree,
    Legend.visibleFields_of_agree agree⟩

end RecordEditing
