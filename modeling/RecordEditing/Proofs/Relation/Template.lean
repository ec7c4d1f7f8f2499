import RecordEditing.Proofs.Record.Address
import RecordEditing.Relation.Instance

/-!
The filter that a template becomes for a known record selects the records that the template relates
to it.
-/
namespace RecordEditing

theorem FilterRule.holds_compare (op : Operator) (property : String) (value : Json) (r : Record) :
    (compare op property value).holds r = op.holds (r.get? property) value := by
  cases op <;> simp only [compare, holds, Operator.holds]

namespace TemplateRule

@[elab_as_elim]
theorem induction {motive : TemplateRule → Prop}
    (leaf : ∀ op parts children, motive (.mk (.compare op) parts children))
    (all : ∀ parts children, (∀ t ∈ children, motive t) → motive (.mk .all parts children))
    (any : ∀ parts children, (∀ t ∈ children, motive t) → motive (.mk .any parts children)) :
    ∀ t, motive t
  | .mk (.compare op) parts children => leaf op parts children
  | .mk .all parts children => all parts children fun t _ => induction leaf all any t
  | .mk .any parts children => any parts children fun t _ => induction leaf all any t

theorem holds_instantiateLeaf {known searched : Record} {op : Operator} {leaf : Leaf}
    {rule : FilterRule} (built : instantiateLeaf (some known) op leaf = .ok rule) :
    rule.holds searched = leafHolds known searched op leaf := by
  cases leaf with
  | link k s =>
    cases built
    exact FilterRule.holds_compare op s _ searched
  | literal p v =>
    cases built
    exact FilterRule.holds_compare op p v searched

theorem instantiateItems_cons {known : Option Record} {t : TemplateRule} {ts : List TemplateRule}
    {rules : List FilterRule} (built : instantiateItems known (t :: ts) = .ok rules) :
    ∃ rule rest, instantiate known t = .ok rule ∧ instantiateItems known ts = .ok rest ∧
      rules = rule :: rest := by
  simp only [instantiateItems] at built
  cases first : instantiate known t with
  | error e => simp [first] at built
  | ok rule =>
    cases later : instantiateItems known ts with
    | error e => simp [first, later] at built
    | ok rest =>
      simp only [first, later, Except.ok.injEq] at built
      exact ⟨rule, rest, rfl, rfl, built.symm⟩

mutual

theorem holds_instantiate {known searched : Record} (t : TemplateRule) {rule : FilterRule}
    (built : instantiate (some known) t = .ok rule) :
    rule.holds searched = holdsBetween known searched t := by
  cases t with
  | mk operation parts children =>
    cases operation with
    | compare op =>
      simp only [instantiate, holdsBetween] at built ⊢
      cases leaf : parts.leaf? with
      | none => simp [leaf] at built
      | some l =>
        simp only [leaf] at built
        exact holds_instantiateLeaf built
    | all =>
      simp only [instantiate] at built
      split at built
      · cases built
      · obtain ⟨rules, items, rfl⟩ := map_eq_ok built
        exact (hold_instantiateItems children items).1
    | any =>
      simp only [instantiate] at built
      split at built
      · cases built
      · obtain ⟨rules, items, rfl⟩ := map_eq_ok built
        exact (hold_instantiateItems children items).2

theorem hold_instantiateItems {known searched : Record} (ts : List TemplateRule)
    {rules : List FilterRule} (built : instantiateItems (some known) ts = .ok rules) :
    FilterRule.allHold searched rules = allHoldBetween known searched ts ∧
      FilterRule.anyHolds searched rules = anyHoldsBetween known searched ts := by
  cases ts with
  | nil =>
    cases built
    exact ⟨rfl, rfl⟩
  | cons t ts =>
    obtain ⟨rule, rest, first, later, rfl⟩ := instantiateItems_cons built
    have here : rule.holds searched = holdsBetween known searched t := holds_instantiate t first
    have there : FilterRule.allHold searched rest = allHoldBetween known searched ts ∧
        FilterRule.anyHolds searched rest = anyHoldsBetween known searched ts :=
      hold_instantiateItems ts later
    simp only [FilterRule.allHold, FilterRule.anyHolds, allHoldBetween, anyHoldsBetween]
    rw [here, there.1, there.2]
    exact ⟨rfl, rfl⟩

end

theorem matchesFilter_instantiateItems {known searched : Record} {ts : List TemplateRule}
    {filter : List FilterRule} (built : instantiateItems (some known) ts = .ok filter) :
    matchesFilter filter searched = allHoldBetween known searched ts := by
  rw [← (hold_instantiateItems ts built).1, FilterRule.allHold_eq_all]
  rfl

end TemplateRule
end RecordEditing
