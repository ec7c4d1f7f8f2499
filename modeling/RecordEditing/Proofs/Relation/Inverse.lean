import RecordEditing.Proofs.Relation.Template
import RecordEditing.Proofs.Value.Loose
import RecordEditing.Relation.ParentChild

/-!
Derived inverses. A derived inverse searches parents by the links of the template alone: it turns
them round, keeps their operators and leaves out the literals, which constrain the child. So a
record that it finds is a parent only as far as the child satisfies the rest of the template.
-/
namespace RecordEditing
namespace TemplateRule

/-- The inverse of the rule, as far as there is one, implies the rule. A link has to compare by
equality, and a literal to hold of the child. Of alternatives it is enough if one without an inverse
holds; else all that have an inverse are needed, since any of them may be the one a record was found
by. -/
inductive Reversible (child : Record) : TemplateRule → Prop where
  | link {parts children known searched} :
      parts.leaf? = some (.link known searched) →
      Reversible child (.mk (.compare .equals) parts children)
  | literal {op parts children property value} :
      parts.leaf? = some (.literal property value) →
      op.holds (child.get? property) value = true →
      Reversible child (.mk (.compare op) parts children)
  | all {parts children} :
      (∀ t ∈ children, Reversible child t) → Reversible child (.mk .all parts children)
  | anyDropped {parts children t} :
      t ∈ children → inverse? t = none → Reversible child t →
      Reversible child (.mk .any parts children)
  | anyKept {parts children} :
      inverses children ≠ [] → (∀ t ∈ children, inverse? t ≠ none → Reversible child t) →
      Reversible child (.mk .any parts children)

/-- A rule without alternatives whose links compare by equality. -/
inductive Conjunctive : TemplateRule → Prop where
  | link {parts children known searched} :
      parts.leaf? = some (.link known searched) →
      Conjunctive (.mk (.compare .equals) parts children)
  | literal {op parts children property value} :
      parts.leaf? = some (.literal property value) → Conjunctive (.mk (.compare op) parts children)
  | all {parts children} : (∀ t ∈ children, Conjunctive t) → Conjunctive (.mk .all parts children)

theorem allHoldBetween_iff {known searched : Record} {ts : List TemplateRule} :
    allHoldBetween known searched ts = true ↔ ∀ t ∈ ts, holdsBetween known searched t = true := by
  induction ts with
  | nil => simp [allHoldBetween]
  | cons t ts ih => simp [allHoldBetween, ih]

theorem anyHoldsBetween_iff {known searched : Record} {ts : List TemplateRule} :
    anyHoldsBetween known searched ts = true ↔
      ∃ t ∈ ts, holdsBetween known searched t = true := by
  induction ts with
  | nil => simp [anyHoldsBetween]
  | cons t ts ih => simp [anyHoldsBetween, ih]

theorem inverses_eq_filterMap (ts : List TemplateRule) : inverses ts = ts.filterMap inverse? := by
  induction ts with
  | nil => rfl
  | cons t ts ih =>
    unfold inverses
    rw [List.filterMap_cons, ih]
    cases inverse? t <;> rfl

theorem mem_inverses {ts : List TemplateRule} {i : TemplateRule} :
    i ∈ inverses ts ↔ ∃ t ∈ ts, inverse? t = some i := by
  rw [inverses_eq_filterMap, List.mem_filterMap]

theorem holds_link_comm (parent child : Record) (known searched : String) :
    Operator.equals.holds (parent.get? known) ((child.get? searched).getD .null) =
      Operator.equals.holds (child.get? searched) ((parent.get? known).getD .null) := by
  change looseEq (parent.get? known) (some _) = looseEq (child.get? searched) (some _)
  rw [looseEq_comm]
  rfl

theorem inverse?_group {op : TemplateOperation} (group : op = .all ∨ op = .any)
    {parts : LeafParts} {children : List TemplateRule} :
    inverse? (.mk op parts children) =
      if inverses children = [] then none else some (.mk op {} (inverses children)) := by
  rcases group with rfl | rfl
  · simp only [inverse?]
    cases inverses children <;> simp
  · simp only [inverse?]
    cases inverses children <;> simp

variable {parent child : Record}

theorem holdsBetween_of_inverse {t : TemplateRule} (reversible : Reversible child t)
    (accepts : ∀ i, inverse? t = some i → holdsBetween child parent i = true) :
    holdsBetween parent child t = true := by
  induction reversible with
  | @link parts children known searched leaf =>
    have accepted := accepts (.link .equals searched known) (by simp [inverse?, leaf, inverseLeaf?])
    simp only [holdsBetween, leaf, Option.any_some, leafHolds]
    rw [← holds_link_comm]
    exact accepted
  | literal leaf holds =>
    simp only [holdsBetween, leaf, Option.any_some, leafHolds]
    exact holds
  | @all parts children _ ih =>
    simp only [holdsBetween]
    apply allHoldBetween_iff.mpr
    intro t member
    apply ih t member
    intro i inverted
    -- The inverse of a group with a child that has one is the group of all such inverses.
    have kept : i ∈ inverses children := mem_inverses.mpr ⟨t, member, inverted⟩
    have group := accepts (.mk .all {} (inverses children)) (by
      rw [inverse?_group (Or.inl rfl), if_neg (List.ne_nil_of_mem kept)])
    exact allHoldBetween_iff.mp group i kept
  | @anyDropped parts children t member dropped _ ih =>
    simp only [holdsBetween]
    apply anyHoldsBetween_iff.mpr
    refine ⟨t, member, ih ?_⟩
    intro i inverted
    rw [dropped] at inverted
    cases inverted
  | @anyKept parts children kept _ ih =>
    have group := accepts (.mk .any {} (inverses children)) (by
      rw [inverse?_group (Or.inr rfl), if_neg kept])
    obtain ⟨i, listed, accepted⟩ := anyHoldsBetween_iff.mp group
    obtain ⟨t, member, inverted⟩ := mem_inverses.mp listed
    simp only [holdsBetween]
    apply anyHoldsBetween_iff.mpr
    refine ⟨t, member, ih t member (by simp [inverted]) ?_⟩
    intro j same
    obtain rfl : i = j := Option.some.inj (inverted.symm.trans same)
    exact accepted

theorem reversible_of_holdsBetween {t : TemplateRule} (conjunctive : Conjunctive t)
    (holds : holdsBetween parent child t = true) : Reversible child t := by
  induction conjunctive with
  | link leaf => exact .link leaf
  | literal leaf =>
    simp only [holdsBetween, leaf, Option.any_some, leafHolds] at holds
    exact .literal leaf holds
  | all _ ih =>
    simp only [holdsBetween] at holds
    apply Reversible.all
    intro t member
    exact ih t member (allHoldBetween_iff.mp holds t member)

end TemplateRule

theorem ParentChild.matchesFilter_parentFilter {k : ParentChild} (derived : k.inverse = none)
    {parent child : Record} {filter : List FilterRule}
    (built : k.parentFilter child = .ok filter) :
    matchesFilter filter parent =
      TemplateRule.allHoldBetween child parent (TemplateRule.inverses k.filter) := by
  have template : k.inverseTemplate = TemplateRule.inverses k.filter := by
    unfold inverseTemplate
    rw [derived]
    rfl
  unfold parentFilter at built
  rw [template] at built
  split at built
  · cases built
  · exact TemplateRule.matchesFilter_instantiateItems built

end RecordEditing
