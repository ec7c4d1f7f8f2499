import RecordEditing.Proofs.Relation.TrueParent

/-!
Templates by their leaves. A template of equalities whose leaves all have what they compare with
holds, the filter that it becomes can be built, and so can its inverse, which accepts the parent.
-/
namespace RecordEditing

open TemplateRule (searchedOf leafHolds)

namespace Leaf

def expected (known : Record) : Leaf → Json
  | .link property _ => (known.get? property).getD .null
  | .literal _ value => value

/-- The searched record has what the leaf compares with, to the letter. -/
def Filled (known searched : Record) (leaf : Leaf) : Prop :=
  searched.get? (searchedOf leaf) = some (leaf.expected known)

def IsLiteral : Leaf → Prop
  | .link _ _ => False
  | .literal _ _ => True

theorem holds_of_filled {known searched : Record} {leaf : Leaf}
    (filled : leaf.Filled known searched) : leafHolds known searched .equals leaf = true := by
  have read : leafHolds known searched .equals leaf =
      looseEq (searched.get? (searchedOf leaf)) (some (leaf.expected known)) := by
    cases leaf <;> rfl
  rw [read, filled]
  exact Json.loose_refl (leaf.expected known)

end Leaf

namespace TemplateRule

mutual

def leaves : TemplateRule → List Leaf
  | .mk (.compare _) parts _ => parts.leaf?.toList
  | .mk _ _ children => leavesOf children

def leavesOf : List TemplateRule → List Leaf
  | [] => []
  | t :: ts => leaves t ++ leavesOf ts

end

/-- Leaves are well formed and compare by equality, and groups are not empty. -/
inductive Fillable : TemplateRule → Prop where
  | leaf {parts children l} :
      parts.leaf? = some l → Fillable (.mk (.compare .equals) parts children)
  | all {parts children} :
      children ≠ [] → (∀ t ∈ children, Fillable t) → Fillable (.mk .all parts children)
  | any {parts children} :
      children ≠ [] → (∀ t ∈ children, Fillable t) → Fillable (.mk .any parts children)

variable {known searched parent child : Record} {t : TemplateRule} {ts : List TemplateRule}

theorem mem_leavesOf {l : Leaf} : l ∈ leavesOf ts ↔ ∃ t ∈ ts, l ∈ leaves t := by
  induction ts with
  | nil => simp [leavesOf]
  | cons t ts ih => simp [leavesOf, ih]

theorem forall_mem_leavesOf {P : Leaf → Prop} :
    (∀ l ∈ leavesOf ts, P l) ↔ ∀ t ∈ ts, ∀ l ∈ leaves t, P l := by
  constructor
  · intro every t member l inside
    exact every l (mem_leavesOf.mpr ⟨t, member, inside⟩)
  · intro every l inside
    obtain ⟨t, member, here⟩ := mem_leavesOf.mp inside
    exact every t member l here

mutual

theorem reads_eq_map (t : TemplateRule) : reads t = (leaves t).map searchedOf := by
  cases t with
  | mk op parts children =>
    cases op with
    | compare op =>
      simp only [reads, leaves]
      cases parts.leaf? <;> rfl
    | all => exact readsOf_eq_map children
    | any => exact readsOf_eq_map children

theorem readsOf_eq_map (ts : List TemplateRule) : readsOf ts = (leavesOf ts).map searchedOf := by
  cases ts with
  | nil => rfl
  | cons t ts => rw [readsOf, leavesOf, List.map_append, reads_eq_map t, readsOf_eq_map ts]

end

theorem leavesOf_ne_nil (nonempty : ts ≠ []) (each : ∀ t ∈ ts, leaves t ≠ []) :
    leavesOf ts ≠ [] := by
  obtain ⟨t, member⟩ := List.exists_mem_of_ne_nil ts nonempty
  obtain ⟨l, inside⟩ := List.exists_mem_of_ne_nil (leaves t) (each t member)
  exact List.ne_nil_of_mem (mem_leavesOf.mpr ⟨t, member, inside⟩)

theorem leaves_ne_nil (fillable : Fillable t) : leaves t ≠ [] := by
  induction fillable with
  | leaf found => simp [leaves, found]
  | all nonempty _ ih => exact leavesOf_ne_nil nonempty ih
  | any nonempty _ ih => exact leavesOf_ne_nil nonempty ih

theorem holdsBetween_of_filled (fillable : Fillable t)
    (filled : ∀ l ∈ leaves t, l.Filled known searched) : holdsBetween known searched t = true := by
  induction fillable with
  | @leaf parts children l found =>
    have here := filled l (by simp [leaves, found])
    simp only [holdsBetween, found, Option.any_some]
    exact l.holds_of_filled here
  | @all parts children _ _ ih =>
    simp only [holdsBetween]
    apply allHoldBetween_iff.mpr
    intro t member
    exact ih t member (forall_mem_leavesOf.mp filled t member)
  | @any parts children nonempty _ ih =>
    obtain ⟨t, member⟩ := List.exists_mem_of_ne_nil _ nonempty
    simp only [holdsBetween]
    apply anyHoldsBetween_iff.mpr
    exact ⟨t, member, ih t member (forall_mem_leavesOf.mp filled t member)⟩

theorem returns_of_filled (fillable : Fillable t)
    (filled : ∀ l ∈ leaves t, l.Filled parent child) : Returns parent child t := by
  induction fillable with
  | @leaf parts children l found =>
    have here := l.holds_of_filled (filled l (by simp [leaves, found]))
    apply returns_leaf
    intro property other leaf
    obtain rfl := Option.some.inj (found.symm.trans leaf)
    exact (holds_link_comm parent child property other).trans here
  | @all parts children _ _ ih =>
    apply Returns.all
    intro t member
    exact ih t member (forall_mem_leavesOf.mp filled t member)
  | @any parts children _ _ ih =>
    by_cases dropped : inverses children = []
    · exact .anyDropped dropped
    · obtain ⟨i, listed⟩ := List.exists_mem_of_ne_nil _ dropped
      obtain ⟨t, member, inverted⟩ := mem_inverses.mp listed
      have returns := ih t member (forall_mem_leavesOf.mp filled t member)
      exact .anyKept member (by simp [inverted]) returns

/-- The leaves can be told for what is known: all of them for a record, else the literals. -/
def Known (known : Option Record) (l : Leaf) : Prop :=
  ∃ rule, instantiateLeaf known .equals l = .ok rule

theorem instantiateItems_ok {known : Option Record}
    (each : ∀ t ∈ ts, ∃ rule, instantiate known t = .ok rule) :
    ∃ rules, instantiateItems known ts = .ok rules := by
  induction ts with
  | nil => exact ⟨[], rfl⟩
  | cons t ts ih =>
    obtain ⟨⟨rule, first⟩, later⟩ := List.forall_mem_cons.mp each
    obtain ⟨rules, rest⟩ := ih later
    exact ⟨rule :: rules, by simp only [instantiateItems, first, rest]⟩

theorem instantiate_group {known : Option Record} {parts : LeafParts} {rules : List FilterRule}
    (nonempty : ts ≠ []) (built : instantiateItems known ts = .ok rules) :
    instantiate known (.mk .all parts ts) = .ok (.all rules) ∧
      instantiate known (.mk .any parts ts) = .ok (.any rules) := by
  have present : ts.isEmpty = false := by simpa using nonempty
  simp only [instantiate, present, built]
  exact ⟨rfl, rfl⟩

theorem instantiate_ok {known : Option Record} (fillable : Fillable t)
    (told : ∀ l ∈ leaves t, Known known l) : ∃ rule, instantiate known t = .ok rule := by
  induction fillable with
  | @leaf parts children l found =>
    obtain ⟨rule, built⟩ := told l (by simp [leaves, found])
    exact ⟨rule, by simp only [instantiate, found, built]⟩
  | @all parts children nonempty _ ih =>
    obtain ⟨rules, built⟩ := instantiateItems_ok fun t member =>
      ih t member (forall_mem_leavesOf.mp told t member)
    exact ⟨.all rules, (instantiate_group nonempty built).1⟩
  | @any parts children nonempty _ ih =>
    obtain ⟨rules, built⟩ := instantiateItems_ok fun t member =>
      ih t member (forall_mem_leavesOf.mp told t member)
    exact ⟨.any rules, (instantiate_group nonempty built).2⟩

theorem known_some (known : Record) (l : Leaf) : Known (some known) l := by
  cases l with
  | link property _ => exact ⟨_, rfl⟩
  | literal _ value => exact ⟨_, rfl⟩

theorem known_none {l : Leaf} (literal : l.IsLiteral) : Known none l := by
  cases l with
  | link property _ => exact literal.elim
  | literal _ value => exact ⟨_, rfl⟩

theorem fillable_inverse (fillable : Fillable t) : ∀ i, inverse? t = some i → Fillable i := by
  -- The inverse of a group is no empty group: a group without anything to turn round has none.
  have group : ∀ {op parts children}, op = .all ∨ op = .any →
      (∀ t ∈ children, ∀ i, inverse? t = some i → Fillable i) →
      ∀ i, inverse? (.mk op parts children) = some i → Fillable i := by
    intro op parts children kind each i inverted
    rw [inverse?_group kind] at inverted
    split at inverted
    · cases inverted
    · next kept =>
      cases inverted
      have every : ∀ j ∈ inverses children, Fillable j := by
        intro j listed
        obtain ⟨t, member, same⟩ := mem_inverses.mp listed
        exact each t member j same
      rcases kind with rfl | rfl
      · exact .all kept every
      · exact .any kept every
  induction fillable with
  | @leaf parts children l found =>
    intro i inverted
    cases l with
    | literal property value => simp [inverse?, found, inverseLeaf?] at inverted
    | link property other =>
      rw [inverse?_leaf found] at inverted
      cases inverted
      exact .leaf rfl
  | all _ _ ih => exact group (Or.inl rfl) ih
  | any _ _ ih => exact group (Or.inr rfl) ih

theorem inverse?_of_link {known searched : String} (t : TemplateRule)
    (linked : .link known searched ∈ leaves t) : inverse? t ≠ none := by
  have group : ∀ {op parts children}, op = .all ∨ op = .any →
      (∀ t ∈ children, .link known searched ∈ leaves t → inverse? t ≠ none) →
      .link known searched ∈ leavesOf children → inverse? (.mk op parts children) ≠ none := by
    intro op parts children kind each linked
    obtain ⟨t, member, inside⟩ := mem_leavesOf.mp linked
    obtain ⟨i, inverted⟩ := Option.ne_none_iff_exists'.mp (each t member inside)
    rw [inverse?_group kind, if_neg (List.ne_nil_of_mem (mem_inverses.mpr ⟨t, member, inverted⟩))]
    exact nofun
  induction t using TemplateRule.induction with
  | leaf op parts children =>
    rw [inverse?_leaf (Option.mem_toList.mp linked)]
    exact nofun
  | all parts children ih => exact group (Or.inl rfl) ih linked
  | any parts children ih => exact group (Or.inr rfl) ih linked

theorem inverses_ne_nil (linked : ∃ known searched, .link known searched ∈ leavesOf ts) :
    inverses ts ≠ [] := by
  obtain ⟨known, searched, inside⟩ := linked
  obtain ⟨t, member, here⟩ := mem_leavesOf.mp inside
  obtain ⟨i, inverted⟩ := Option.ne_none_iff_exists'.mp (inverse?_of_link t here)
  exact List.ne_nil_of_mem (mem_inverses.mpr ⟨t, member, inverted⟩)

mutual

/-- A rule that can be built without a known record is the same for every known record. -/
theorem instantiate_some_of_none (r : Record) (t : TemplateRule) {rule : FilterRule}
    (built : instantiate none t = .ok rule) : instantiate (some r) t = .ok rule := by
  cases t with
  | mk operation parts children =>
    cases operation with
    | compare op =>
      simp only [instantiate] at built ⊢
      cases leaf : parts.leaf? with
      | none => simp [leaf] at built
      | some l =>
        simp only [leaf] at built ⊢
        cases l with
        | link known searched => cases built
        | literal property value => exact built
    | all =>
      simp only [instantiate] at built
      split at built
      · cases built
      · next present =>
        obtain ⟨rules, items, rfl⟩ := map_eq_ok built
        have same := instantiateItems_some_of_none r children items
        exact (instantiate_group (by simpa using present) same).1
    | any =>
      simp only [instantiate] at built
      split at built
      · cases built
      · next present =>
        obtain ⟨rules, items, rfl⟩ := map_eq_ok built
        have same := instantiateItems_some_of_none r children items
        exact (instantiate_group (by simpa using present) same).2

theorem instantiateItems_some_of_none (r : Record) (ts : List TemplateRule)
    {rules : List FilterRule} (built : instantiateItems none ts = .ok rules) :
    instantiateItems (some r) ts = .ok rules := by
  cases ts with
  | nil => exact built
  | cons t ts =>
    obtain ⟨rule, rest, first, later, rfl⟩ := instantiateItems_cons built
    simp only [instantiateItems, instantiate_some_of_none r t first,
      instantiateItems_some_of_none r ts later]

end

theorem filter_of_holds (fillable : ∀ t ∈ ts, Fillable t)
    (holds : ∀ t ∈ ts, holdsBetween known searched t = true) :
    ∃ filter, instantiateItems (some known) ts = .ok filter ∧ matchesFilter filter searched = true := by
  obtain ⟨filter, built⟩ := instantiateItems_ok fun t member =>
    instantiate_ok (fillable t member) fun l _ => known_some known l
  refine ⟨filter, built, ?_⟩
  rw [matchesFilter_instantiateItems built]
  exact allHoldBetween_iff.mpr holds

end TemplateRule
end RecordEditing
