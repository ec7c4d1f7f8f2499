import RecordEditing.Proofs.Relation.Inverse

/-!
Whether a derived inverse accepts the parents of a child. Turning a rule round keeps its operator
and drops the alternatives that are literals. Equality reads the same in both directions; an order
does not, and a parent by a dropped alternative alone is lost.
-/
namespace RecordEditing
namespace TemplateRule

/-- What the inverse of the rule says of the parent: a link holds the other way round, and of the
alternatives that have an inverse, if there are any, one does. -/
inductive Returns (parent child : Record) : TemplateRule → Prop where
  | literal {op parts children} :
      parts.leaf?.bind (inverseLeaf? op) = none →
      Returns parent child (.mk (.compare op) parts children)
  | link {op parts children known searched} :
      parts.leaf? = some (.link known searched) →
      op.holds (parent.get? known) ((child.get? searched).getD .null) = true →
      Returns parent child (.mk (.compare op) parts children)
  | all {parts children} :
      (∀ t ∈ children, Returns parent child t) → Returns parent child (.mk .all parts children)
  | anyDropped {parts children} :
      inverses children = [] → Returns parent child (.mk .any parts children)
  | anyKept {parts children t} :
      t ∈ children → inverse? t ≠ none → Returns parent child t →
      Returns parent child (.mk .any parts children)

/-- Links compare by equality, and of alternatives all have an inverse or none has. -/
inductive Invertible : TemplateRule → Prop where
  | leaf {op parts children} :
      (∀ known searched, parts.leaf? = some (.link known searched) → op = .equals) →
      Invertible (.mk (.compare op) parts children)
  | all {parts children} : (∀ t ∈ children, Invertible t) → Invertible (.mk .all parts children)
  | any {parts children} :
      (∀ t ∈ children, Invertible t) →
      (∀ t ∈ children, inverse? t ≠ none) ∨ inverses children = [] →
      Invertible (.mk .any parts children)

def IsOrder : TemplateRule → Prop
  | .mk (.compare op) parts _ =>
    (op = .greater ∨ op = .less) ∧ ∃ known searched, parts.leaf? = some (.link known searched)
  | _ => False

variable {parent child : Record}

theorem inverse?_leaf {op : Operator} {parts : LeafParts} {children : List TemplateRule}
    {known searched : String} (leaf : parts.leaf? = some (.link known searched)) :
    inverse? (.mk (.compare op) parts children) = some (.link op searched known) := by
  simp [inverse?, leaf, inverseLeaf?]

theorem holdsBetween_link (op : Operator) (known searched : String) :
    holdsBetween parent child (.link op known searched) =
      op.holds (child.get? searched) ((parent.get? known).getD .null) := by
  unfold link
  simp only [holdsBetween]
  rfl

theorem inverse_of_returns {t : TemplateRule} (returns : Returns parent child t) :
    ∀ i, inverse? t = some i → holdsBetween child parent i = true := by
  induction returns with
  | literal dropped =>
    intro i inverted
    simp only [inverse?] at inverted
    rw [dropped] at inverted
    cases inverted
  | link leaf holds =>
    intro i inverted
    rw [inverse?_leaf leaf] at inverted
    cases inverted
    rw [holdsBetween_link]
    exact holds
  | @all parts children _ ih =>
    intro i inverted
    rw [inverse?_group (Or.inl rfl)] at inverted
    split at inverted
    · cases inverted
    · cases inverted
      simp only [holdsBetween]
      apply allHoldBetween_iff.mpr
      intro j kept
      obtain ⟨t, member, same⟩ := mem_inverses.mp kept
      exact ih t member j same
  | anyDropped dropped =>
    intro i inverted
    rw [inverse?_group (Or.inr rfl), if_pos dropped] at inverted
    cases inverted
  | @anyKept parts children t member kept _ ih =>
    intro i inverted
    obtain ⟨j, same⟩ := Option.ne_none_iff_exists'.mp kept
    have listed : j ∈ inverses children := mem_inverses.mpr ⟨t, member, same⟩
    rw [inverse?_group (Or.inr rfl), if_neg (List.ne_nil_of_mem listed)] at inverted
    cases inverted
    simp only [holdsBetween]
    exact anyHoldsBetween_iff.mpr ⟨j, listed, ih j same⟩

theorem returns_leaf {op : Operator} {parts : LeafParts} {children : List TemplateRule}
    (link : ∀ known searched, parts.leaf? = some (.link known searched) →
      op.holds (parent.get? known) ((child.get? searched).getD .null) = true) :
    Returns parent child (.mk (.compare op) parts children) := by
  cases leaf : parts.leaf? with
  | none => exact .literal (by rw [leaf]; rfl)
  | some l =>
    cases l with
    | literal property value => exact .literal (by rw [leaf]; rfl)
    | link known searched => exact .link leaf (link known searched leaf)

theorem returns_of_inverse (t : TemplateRule)
    (accepts : ∀ i, inverse? t = some i → holdsBetween child parent i = true) :
    Returns parent child t := by
  induction t using TemplateRule.induction with
  | leaf op parts children =>
    apply returns_leaf
    intro known searched leaf
    rw [← holdsBetween_link]
    exact accepts _ (inverse?_leaf leaf)
  | all parts children ih =>
    apply Returns.all
    intro s member
    apply ih s member
    intro j same
    have listed : j ∈ inverses children := mem_inverses.mpr ⟨s, member, same⟩
    have group := accepts (.mk .all {} (inverses children)) (by
      rw [inverse?_group (Or.inl rfl), if_neg (List.ne_nil_of_mem listed)])
    simp only [holdsBetween] at group
    exact allHoldBetween_iff.mp group j listed
  | any parts children ih =>
    by_cases dropped : inverses children = []
    · exact .anyDropped dropped
    · have group := accepts (.mk .any {} (inverses children)) (by
        rw [inverse?_group (Or.inr rfl), if_neg dropped])
      simp only [holdsBetween] at group
      obtain ⟨j, listed, accepted⟩ := anyHoldsBetween_iff.mp group
      obtain ⟨s, member, same⟩ := mem_inverses.mp listed
      refine .anyKept member (by simp [same]) (ih s member ?_)
      intro i other
      obtain rfl : j = i := Option.some.inj (same.symm.trans other)
      exact accepted

theorem returns_of_invertible {t : TemplateRule} (invertible : Invertible t)
    (holds : holdsBetween parent child t = true) : Returns parent child t := by
  induction invertible with
  | @leaf op parts children equality =>
    apply returns_leaf
    intro known searched leaf
    obtain rfl := equality known searched leaf
    simp only [holdsBetween, leaf, Option.any_some, leafHolds] at holds
    exact (holds_link_comm parent child known searched).trans holds
  | all _ ih =>
    simp only [holdsBetween] at holds
    apply Returns.all
    intro t member
    exact ih t member (allHoldBetween_iff.mp holds t member)
  | any _ kept ih =>
    simp only [holdsBetween] at holds
    obtain ⟨t, member, here⟩ := anyHoldsBetween_iff.mp holds
    rcases kept with every | dropped
    · exact .anyKept member (every t member) (ih t member here)
    · exact .anyDropped dropped

theorem not_holds_of_order {op : Operator} (order : op = .greater ∨ op = .less)
    {a b : Option Json} (holds : op.holds a (b.getD .null) = true) :
    op.holds b (a.getD .null) = false := by
  cases a with
  | none => rcases order with rfl | rfl <;> cases holds
  | some x =>
    cases b with
    | none => rcases order with rfl | rfl <;> rfl
    | some y =>
      simp only [Option.getD_some] at holds ⊢
      rcases order with rfl | rfl
      · simp only [Operator.holds, beq_iff_eq] at holds
        simp only [Operator.holds, order?_swap (some x), holds]
        rfl
      · simp only [Operator.holds, beq_iff_eq] at holds
        simp only [Operator.holds, order?_swap (some x), holds]
        rfl

theorem not_returns_of_order {t : TemplateRule} (order : t.IsOrder)
    (holds : holdsBetween parent child t = true) : ¬ Returns parent child t := by
  intro returns
  obtain ⟨operation, parts, children⟩ := t
  cases operation with
  | compare op =>
    obtain ⟨strict, known, searched, leaf⟩ := order
    simp only [holdsBetween, leaf, Option.any_some, leafHolds] at holds
    have accepted := inverse_of_returns returns _ (inverse?_leaf leaf)
    rw [holdsBetween_link, not_holds_of_order strict holds] at accepted
    cases accepted
  | all => exact order
  | any => exact order

end TemplateRule

open TemplateRule (Returns Invertible)

/-- The inverse that is derived from a condition accepts a parent if it accepts it rule by rule. It
accepts every parent of the child if the rules lose nothing when they are turned round, and none if
one of them is an order. -/
theorem true_parent_accepted_iff {k : ParentChild} (derived : k.inverse = none)
    {parent child : Record} (related : k.relates parent child = true) {filter : List FilterRule}
    (built : k.parentFilter child = .ok filter) :
    (matchesFilter filter parent = true ↔ ∀ t ∈ k.filter, Returns parent child t) ∧
      ((∀ t ∈ k.filter, Invertible t) → matchesFilter filter parent = true) ∧
      ((∃ t ∈ k.filter, t.IsOrder) → matchesFilter filter parent = false) := by
  have accepted : matchesFilter filter parent = true ↔
      ∀ t ∈ k.filter, Returns parent child t := by
    rw [k.matchesFilter_parentFilter derived built, TemplateRule.allHoldBetween_iff]
    constructor
    · intro accepts t member
      apply TemplateRule.returns_of_inverse
      intro i inverted
      exact accepts i (TemplateRule.mem_inverses.mpr ⟨t, member, inverted⟩)
    · intro returns i listed
      obtain ⟨t, member, inverted⟩ := TemplateRule.mem_inverses.mp listed
      exact TemplateRule.inverse_of_returns (returns t member) i inverted
  have holds := TemplateRule.allHoldBetween_iff.mp (Bool.and_eq_true_iff.mp related).2
  refine ⟨accepted, ?_, ?_⟩
  · intro invertible
    apply accepted.mpr
    intro t member
    exact TemplateRule.returns_of_invertible (invertible t member) (holds t member)
  · intro ⟨t, member, order⟩
    apply Bool.eq_false_iff.mpr
    intro accepts
    exact TemplateRule.not_returns_of_order order (holds t member) (accepted.mp accepts t member)

def pageAfter : ParentChild where
  source := "chapter"
  destination := "page"
  filter := [.link .greater "start" "number"]

def noteOf : ParentChild where
  source := "chapter"
  destination := "note"
  filter := [.mk .any {} [.link .equals Record.idProperty "pid",
    .mk (.compare .equals) { property := some "shared", value := some (.bool true) } []]]

def chapter : Record :=
  ((Record.empty "chapter").set Record.idProperty (.int 1)).set "start" (.int 3)

def numbered (number : Int) : Record := (Record.empty "page").set "number" (.int number)

def note (up : Int) (shared : Bool) : Record :=
  ((Record.empty "note").set "pid" (.int up)).set "shared" (.bool shared)

theorem true_parent_accepted_note :
    noteOf.inverse = none ∧ noteOf.relates chapter (note 1 true) = true ∧
      ∃ filter, noteOf.parentFilter (note 1 true) = .ok filter ∧
        (matchesFilter filter chapter = true ↔
          ∀ t ∈ noteOf.filter, Returns chapter (note 1 true) t) ∧
        ((∀ t ∈ noteOf.filter, Invertible t) → matchesFilter filter chapter = true) ∧
        ((∃ t ∈ noteOf.filter, t.IsOrder) → matchesFilter filter chapter = false) := by
  have related : noteOf.relates chapter (note 1 true) = true := by decide +kernel
  exact ⟨rfl, related, _, rfl, true_parent_accepted_iff rfl related rfl⟩

/-- An order turned round rejects the chapter of a page, and without the alternative that is a
literal nothing speaks for the chapter of a shared note. -/
theorem true_parent_rejected :
    (pageAfter.inverse = none ∧ pageAfter.relates chapter (numbered 7) = true ∧
      pageAfter.parentFilter (numbered 7) = .ok [.greater "start" (.int 7)] ∧
      matchesFilter [.greater "start" (.int 7)] chapter = false) ∧
    noteOf.inverse = none ∧ noteOf.relates chapter (note 9 true) = true ∧
      noteOf.parentFilter (note 9 true) = .ok [.any [.equals Record.idProperty (.int 9)]] ∧
      matchesFilter [.any [.equals Record.idProperty (.int 9)]] chapter = false := by
  refine ⟨⟨rfl, ?_, rfl, ?_⟩, rfl, ?_, rfl, ?_⟩ <;> decide +kernel

end RecordEditing
