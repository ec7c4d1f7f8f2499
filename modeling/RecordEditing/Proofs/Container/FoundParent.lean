import RecordEditing.Proofs.Relation.Inverse
import RecordEditing.Proofs.Relation.Valid
import RecordEditing.Proofs.Tree.Nodes

/-!
What a parent that was found has in common with the record it was found for. The search takes the
first record of the source provider that the inverse of a condition accepts; that the record is a
parent follows only if the inverse says as much as the condition does.
-/
namespace RecordEditing

open TemplateRule (Reversible Conjunctive)

namespace ParentChild

variable {k : ParentChild} {parent child : Record}

theorem accepts_of_parentFilter (derived : k.inverse = none) {filter : List FilterRule}
    (built : k.parentFilter child = .ok filter) (accepts : matchesFilter filter parent = true) :
    TemplateRule.allHoldBetween child parent (TemplateRule.inverses k.filter) = true := by
  rw [← matchesFilter_parentFilter derived built]
  exact accepts

theorem relates_iff (source : k.source = parent.provider)
    (destination : k.destination = child.provider) :
    k.relates parent child = true ↔
      ∀ t ∈ k.filter, TemplateRule.holdsBetween parent child t = true := by
  unfold relates
  rw [source, destination]
  simp only [beq_self_eq_true, Bool.true_and]
  exact TemplateRule.allHoldBetween_iff

theorem relates_of_inverse (source : k.source = parent.provider)
    (destination : k.destination = child.provider)
    (accepts : TemplateRule.allHoldBetween child parent (TemplateRule.inverses k.filter) = true)
    (reversible : ∀ t ∈ k.filter, Reversible child t) : k.relates parent child = true := by
  apply (relates_iff source destination).mpr
  intro t member
  apply TemplateRule.holdsBetween_of_inverse (reversible t member)
  intro i inverted
  have kept := TemplateRule.mem_inverses.mpr ⟨t, member, inverted⟩
  exact TemplateRule.allHoldBetween_iff.mp accepts i kept

end ParentChild

namespace Container

variable {c : Container} {store : Store} {parent child : Record}

theorem parentUnder_eq_some {condition : ParentChild}
    (h : parentUnder store condition child = .ok (some parent)) :
    condition.source = parent.provider ∧ ∃ filter,
      condition.parentFilter child = .ok filter ∧ matchesFilter filter parent = true := by
  obtain ⟨filter, built, rest⟩ := bind_eq_ok h
  obtain ⟨t, known, rest⟩ := bind_eq_ok rest
  have first : (t.fetch { filter, limit := some 1 }).head? = some parent := Except.ok.inj rest
  obtain ⟨stored, accepts⟩ := Table.mem_of_mem_fetch (List.mem_of_head? first)
  have name := (Store.table_eq_ok (tableOf_eq_ok known)).2
  exact ⟨(name.symm.trans (t.own parent stored).symm), filter, built, accepts⟩

theorem firstParent_eq_some {conditions : List ParentChild}
    (h : firstParent store child conditions = .ok (some parent)) :
    ∃ condition ∈ conditions, parentUnder store condition child = .ok (some parent) := by
  induction conditions with
  | nil => cases h
  | cons condition rest ih =>
    unfold firstParent at h
    split at h
    · cases h
    · next p found =>
      cases h
      exact ⟨condition, by simp, found⟩
    · obtain ⟨later, member, found⟩ := ih h
      exact ⟨later, List.mem_cons_of_mem condition member, found⟩

theorem parentOf_eq_some (h : c.parentOf store child = .ok (some parent)) :
    ∃ k ∈ c.relations.children, k.destination = child.provider ∧
      parentUnder store k child = .ok (some parent) := by
  unfold parentOf at h
  split at h
  · cases h
  · split at h
    · cases h
    · obtain ⟨k, known, found⟩ := bind_eq_ok h
      obtain ⟨listed, _, destination⟩ := Relations.mem_of_requireBetween known
      exact ⟨k, listed, destination, found⟩
  · unfold parentInTree at h
    split at h
    · cases h
    · obtain ⟨k, ending, found⟩ := firstParent_eq_some h
      obtain ⟨listed, destination⟩ := List.mem_filter.mp ending
      exact ⟨k, listed, by simpa using destination, found⟩

end Container

/-- The inverse of a condition between the two providers accepts a parent that is found. It is a
parent under that condition if the condition is reversible for the child; without alternatives and
with links by equality, only then. -/
theorem found_parent_relates {c : Container}
    (derived : ∀ k ∈ c.relations.children, k.inverse = none) {store : Store} {child parent : Record}
    (found : c.parentOf store child = .ok (some parent)) :
    ∃ k ∈ c.relations.children, k.source = parent.provider ∧ k.destination = child.provider ∧
      TemplateRule.allHoldBetween child parent (TemplateRule.inverses k.filter) = true ∧
      ((∀ t ∈ k.filter, Reversible child t) → k.relates parent child = true) ∧
      ((∀ t ∈ k.filter, Conjunctive t) → k.relates parent child = true →
        ∀ t ∈ k.filter, Reversible child t) := by
  obtain ⟨k, listed, destination, under⟩ := Container.parentOf_eq_some found
  obtain ⟨source, filter, built, accepted⟩ := Container.parentUnder_eq_some under
  have accepts := ParentChild.accepts_of_parentFilter (derived k listed) built accepted
  refine ⟨k, listed, source, destination, accepts, ?_, ?_⟩
  · intro reversible
    exact ParentChild.relates_of_inverse source destination accepts reversible
  · intro conjunctive related t member
    have holds := (ParentChild.relates_iff source destination).mp related t member
    exact TemplateRule.reversible_of_holdsBetween (conjunctive t member) holds

/-- Content belongs to the article or the news item whose id it has; which of the two is told by a
literal. -/
def contentBelow (source : String) : ParentChild where
  source
  destination := "content"
  filter := [.link .equals Record.idProperty "pid",
    .mk (.compare .equals) { property := some "ptable", value := some (.str source) } []]
  setters := [{ target := some "pid", source := some Record.idProperty },
    { target := some "ptable", value := some (.str source) }]

def contentConfig : ContainerConfig where
  name := "content"
  basic := { mode := .hierarchical, dataProvider := "content" }
  relations := {
    root := (Relations.tree "article" "pid").root
    children := [contentBelow "article", contentBelow "news"] }

def contentStore : Store := ⟨[.nodes "article" "pid" [(1, 0)], .nodes "news" "pid" [(1, 0)]]⟩

def content (table : String) : Record :=
  (Record.node "content" "pid" 10 1).set "ptable" (.str table)

theorem mem_contentConfig {k : ParentChild}
    (member : k ∈ contentConfig.unchecked.relations.children) :
    k = contentBelow "article" ∨ k = contentBelow "news" := by
  simpa [ContainerConfig.unchecked, contentConfig] using member

theorem contentConfig_derived :
    ∀ k ∈ contentConfig.unchecked.relations.children, k.inverse = none := by
  intro k member
  rcases mem_contentConfig member with rfl | rfl <;> rfl

theorem found_parent_relates_content :
    (∀ k ∈ contentConfig.unchecked.relations.children, k.inverse = none) ∧ ∃ parent,
      contentConfig.unchecked.parentOf contentStore (content "article") = .ok (some parent) ∧
      ∃ k ∈ contentConfig.unchecked.relations.children, k.source = parent.provider ∧
        k.destination = (content "article").provider ∧
        TemplateRule.allHoldBetween (content "article") parent
          (TemplateRule.inverses k.filter) = true ∧
        ((∀ t ∈ k.filter, Reversible (content "article") t) →
          k.relates parent (content "article") = true) ∧
        ((∀ t ∈ k.filter, Conjunctive t) → k.relates parent (content "article") = true →
          ∀ t ∈ k.filter, Reversible (content "article") t) := by
  have run : (contentConfig.unchecked.parentOf contentStore
      (content "article")).toOption.map Option.isSome = some true := by decide +kernel
  obtain ⟨answer, found, isSome⟩ := eq_ok_of_toOption run
  cases answer with
  | none => cases isSome
  | some parent =>
    exact ⟨contentConfig_derived, parent, found, found_parent_relates contentConfig_derived found⟩

/-- The parent of the content of a news item is looked for among the articles first. -/
theorem found_parent_of_other_provider :
    ¬ ∀ (config : ContainerConfig) (c : Container) (store : Store) (child parent : Record),
      config.compile = .ok c → c.basic.mode ≠ .flat →
      (∀ k ∈ c.relations.children, k.inverse = none) →
      c.parentOf store child = .ok (some parent) →
      ∃ k ∈ c.relations.children, k.source = parent.provider ∧ k.destination = child.provider ∧
        k.relates parent child = true := by
  intro always
  have compiled : contentConfig.compile = .ok contentConfig.unchecked :=
    ContainerConfig.compile_of_validate rfl (by rfl)
  have run : (contentConfig.unchecked.parentOf contentStore (content "news")).toOption.map
      (Option.map fun p => (p.provider, (contentBelow "article").relates p (content "news"))) =
        some (some ("article", false)) := by decide +kernel
  obtain ⟨answer, found, seen⟩ := eq_ok_of_toOption run
  cases answer with
  | none => cases seen
  | some parent =>
    obtain ⟨provider, unrelated⟩ := Prod.mk.inj (Option.some.inj seen)
    obtain ⟨k, member, source, _, related⟩ :=
      always _ _ _ _ _ compiled (by decide) contentConfig_derived found
    rcases mem_contentConfig member with rfl | rfl
    · rw [unrelated] at related
      cases related
    · rw [provider] at source
      exact absurd source (by decide)

end RecordEditing
