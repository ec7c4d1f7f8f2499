import RecordEditing.Proofs.Relation.Leaves
import RecordEditing.Proofs.Relation.Valid
import RecordEditing.Proofs.Tree.Nodes

/-!
What is wrong with a template. A malformed leaf or an empty group, at any depth, keeps its filter
from being built, whatever record is known. The filter of a root condition is built once when the
container is compiled. The filters of conditions between parents and children are not: a container
is accepted with whatever is wrong with them, and the first thing wrong is reported when children
are looked for.
-/
namespace RecordEditing

def errorOf? {ε α : Type} : Except ε α → Option ε
  | .ok _ => none
  | .error e => some e

theorem errorOf?_eq_some {ε α : Type} {step : Except ε α} {e : ε} :
    errorOf? step = some e ↔ step = .error e := by
  cases step <;> simp [errorOf?]

theorem errorOf?_eq_none {ε α : Type} {step : Except ε α} :
    errorOf? step = none ↔ ∃ value, step = .ok value := by
  cases step <;> simp [errorOf?]

theorem errorOf?_map {ε α β : Type} (step : Except ε α) (f : α → β) :
    errorOf? (step.map f) = errorOf? step := by
  cases step <;> rfl

namespace TemplateRule

mutual

/-- The malformed leaves and the empty groups of a rule, in reading order. -/
def faults : TemplateRule → List RelationFault
  | .mk (.compare op) parts children =>
    if parts.leaf?.isSome then [] else [.malformedRule (.mk (.compare op) parts children)]
  | .mk _ _ children => if children.isEmpty then [.emptyGroup] else faultsOf children

def faultsOf : List TemplateRule → List RelationFault
  | [] => []
  | t :: ts => faults t ++ faultsOf ts

end

variable {ts : List TemplateRule}

mutual

theorem errorOf?_instantiate (r : Record) (t : TemplateRule) :
    errorOf? (instantiate (some r) t) = (faults t).head?.map .configuration := by
  cases t with
  | mk operation parts children =>
    cases operation with
    | compare op =>
      simp only [instantiate, faults]
      cases parts.leaf? with
      | none => rfl
      | some l => cases l <;> rfl
    | all =>
      simp only [instantiate, faults]
      split
      · rfl
      · rw [errorOf?_map]
        exact errorOf?_instantiateItems r children
    | any =>
      simp only [instantiate, faults]
      split
      · rfl
      · rw [errorOf?_map]
        exact errorOf?_instantiateItems r children

theorem errorOf?_instantiateItems (r : Record) (ts : List TemplateRule) :
    errorOf? (instantiateItems (some r) ts) = (faultsOf ts).head?.map .configuration := by
  cases ts with
  | nil => rfl
  | cons t ts =>
    have first := errorOf?_instantiate r t
    have later := errorOf?_instantiateItems r ts
    simp only [instantiateItems, faultsOf, List.head?_append, Option.map_or]
    rw [← first, ← later]
    cases instantiate (some r) t with
    | error e => rfl
    | ok rule => cases instantiateItems (some r) ts <;> rfl

end

theorem instantiateItems_ok_iff (r : Record) :
    (∃ filter, instantiateItems (some r) ts = .ok filter) ↔ faultsOf ts = [] := by
  rw [← errorOf?_eq_none, errorOf?_instantiateItems, Option.map_eq_none_iff, List.head?_eq_none_iff]

theorem instantiateItems_error_iff (r : Record) {e : RelationError} :
    instantiateItems (some r) ts = .error e ↔
      ∃ fault, (faultsOf ts).head? = some fault ∧ e = .configuration fault := by
  rw [← errorOf?_eq_some, errorOf?_instantiateItems, Option.map_eq_some_iff]
  exact exists_congr fun fault => and_congr_right fun _ => eq_comm

theorem faultsOf_of_none {filter : List FilterRule} (built : instantiateItems none ts = .ok filter) :
    faultsOf ts = [] := by
  have any := instantiateItems_some_of_none (Record.empty "") ts built
  exact (instantiateItems_ok_iff _).mp ⟨filter, any⟩

end TemplateRule

theorem RootCondition.rootFilter_of_validate {root : RootCondition}
    (valid : root.validate = .ok ()) : ∃ filter, root.rootFilter = .ok filter := by
  obtain ⟨_, _, rest⟩ := bind_eq_ok valid
  simp only at rest
  split at rest
  · cases rest
  · obtain ⟨_, _, built⟩ := bind_eq_ok rest
    obtain ⟨filter, ok, _⟩ := map_eq_ok built
    exact ⟨filter, ok⟩

theorem ParentChild.filter_ne_nil_of_validate {k : ParentChild} (valid : k.validate = .ok ()) :
    k.filter ≠ [] := by
  obtain ⟨_, _, rest⟩ := bind_eq_ok valid
  obtain ⟨_, _, checked⟩ := bind_eq_ok rest
  intro empty
  rw [empty] at checked
  cases checked

theorem ParentChild.validate_with_filter {k : ParentChild} (valid : k.validate = .ok ())
    {filter : List TemplateRule} (nonempty : filter ≠ []) :
    { k with filter }.validate = .ok () := by
  obtain ⟨_, present, rest⟩ := bind_eq_ok valid
  obtain ⟨_, sound, _⟩ := bind_eq_ok rest
  have given : filter.isEmpty = false := by simpa using nonempty
  change (k.requireSetters >>= fun _ => (k.setters.forM fun s => s.assignment.map fun _ => ()) >>=
    fun _ => if filter.isEmpty then .error (.configuration (.noFilter k.relation)) else .ok ()) = _
  rw [present, sound, given]
  rfl

open TemplateRule (faultsOf)

/-- In a container that was compiled the filter for the roots can always be built, and the filter for
the children of a parent, whatever the parent, if and only if nothing is wrong with its rules; else
the first fault is reported. That the container was compiled says nothing about these rules: the
condition would have been accepted with any others. -/
theorem child_filter_built_iff {config : ContainerConfig} {c : Container}
    (compiled : config.compile = .ok c) :
    (∀ root, c.relations.root = some root →
      faultsOf root.filter = [] ∧ ∃ filter, root.rootFilter = .ok filter) ∧
    ∀ k ∈ c.relations.children,
      (∀ parent, (∃ filter, k.childFilter parent = .ok filter) ↔ faultsOf k.filter = []) ∧
      (∀ parent e, k.childFilter parent = .error e ↔
        ∃ fault, (faultsOf k.filter).head? = some fault ∧ e = .configuration fault) ∧
      k.filter ≠ [] ∧ ∀ filter, filter ≠ [] → { k with filter }.validate = .ok () := by
  have valid := ContainerConfig.relations_of_compile compiled
  constructor
  · intro root given
    obtain ⟨filter, built⟩ :=
      RootCondition.rootFilter_of_validate (Relations.root_of_validate valid root given)
    exact ⟨TemplateRule.faultsOf_of_none built, filter, built⟩
  · intro k member
    have accepted := Relations.children_of_validate valid k member
    refine ⟨TemplateRule.instantiateItems_ok_iff, ?_,
      ParentChild.filter_ne_nil_of_validate accepted, ?_⟩
    · intro parent e
      exact TemplateRule.instantiateItems_error_iff parent
    · intro filter nonempty
      exact ParentChild.validate_with_filter accepted nonempty

def unfinishedRule : TemplateRule :=
  .mk .any {} [.link .equals Record.idProperty "pid", .mk .all {} []]

def unfinishedBelow : ParentChild where
  source := "page"
  destination := "page"
  filter := [unfinishedRule]
  setters := [{ target := some "pid", source := some Record.idProperty }]

def unfinishedConfig : ContainerConfig where
  name := "page"
  basic := { mode := .hierarchical, dataProvider := "page", rootProvider := some "page" }
  relations := { root := (Relations.tree "page" "pid").root, children := [unfinishedBelow] }

theorem compile_unfinishedConfig : unfinishedConfig.compile = .ok unfinishedConfig.unchecked :=
  ContainerConfig.compile_of_validate rfl rfl

theorem child_filter_built_iff_unfinished :
    unfinishedConfig.compile = .ok unfinishedConfig.unchecked ∧
      (∃ root, unfinishedConfig.unchecked.relations.root = some root ∧
        ∃ filter, root.rootFilter = .ok filter) ∧
      unfinishedBelow ∈ unfinishedConfig.unchecked.relations.children ∧
      unfinishedBelow.childFilter (page 1 0) = .error (.configuration .emptyGroup) := by
  obtain ⟨rooted, built⟩ := child_filter_built_iff compile_unfinishedConfig
  have listed : unfinishedBelow ∈ unfinishedConfig.unchecked.relations.children :=
    List.mem_singleton.mpr rfl
  refine ⟨compile_unfinishedConfig, ⟨_, rfl, (rooted _ rfl).2⟩, listed, ?_⟩
  exact ((built unfinishedBelow listed).2.1 (page 1 0) _).mpr ⟨.emptyGroup, rfl, rfl⟩

/-- The children of a page cannot be looked for, although the container was accepted. -/
theorem unfinished_filter_accepted :
    ¬ ∀ (config : ContainerConfig) (c : Container) (k : ParentChild) (parent : Record),
      config.compile = .ok c → k ∈ c.relations.children →
      ∃ filter, k.childFilter parent = .ok filter := by
  intro always
  obtain ⟨filter, built⟩ := always _ _ unfinishedBelow (page 1 0) compile_unfinishedConfig
    (List.mem_singleton.mpr rfl)
  cases built

end RecordEditing
