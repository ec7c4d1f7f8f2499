import RecordEditing.Proofs.Relation.Template
import RecordEditing.Proofs.Tree.Nodes

/-!
What bulk queries return. A query is answered if its filter can be built and its provider is known.
It then returns, in storage order, the records that satisfy the relation one by one.
-/
namespace RecordEditing

def Store.recordsOf (s : Store) (provider : String) : List Record :=
  match s.table? provider with
  | some t => t.records
  | none => []

def Store.knows (s : Store) (provider : String) : Bool := (s.table? provider).isSome

/-- Nothing stands in the way of looking for the children of the parent. -/
def ParentChild.Answerable (k : ParentChild) (store : Store) (parent : Record) : Prop :=
  (∃ filter, k.childFilter parent = .ok filter) ∧ store.knows k.destination = true

def RootCondition.Answerable (root : RootCondition) (store : Store) : Prop :=
  (∃ filter, root.rootFilter = .ok filter) ∧ store.knows root.provider = true

theorem Store.provider_of_mem_recordsOf {s : Store} {provider : String} {r : Record}
    (member : r ∈ s.recordsOf provider) : r.provider = provider := by
  unfold recordsOf at member
  split at member
  · next t found =>
    have name : t.provider = provider := by simpa using List.find?_some found
    exact (t.own r member).trans name
  · cases member

theorem ParentChild.relates_eq_matchesFilter {k : ParentChild} {parent child : Record}
    {filter : List FilterRule} (built : k.childFilter parent = .ok filter)
    (source : parent.provider = k.source) (destination : child.provider = k.destination) :
    k.relates parent child = matchesFilter filter child := by
  unfold relates
  rw [source, destination, TemplateRule.matchesFilter_instantiateItems built]
  simp only [beq_self_eq_true, Bool.true_and]

theorem RootCondition.holds_eq_matchesFilter {root : RootCondition} {r : Record}
    {filter : List FilterRule} (built : root.rootFilter = .ok filter)
    (provider : r.provider = root.provider) : root.holds r = matchesFilter filter r := by
  unfold holds
  rw [provider, built]
  simp only [beq_self_eq_true, Bool.true_and]

namespace Container

variable {store : Store} {parent : Record} {found : List Record}

theorem fetchAll_eq_ok_iff {provider : String} {filter : List FilterRule} :
    fetchAll store provider filter = .ok found ↔
      store.knows provider = true ∧
        found = (store.recordsOf provider).filter (matchesFilter filter) := by
  unfold fetchAll tableOf Store.table Store.knows Store.recordsOf
  cases store.table? provider with
  | none =>
    constructor
    · intro failed
      cases failed
    · intro ⟨unknown, _⟩
      cases unknown
  | some t =>
    change Except.ok (t.records.filter (matchesFilter filter)) = Except.ok found ↔ _
    constructor
    · intro same
      exact ⟨rfl, (Except.ok.inj same).symm⟩
    · intro ⟨_, same⟩
      rw [same]

theorem childrenUnder_eq_ok_iff {k : ParentChild} (source : parent.provider = k.source) :
    childrenUnder store parent k = .ok found ↔
      k.Answerable store parent ∧
        found = (store.recordsOf k.destination).filter (k.relates parent) := by
  have selected : ∀ filter, k.childFilter parent = .ok filter →
      (store.recordsOf k.destination).filter (matchesFilter filter) =
        (store.recordsOf k.destination).filter (k.relates parent) := by
    intro filter built
    apply List.filter_congr
    intro child member
    have destination := Store.provider_of_mem_recordsOf member
    exact (ParentChild.relates_eq_matchesFilter built source destination).symm
  constructor
  · intro answered
    obtain ⟨filter, built, fetched⟩ := bind_eq_ok answered
    obtain ⟨known, same⟩ := fetchAll_eq_ok_iff.mp fetched
    exact ⟨⟨⟨filter, built⟩, known⟩, same.trans (selected filter built)⟩
  · intro ⟨⟨⟨filter, built⟩, known⟩, same⟩
    unfold childrenUnder
    rw [built]
    exact fetchAll_eq_ok_iff.mpr ⟨known, same.trans (selected filter built).symm⟩

theorem childrenUnderAll_eq_ok_iff {conditions : List ParentChild}
    (sources : ∀ k ∈ conditions, parent.provider = k.source) :
    childrenUnderAll store parent conditions = .ok found ↔
      (∀ k ∈ conditions, k.Answerable store parent) ∧
        found = conditions.flatMap fun k =>
          (store.recordsOf k.destination).filter (k.relates parent) := by
  induction conditions generalizing found with
  | nil =>
    simp only [childrenUnderAll, List.not_mem_nil, false_implies, implies_true, true_and,
      List.flatMap_nil, Except.ok.injEq]
    exact eq_comm
  | cons k rest ih =>
    have here : ∀ xs, childrenUnder store parent k = .ok xs ↔ k.Answerable store parent ∧
        xs = (store.recordsOf k.destination).filter (k.relates parent) :=
      fun _ => childrenUnder_eq_ok_iff (sources k List.mem_cons_self)
    have later := fun xs : List Record =>
      @ih xs fun l member => sources l (List.mem_cons_of_mem k member)
    rw [List.forall_mem_cons, List.flatMap_cons]
    unfold childrenUnderAll
    constructor
    · intro answered
      cases first : childrenUnder store parent k with
      | error e =>
        rw [first] at answered
        cases answered
      | ok xs =>
        cases others : childrenUnderAll store parent rest with
        | error e =>
          rw [first, others] at answered
          cases answered
        | ok ys =>
          rw [first, others] at answered
          obtain ⟨answerable, rfl⟩ := (here xs).mp first
          obtain ⟨answerables, rfl⟩ := (later ys).mp others
          exact ⟨⟨answerable, answerables⟩, (Except.ok.inj answered).symm⟩
    · rintro ⟨⟨answerable, answerables⟩, same⟩
      rw [(here _).mpr ⟨answerable, rfl⟩, (later _).mpr ⟨answerables, rfl⟩, same]

theorem childConditions_eq {c : Container} {provider : Option String} :
    c.childConditions parent provider = c.relations.children.filter fun k =>
      k.source == parent.provider && provider.all (· == k.destination) := by
  unfold childConditions Relations.startingAt
  rw [List.filter_filter]
  apply List.filter_congr
  intro k _
  exact Bool.and_comm _ _

theorem childrenOf_eq_ok_iff {c : Container} {provider : Option String} :
    c.childrenOf store parent provider = .ok found ↔
      (∀ k ∈ c.childConditions parent provider, k.Answerable store parent) ∧
        found = (c.childConditions parent provider).flatMap fun k =>
          (store.recordsOf k.destination).filter (k.relates parent) := by
  apply childrenUnderAll_eq_ok_iff
  intro k member
  rw [childConditions_eq] at member
  have source := (Bool.and_eq_true_iff.mp (List.mem_filter.mp member).2).1
  exact (beq_iff_eq.mp source).symm

theorem rootRefs_eq_ok_iff {c : Container} (tree : c.basic.mode = .hierarchical)
    {refs : List RecordRef} :
    c.rootRefs store = .ok refs ↔ ∃ root, c.relations.root = some root ∧ root.Answerable store ∧
      refs = ((store.recordsOf root.provider).filter c.isRoot).filterMap Record.ref? := by
  have selected : ∀ root filter, c.relations.root = some root → root.rootFilter = .ok filter →
      (store.recordsOf root.provider).filter (matchesFilter filter) =
        (store.recordsOf root.provider).filter c.isRoot := by
    intro root filter given built
    apply List.filter_congr
    intro r member
    have provider := Store.provider_of_mem_recordsOf member
    unfold isRoot Relations.isRoot
    rw [tree, given, Option.any_some, RootCondition.holds_eq_matchesFilter built provider]
    rfl
  unfold rootRefs
  rw [tree]
  cases given : c.relations.root with
  | none =>
    constructor
    · intro failed
      cases failed
    · intro ⟨root, impossible, _⟩
      cases impossible
  | some root =>
    constructor
    · intro answered
      obtain ⟨filter, built, rest⟩ := bind_eq_ok answered
      obtain ⟨roots, fetched, same⟩ := bind_eq_ok rest
      obtain ⟨known, rfl⟩ := fetchAll_eq_ok_iff.mp fetched
      rw [selected root filter given built] at same
      exact ⟨root, rfl, ⟨⟨filter, built⟩, known⟩, (Except.ok.inj same).symm⟩
    · intro ⟨other, same, ⟨⟨filter, built⟩, known⟩, listed⟩
      obtain rfl : root = other := Option.some.inj same
      have fetched : fetchAll store root.provider filter =
          .ok ((store.recordsOf root.provider).filter (matchesFilter filter)) :=
        fetchAll_eq_ok_iff.mpr ⟨known, rfl⟩
      simp only [built]
      change (fetchAll store root.provider filter >>= fun roots =>
        pure (roots.filterMap Record.ref?)) = .ok refs
      rw [fetched, listed, selected root filter given built]
      rfl

end Container

/-- The children of a parent are, condition by condition, the stored records that the condition
relates to it; the top level of a tree is made of the stored records that are roots. -/
theorem bulk_queries_agree (c : Container) (store : Store) :
    (∀ (parent : Record) (provider : Option String) (found : List Record),
      let conditions := c.relations.children.filter fun k =>
        k.source == parent.provider && provider.all (· == k.destination)
      c.childrenOf store parent provider = .ok found ↔
        (∀ k ∈ conditions, k.Answerable store parent) ∧
          found = conditions.flatMap fun k =>
            (store.recordsOf k.destination).filter (k.relates parent)) ∧
    (c.basic.mode = .hierarchical → ∀ refs, c.rootRefs store = .ok refs ↔
      ∃ root, c.relations.root = some root ∧ root.Answerable store ∧
        refs = ((store.recordsOf root.provider).filter c.isRoot).filterMap Record.ref?) := by
  constructor
  · intro parent provider found conditions
    have same : c.childConditions parent provider = conditions := Container.childConditions_eq
    rw [← same]
    exact Container.childrenOf_eq_ok_iff
  · intro tree refs
    exact Container.rootRefs_eq_ok_iff tree

theorem bulk_queries_agree_page :
    pageContainer.basic.mode = .hierarchical ∧
      (∃ found, pageContainer.childrenOf (.single pageTable) (page 2 1) none = .ok found ∧
        found.map Record.ref? = [some (pageRef 3)]) ∧
      pageContainer.rootRefs (.single pageTable) = .ok [pageRef 1, pageRef 4] := by
  have agree := bulk_queries_agree pageContainer (.single pageTable)
  refine ⟨rfl, ⟨_, (agree.1 (page 2 1) none _).mpr ⟨?_, rfl⟩, by decide +kernel⟩, ?_⟩
  · intro k member
    obtain rfl := List.mem_singleton.mp (List.mem_filter.mp member).1
    exact ⟨⟨_, rfl⟩, rfl⟩
  · exact (agree.2 rfl _).mpr ⟨_, rfl, ⟨⟨_, rfl⟩, rfl⟩, by decide +kernel⟩

end RecordEditing
