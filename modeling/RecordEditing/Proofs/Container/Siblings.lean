import RecordEditing.Proofs.Container.FoundParent
import RecordEditing.Proofs.Container.Selection

/-!
Whether a record is among its siblings. The inverse of a condition finds the parent, and the
condition itself then selects its children; or there is no parent, and the filter of the root level
selects. Neither of them need select the record that it all started from.
-/
namespace RecordEditing

open TemplateRule (Reversible)

theorem ParentChild.ends_of_relates {k : ParentChild} {parent child : Record}
    (related : k.relates parent child = true) :
    k.source = parent.provider ∧ k.destination = child.provider := by
  unfold relates at related
  simp only [Bool.and_eq_true, beq_iff_eq] at related
  exact ⟨related.1.1.symm, related.1.2.symm⟩

namespace Container

variable {c : Container} {store : Store} {r parent : Record} {parentProvider : Option String}
  {found : List Record}

/-- The record is selected again: as a child of the parent that was found, or without one as a
record of the top level. A tree has a top level only for the provider of its roots. -/
def Selects (c : Container) (r : Record) : Option Record → Prop
  | some parent => ∃ k ∈ c.relations.children, k.relates parent r = true
  | none => c.basic.mode = .hierarchical → c.isRoot r = true ∨
      ∀ root, c.relations.root = some root → root.provider ≠ r.provider

/-- The conditions that end in the provider of the record are inverted by themselves and hold for
each parent that is found by their inverses. -/
def SearchedBack (c : Container) (r : Record) : Prop :=
  ∀ k ∈ c.relations.children, k.destination = r.provider →
    k.inverse = none ∧ ∀ t ∈ k.filter, Reversible r t

theorem sharedParent_eq_some
    (shared : c.sharedParent store r parentProvider = .ok (some parent)) :
    ∃ k ∈ c.relations.children, k.destination = r.provider ∧
      parentUnder store k r = .ok (some parent) := by
  unfold sharedParent at shared
  split at shared
  · split at shared
    · split at shared
      · next k known =>
        obtain ⟨listed, _, destination⟩ := Relations.mem_of_between known
        exact ⟨k, listed, destination, shared⟩
      · cases shared
    · exact parentOf_eq_some shared
  · exact parentOf_eq_some shared

theorem tree_of_isRoot (root : c.isRoot r = true) : c.basic.mode = .hierarchical :=
  beq_iff_eq.mp (Bool.and_eq_true_iff.mp root).1

theorem sharedParent_eq_parentOf
    (free : ¬ (c.basic.mode = .hierarchical ∧ c.isRoot r = false)) :
    c.sharedParent store r parentProvider = c.parentOf store r := by
  unfold sharedParent
  split
  · rw [if_neg free]
  · rfl

theorem sharedParent_of_top (top : c.basic.mode = .flat ∨ c.isRoot r = true) :
    c.sharedParent store r parentProvider = .ok none := by
  rcases top with flat | root
  · have free : ¬ (c.basic.mode = .hierarchical ∧ c.isRoot r = false) := by simp [flat]
    rw [sharedParent_eq_parentOf free]
    unfold parentOf
    rw [flat]
  · have free : ¬ (c.basic.mode = .hierarchical ∧ c.isRoot r = false) := by simp [root]
    rw [sharedParent_eq_parentOf free]
    unfold parentOf parentInTree
    rw [tree_of_isRoot root, if_pos root]

theorem selects_of_top (top : c.basic.mode = .flat ∨ c.isRoot r = true) : c.Selects r none := by
  intro tree
  rcases top with flat | root
  · rw [flat] at tree
    cases tree
  · exact Or.inl root

theorem selects_of_searchedBack (back : c.SearchedBack r)
    (shared : c.sharedParent store r parentProvider = .ok (some parent)) :
    c.Selects r (some parent) := by
  obtain ⟨k, listed, destination, under⟩ := sharedParent_eq_some shared
  obtain ⟨source, filter, built, accepted⟩ := parentUnder_eq_some under
  obtain ⟨derived, reversible⟩ := back k listed destination
  have accepts := ParentChild.accepts_of_parentFilter derived built accepted
  exact ⟨k, listed, ParentChild.relates_of_inverse source destination accepts reversible⟩

theorem mem_childrenOf (stored : r ∈ store.recordsOf r.provider)
    (answered : c.childrenOf store parent (some r.provider) = .ok found) :
    r ∈ found ↔ c.Selects r (some parent) := by
  obtain ⟨_, rfl⟩ := childrenOf_eq_ok_iff.mp answered
  rw [childConditions_eq, List.mem_flatMap]
  constructor
  · rintro ⟨k, member, selected⟩
    exact ⟨k, (List.mem_filter.mp member).1, (List.mem_filter.mp selected).2⟩
  · rintro ⟨k, listed, related⟩
    obtain ⟨source, destination⟩ := ParentChild.ends_of_relates related
    refine ⟨k, List.mem_filter.mpr ⟨listed, ?_⟩, List.mem_filter.mpr ⟨?_, related⟩⟩
    · simp [source, destination]
    · rw [destination]
      exact stored

theorem mem_top (stored : r ∈ store.recordsOf r.provider) {filter : List FilterRule}
    (built : c.topFilter r.provider = .ok filter)
    (fetched : fetchAll store r.provider filter = .ok found) :
    r ∈ found ↔ c.Selects r none := by
  obtain ⟨_, rfl⟩ := fetchAll_eq_ok_iff.mp fetched
  rw [List.mem_filter, and_iff_right stored]
  unfold topFilter at built
  unfold Selects isRoot Relations.isRoot
  split at built
  · next root tree given =>
    rw [tree, given]
    split at built
    · next own =>
      rw [← RootCondition.holds_eq_matchesFilter built own.symm]
      simp [own]
    · next other =>
      cases built
      simp [matchesFilter, other]
  · next unfiltered =>
    cases built
    have top : c.basic.mode = .hierarchical → ∀ root, c.relations.root ≠ some root := by
      intro tree root given
      exact unfiltered root tree given
    simp only [matchesFilter, List.all_nil, true_iff]
    intro tree
    exact Or.inr fun root given => absurd given (top tree root)

end Container

/-- A stored record is among its siblings if and only if it is selected again. So it is in a flat
container, if it is a root, if it has no parent outside of a tree, and if its parent was found by
conditions that hold for each parent they find. -/
theorem mem_siblings_iff {c : Container} {store : Store} {r : Record}
    {parentProvider : Option String} {found : List Record}
    (stored : r ∈ store.recordsOf r.provider)
    (answered : c.siblingsOf store r parentProvider = .ok found) :
    ∃ shared, c.sharedParent store r parentProvider = .ok shared ∧
      (r ∈ found ↔ c.Selects r shared) ∧
      (c.basic.mode = .flat ∨ c.isRoot r = true → r ∈ found) ∧
      (c.basic.mode ≠ .hierarchical → shared = none → r ∈ found) ∧
      (c.SearchedBack r → shared ≠ none → r ∈ found) := by
  obtain ⟨shared, searched, rest⟩ := bind_eq_ok answered
  have selected : r ∈ found ↔ c.Selects r shared := by
    cases shared with
    | some parent => exact Container.mem_childrenOf stored rest
    | none =>
      simp only at rest
      split at rest
      · next parented =>
        cases rest
        simp [Container.Selects, parented]
      · obtain ⟨filter, built, fetched⟩ := bind_eq_ok rest
        exact Container.mem_top stored built fetched
  refine ⟨shared, searched, selected, ?_, ?_, ?_⟩
  · intro top
    obtain rfl : none = shared :=
      Except.ok.inj ((Container.sharedParent_of_top top).symm.trans searched)
    exact selected.mpr (Container.selects_of_top top)
  · rintro noTree rfl
    exact selected.mpr fun tree => absurd tree noTree
  · intro back present
    obtain ⟨parent, rfl⟩ := Option.ne_none_iff_exists'.mp present
    exact selected.mpr (Container.selects_of_searchedBack back searched)

/-- Page 3 has a parent, which a link by equality finds. -/
theorem mem_siblings_iff_page :
    page 3 2 ∈ (Store.single pageTable).recordsOf (page 3 2).provider ∧
      pageContainer.SearchedBack (page 3 2) ∧ ∃ found,
        pageContainer.siblingsOf (.single pageTable) (page 3 2) none = .ok found ∧
        page 3 2 ∈ found := by
  have given : (3, 2) ∈ [((1 : Int), (0 : Int)), (2, 1), (3, 2), (4, 0)] := by decide
  have stored : page 3 2 ∈ (Store.single pageTable).recordsOf (page 3 2).provider :=
    Table.mem_nodes given
  have back : pageContainer.SearchedBack (page 3 2) := by
    intro k listed _
    obtain rfl := List.mem_singleton.mp listed
    refine ⟨rfl, ?_⟩
    intro t member
    obtain rfl := List.mem_singleton.mp member
    exact .link rfl
  have run : (pageContainer.siblingsOf (.single pageTable) (page 3 2) none).toOption.map
      List.length = some 1 := by decide +kernel
  obtain ⟨found, answered, _⟩ := eq_ok_of_toOption run
  obtain ⟨shared, searched, _, _, _, included⟩ := mem_siblings_iff stored answered
  refine ⟨stored, back, found, answered, included back ?_⟩
  rintro rfl
  have parent : (pageContainer.sharedParent (.single pageTable) (page 3 2) none).toOption.map
      Option.isSome = some true := by decide +kernel
  rw [searched] at parent
  cases parent

def newsStore : Store where
  tables := [.nodes "article" "pid" [(1, 0)],
    { provider := "content"
      records := [content "news"]
      own := by
        intro r member
        rw [List.mem_singleton.mp member]
        rfl },
    .nodes "news" "pid" [(1, 0)]]

/-- The article is found for the content of the news item, and has no content itself. -/
theorem not_mem_siblings_content :
    ¬ ∀ (config : ContainerConfig) (c : Container) (store : Store) (r : Record)
      (parentProvider : Option String) (found : List Record), config.compile = .ok c →
      (∀ t ∈ store.tables, (t.records.map Record.ref?).Nodup) →
      r ∈ store.recordsOf r.provider → c.siblingsOf store r parentProvider = .ok found →
      r ∈ found := by
  intro always
  have compiled : contentConfig.compile = .ok contentConfig.unchecked :=
    ContainerConfig.compile_of_validate rfl (by rfl)
  have distinct : ∀ t ∈ newsStore.tables, (t.records.map Record.ref?).Nodup := by decide +kernel
  have stored : content "news" ∈ newsStore.recordsOf (content "news").provider :=
    List.mem_singleton.mpr rfl
  have run : (contentConfig.unchecked.siblingsOf newsStore (content "news") none).toOption.map
      List.length = some 0 := by decide +kernel
  obtain ⟨found, answered, empty⟩ := eq_ok_of_toOption run
  have included := always _ _ _ _ _ _ compiled distinct stored answered
  rw [List.length_eq_zero_iff.mp empty] at included
  cases included

end RecordEditing
