import Mathlib.Data.List.Nodup
import RecordEditing.Proofs.Relation.Leaves
import RecordEditing.Proofs.Relation.Writing

/-!
Setters that fill in what a filter demands. If each leaf of a filter compares by equality and has a
setter of its own, a record that the setters were applied to satisfies the filter, and the derived
inverse finds the parent again.
-/
namespace RecordEditing

def Leaf.setter : Leaf → Setter
  | .link known searched => { target := some searched, source := some known }
  | .literal property value => { target := some property, value := some value }

theorem Leaf.target_setter (leaf : Leaf) : leaf.setter.target = some (TemplateRule.searchedOf leaf) := by
  cases leaf <;> rfl

namespace TemplateRule

/-- The setters are those of the leaves in some order, and no two leaves read the same property. -/
structure Fills (filter : List TemplateRule) (setters : List Setter) : Prop where
  fillable : ∀ t ∈ filter, t.Fillable
  apart : (readsOf filter).Nodup
  setters : setters.Perm ((leavesOf filter).map Leaf.setter)

variable {filter : List TemplateRule} {setters : List Setter}

theorem Fills.setters_ne_nil (fills : Fills filter setters) (nonempty : filter ≠ []) :
    setters ≠ [] := by
  have leaves := leavesOf_ne_nil nonempty fun t member => leaves_ne_nil (fills.fillable t member)
  intro empty
  have same := fills.setters
  rw [empty] at same
  exact leaves (List.map_eq_nil_iff.mp same.nil_eq.symm)

theorem Fills.filled (fills : Fills filter setters) {known : Record}
    {write : Assignment → Except RelationError (String × Json)}
    (writes : ∀ l ∈ leavesOf filter, l.setter.Writes write (searchedOf l) (l.expected known))
    (r : Record) : (Setter.writeAll write setters r).result = .ok () ∧
      ∀ l ∈ leavesOf filter, l.Filled known (Setter.writeAll write setters r).record := by
  have sound : ∀ s ∈ setters, ∃ target value, s.Writes write target value := by
    intro s member
    obtain ⟨l, inside, rfl⟩ := List.mem_map.mp (fills.setters.mem_iff.mp member)
    exact ⟨_, _, writes l inside⟩
  have apart : (setters.map Setter.target).Nodup := by
    have targets : ((leavesOf filter).map Leaf.setter).map Setter.target =
        (readsOf filter).map some := by
      rw [readsOf_eq_map, List.map_map, List.map_map]
      exact List.map_congr_left fun l _ => l.target_setter
    rw [(fills.setters.map Setter.target).nodup_iff, targets]
    exact fills.apart.map fun _ _ same => Option.some.inj same
  constructor
  · apply Setter.writeAll_ok
    intro s member
    obtain ⟨target, value, writes⟩ := sound s member
    obtain ⟨a, assigned, written⟩ := writes.written
    exact ⟨a, _, assigned, written⟩
  · intro l inside
    have member := fills.setters.mem_iff.mpr (List.mem_map_of_mem inside)
    exact Setter.get?_writeAll sound apart member (writes l inside) r

end TemplateRule

open TemplateRule (Fills leavesOf)

/-- However the condition is read, the child is one of the parent: pair by pair, by the filter for
the children of the parent, and by a derived inverse if a link tells something about the parent. -/
structure ParentChild.Accepts (k : ParentChild) (parent child : Record) : Prop where
  relates : k.relates parent child = true
  forward : ∃ filter, k.childFilter parent = .ok filter ∧ matchesFilter filter child = true
  backward : k.inverse = none → (∃ known searched, .link known searched ∈ leavesOf k.filter) →
    ∃ filter, k.parentFilter child = .ok filter ∧ matchesFilter filter parent = true

namespace ParentChild

variable {k : ParentChild} {parent child : Record}

theorem accepts_of_filled (fillable : ∀ t ∈ k.filter, t.Fillable)
    (source : parent.provider = k.source) (destination : child.provider = k.destination)
    (filled : ∀ l ∈ leavesOf k.filter, l.Filled parent child) : k.Accepts parent child := by
  have leaves := TemplateRule.forall_mem_leavesOf.mp filled
  have holds : ∀ t ∈ k.filter, TemplateRule.holdsBetween parent child t = true := fun t member =>
    TemplateRule.holdsBetween_of_filled (fillable t member) (leaves t member)
  refine ⟨?_, TemplateRule.filter_of_holds fillable holds, ?_⟩
  · unfold relates
    rw [source, destination, beq_self_eq_true, beq_self_eq_true]
    exact TemplateRule.allHoldBetween_iff.mpr holds
  · intro derived linked
    have template : k.inverseTemplate = TemplateRule.inverses k.filter := by
      unfold inverseTemplate
      rw [derived]
      rfl
    have inverses : ∀ i ∈ TemplateRule.inverses k.filter,
        i.Fillable ∧ TemplateRule.holdsBetween child parent i = true := by
      intro i listed
      obtain ⟨t, member, inverted⟩ := TemplateRule.mem_inverses.mp listed
      have returns := TemplateRule.returns_of_filled (fillable t member) (leaves t member)
      exact ⟨TemplateRule.fillable_inverse (fillable t member) i inverted,
        TemplateRule.inverse_of_returns returns i inverted⟩
    have built : k.parentFilter child =
        TemplateRule.instantiateItems (some child) (TemplateRule.inverses k.filter) := by
      unfold parentFilter
      rw [template]
      split
      · next empty => exact absurd empty (TemplateRule.inverses_ne_nil linked)
      · rfl
    rw [built]
    exact TemplateRule.filter_of_holds (fun i listed => (inverses i listed).1)
      fun i listed => (inverses i listed).2

theorem filled_applyTo (fills : Fills k.filter k.setters)
    (source : parent.provider = k.source) (destination : child.provider = k.destination) :
    (k.filter ≠ [] → (k.applyTo parent child).result = .ok ()) ∧
      ∀ l ∈ leavesOf k.filter, l.Filled parent (k.applyTo parent child).record := by
  by_cases empty : k.filter = []
  · rw [empty]
    exact ⟨fun nonempty => absurd rfl nonempty, nofun⟩
  · rw [applyTo_eq_writeAll (fills.setters_ne_nil empty) source destination]
    have writes : ∀ l ∈ leavesOf k.filter,
        l.setter.Writes (fromParent parent) (TemplateRule.searchedOf l) (l.expected parent) := by
      intro l _
      cases l with
      | link property other => exact ⟨rfl, _, rfl, rfl⟩
      | literal property value => exact ⟨rfl, _, rfl, rfl⟩
    obtain ⟨ok, filled⟩ := fills.filled writes child
    exact ⟨fun _ => ok, filled⟩

end ParentChild

namespace RootCondition

variable {c : RootCondition} {r : Record}

theorem holds_of_filled (fillable : ∀ t ∈ c.filter, t.Fillable) (own : r.provider = c.provider)
    (literal : ∀ l ∈ leavesOf c.filter, l.IsLiteral)
    (filled : ∀ l ∈ leavesOf c.filter, l.Filled r r) : c.holds r = true := by
  have literals := TemplateRule.forall_mem_leavesOf.mp literal
  have leaves := TemplateRule.forall_mem_leavesOf.mp filled
  obtain ⟨filter, built⟩ : ∃ filter, c.rootFilter = .ok filter :=
    TemplateRule.instantiateItems_ok fun t member =>
      TemplateRule.instantiate_ok (fillable t member) fun l inside =>
        TemplateRule.known_none (literals t member l inside)
  -- No leaf reads a known record, so any record may stand for it.
  have same := TemplateRule.instantiateItems_some_of_none r c.filter built
  unfold holds
  rw [own, beq_self_eq_true, built, Bool.true_and]
  change matchesFilter filter r = true
  rw [TemplateRule.matchesFilter_instantiateItems same]
  apply TemplateRule.allHoldBetween_iff.mpr
  intro t member
  exact TemplateRule.holdsBetween_of_filled (fillable t member) (leaves t member)

theorem filled_applyTo (fills : Fills c.filter c.setters) (own : r.provider = c.provider)
    (literal : ∀ l ∈ leavesOf c.filter, l.IsLiteral) (known : Record) :
    (c.filter ≠ [] → (c.applyTo r).result = .ok ()) ∧
      ∀ l ∈ leavesOf c.filter, l.Filled known (c.applyTo r).record := by
  by_cases empty : c.filter = []
  · rw [empty]
    exact ⟨fun nonempty => absurd rfl nonempty, nofun⟩
  · rw [applyTo_eq_writeAll (fills.setters_ne_nil empty) own]
    have writes : ∀ l ∈ leavesOf c.filter,
        l.setter.Writes literalOnly (TemplateRule.searchedOf l) (l.expected known) := by
      intro l inside
      cases l with
      | link property other => exact (literal _ inside).elim
      | literal property value => exact ⟨rfl, _, rfl, rfl⟩
    obtain ⟨ok, filled⟩ := fills.filled writes r
    exact ⟨fun _ => ok, filled⟩

end RootCondition

/-- A record that the setters of its leaves were applied to satisfies the filter: a child of its
parent however the condition is read, and a root. -/
theorem setters_satisfy_filter :
    (∀ k : ParentChild, Fills k.filter k.setters → ∀ parent child : Record,
      parent.provider = k.source → child.provider = k.destination →
        (k.filter ≠ [] → (k.applyTo parent child).result = .ok ()) ∧
        k.Accepts parent (k.applyTo parent child).record) ∧
      ∀ c : RootCondition, Fills c.filter c.setters → (∀ l ∈ leavesOf c.filter, l.IsLiteral) →
        ∀ r : Record, r.provider = c.provider →
          (c.filter ≠ [] → (c.applyTo r).result = .ok ()) ∧
          c.holds (c.applyTo r).record = true := by
  constructor
  · intro k fills parent child source destination
    obtain ⟨ok, filled⟩ := ParentChild.filled_applyTo fills source destination
    have kept : (k.applyTo parent child).record.provider = k.destination :=
      ParentChild.applyTo_provider.trans destination
    exact ⟨ok, ParentChild.accepts_of_filled fills.fillable source kept filled⟩
  · intro c fills literal r own
    obtain ⟨ok, filled⟩ := RootCondition.filled_applyTo fills own literal (c.applyTo r).record
    have kept : (c.applyTo r).record.provider = c.provider :=
      RootCondition.applyTo_provider.trans own
    exact ⟨ok, RootCondition.holds_of_filled fills.fillable kept literal filled⟩

def TemplateRule.value (property : String) (value : Json) : TemplateRule :=
  .mk (.compare .equals) { property := some property, value := some value } []

def noteBelow : ParentChild where
  source := "chapter"
  destination := "note"
  filter := [.mk .any {} [.link .equals Record.idProperty "pid", .value "shared" (.bool true)],
    .value "heading" .null]
  setters := [{ target := some "heading", value := some .null },
    { target := some "shared", value := some (.bool true) },
    { target := some "pid", source := some Record.idProperty }]

def chapterAtTop : RootCondition where
  provider := "chapter"
  filter := [.mk .all {} [.value "pid" (.int 0)]]
  setters := [{ target := some "pid", value := some (.int 0) }]

theorem fills_noteBelow : Fills noteBelow.filter noteBelow.setters where
  fillable := by
    have group : ∀ t ∈ [TemplateRule.link .equals Record.idProperty "pid",
        .value "shared" (.bool true)], t.Fillable := by
      simp only [List.forall_mem_cons, List.not_mem_nil, false_implies, implies_true, and_true]
      exact ⟨.leaf rfl, .leaf rfl⟩
    simp only [noteBelow, List.forall_mem_cons, List.not_mem_nil, false_implies, implies_true,
      and_true]
    exact ⟨.any (by simp) group, .leaf rfl⟩
  apart := by decide +kernel
  setters := List.reverse_perm ((leavesOf noteBelow.filter).map Leaf.setter)

theorem fills_chapterAtTop : Fills chapterAtTop.filter chapterAtTop.setters where
  fillable := by
    intro t member
    obtain rfl := List.mem_singleton.mp member
    refine .all (by simp) ?_
    intro t inside
    obtain rfl := List.mem_singleton.mp inside
    exact .leaf rfl
  apart := by decide +kernel
  setters := .refl _

/-- A chapter without an id gives its notes the link null. -/
theorem setters_satisfy_filter_note :
    Fills noteBelow.filter noteBelow.setters ∧ Fills chapterAtTop.filter chapterAtTop.setters ∧
      noteBelow.Accepts (Record.empty "chapter")
        (noteBelow.applyTo (Record.empty "chapter") (note 4 false)).record ∧
      chapterAtTop.holds (chapterAtTop.applyTo chapter).record = true := by
  obtain ⟨placed, rooted⟩ := setters_satisfy_filter
  refine ⟨fills_noteBelow, fills_chapterAtTop, ?_, ?_⟩
  · exact (placed noteBelow fills_noteBelow (Record.empty "chapter") (note 4 false) rfl rfl).2
  · have literal : ∀ l ∈ leavesOf chapterAtTop.filter, l.IsLiteral :=
      List.forall_mem_singleton.mpr trivial
    exact (rooted chapterAtTop fills_chapterAtTop literal chapter rfl).2

end RecordEditing
