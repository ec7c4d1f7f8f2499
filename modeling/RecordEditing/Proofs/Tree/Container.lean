import RecordEditing.Proofs.Container.Descendants
import RecordEditing.Proofs.Record.Address
import RecordEditing.Proofs.Tree.Chain
import RecordEditing.Proofs.Value.Rounding

/-!
Containers that keep the records of one provider as a tree by a link property, and what the lookups
of such a container find: forward and backward they follow the links and nothing else.
-/
namespace RecordEditing

def TemplateRule.IsEquality (leaf : Leaf) : TemplateRule → Prop
  | .mk op parts _ => op = .compare .equals ∧ parts.leaf? = some leaf

/-- Roots have the link 0, and children the id of their parent; setters write just that. -/
structure Container.IsTree (c : Container) (provider link : String) : Prop where
  mode : c.basic.mode = .hierarchical
  link_ne_id : link ≠ Record.idProperty
  root : ∃ rule setter, c.relations.root = some ⟨provider, [rule], [setter]⟩ ∧
    rule.IsEquality (.literal link (.int 0)) ∧ setter.assignment = .ok (.literal link (.int 0))
  child : ∃ rule setter, c.relations.children = [⟨provider, provider, [rule], none, [setter]⟩] ∧
    rule.IsEquality (.link Record.idProperty link) ∧
    setter.assignment = .ok (.copy link Record.idProperty)

def Store.single (t : Table) : Store := ⟨[t]⟩

namespace TemplateRule

variable {rule : TemplateRule}

theorem instantiateItems_literal {known : Option Record} {property : String} {value : Json}
    (shape : rule.IsEquality (.literal property value)) :
    instantiateItems known [rule] = .ok [.equals property value] := by
  obtain ⟨op, parts, children⟩ := rule
  obtain ⟨rfl, leaf⟩ := shape
  simp [instantiateItems, instantiate, leaf, instantiateLeaf, FilterRule.compare]

theorem instantiateItems_link {r : Record} {known searched : String}
    (shape : rule.IsEquality (.link known searched)) :
    instantiateItems (some r) [rule] = .ok [.equals searched ((r.get? known).getD .null)] := by
  obtain ⟨op, parts, children⟩ := rule
  obtain ⟨rfl, leaf⟩ := shape
  simp [instantiateItems, instantiate, leaf, instantiateLeaf, FilterRule.compare]

theorem inverses_link {known searched : String}
    (shape : rule.IsEquality (.link known searched)) :
    inverses [rule] = [.link .equals searched known] := by
  obtain ⟨op, parts, children⟩ := rule
  obtain ⟨rfl, leaf⟩ := shape
  simp [inverses, inverse?, leaf, inverseLeaf?]

theorem isEquality_link (known searched : String) :
    (link .equals known searched).IsEquality (.link known searched) := ⟨rfl, rfl⟩

end TemplateRule

theorem matchesFilter_int {r : Record} {property : String} {i j : Int}
    (holds : r.int? property = some i) (left : i.natAbs ≤ Binary64.binade)
    (right : j.natAbs ≤ Binary64.binade) :
    matchesFilter [.equals property (.int j)] r = true ↔ i = j := by
  have value := Record.int?_eq_some.mp holds
  simp only [matchesFilter, List.all_cons, List.all_nil, Bool.and_true, FilterRule.holds,
    Operator.holds, looseEq, value, Option.getD_some]
  exact Json.loose_int left right

namespace Table

theorem fetch_filter (t : Table) (filter : List FilterRule) :
    t.fetch { filter } = t.records.filter (matchesFilter filter) := rfl

theorem fetchFirst?_filter (t : Table) (filter : List FilterRule) :
    t.fetchFirst? { filter } = t.records.find? (matchesFilter filter) := by
  change ((t.records.filter (matchesFilter filter)).take 1).head? = _
  rw [List.head?_take, if_neg (by decide), List.head?_filter]

end Table

namespace Container

variable {t : Table}

theorem tableOf_single (t : Table) : tableOf (.single t) t.provider = .ok t := by
  have known : (Store.single t).table t.provider = .ok t := by
    simp [Store.table, Store.table?, Store.single]
  unfold tableOf
  rw [known]
  rfl

theorem mem_of_recordAt_single {ref : RecordRef} {r : Record}
    (h : recordAt (.single t) ref = .ok (some r)) : r ∈ t.records := by
  have stored := (Store.find?_eq_ok (recordAt_eq_ok h)).1
  simpa [Store.records, Store.single] using stored

end Container

namespace Linked

variable {t : Table} {link : String} {s : Record}

theorem ref?_eq (linked : Linked link t.records) (stored : s ∈ t.records) {i : Int}
    (id : s.int? Record.idProperty = some i) : s.ref? = some ⟨t.provider, .int i⟩ := by
  obtain ⟨j, holds, _, small⟩ := linked.ids s stored
  obtain rfl : j = i := Option.some.inj (holds.symm.trans id)
  have bound : Binary64.binade = 9007199254740992 := rfl
  have fits : RecordId.fits j = true := by
    simp only [RecordId.fits, Bool.and_eq_true, decide_eq_true_eq]
    omega
  have valid : (RecordId.int j).Valid := RecordId.valid_int fits
  have has : s.hasId (.int j) = true := Record.hasId_iff.mpr (Record.int?_eq_some.mp id)
  unfold Record.ref?
  rw [Record.id?_of_hasId valid has, t.own s stored]
  rfl

theorem hasId_of_ref? (linked : Linked link t.records) (stored : s ∈ t.records) {ref : RecordRef}
    (address : s.ref? = some ref) : s.hasId ref.id = true := by
  obtain ⟨i, id, _⟩ := linked.ids s stored
  rw [linked.ref?_eq stored id] at address
  obtain rfl := Option.some.inj address
  exact Record.hasId_iff.mpr (Record.int?_eq_some.mp id)

theorem eq_of_hasId (linked : Linked link t.records) {r : Record} (left : r ∈ t.records)
    (right : s ∈ t.records) {ref : RecordRef} (address : s.ref? = some ref)
    (has : r.hasId ref.id = true) : r = s := by
  obtain ⟨i, id, _⟩ := linked.ids s right
  rw [linked.ref?_eq right id] at address
  obtain rfl := Option.some.inj address
  apply linked.eq_of_id left right
  rw [id]
  exact Record.int?_eq_some.mpr (Record.hasId_iff.mp has)

theorem recordAt_eq (linked : Linked link t.records) (stored : s ∈ t.records) {ref : RecordRef}
    (address : s.ref? = some ref) : Container.recordAt (.single t) ref = .ok (some s) := by
  have has := linked.hasId_of_ref? stored address
  have found : t.find? ref.id = some s := by
    unfold Table.find?
    cases lookup : t.records.find? (fun r => r.hasId ref.id) with
    | none => exact absurd has (List.find?_eq_none.mp lookup s stored)
    | some r =>
      have hasToo : r.hasId ref.id = true := by simpa using List.find?_some lookup
      rw [linked.eq_of_hasId (List.mem_of_find?_eq_some lookup) stored address hasToo]
  have provider : t.provider = ref.provider :=
    (t.own s stored).symm.trans (Record.ref?_eq_some address).1
  have known : (Store.single t).find? ref = .ok (some s) := by
    simp [Store.find?, Store.table, Store.table?, Store.single, provider, found]
  unfold Container.recordAt
  rw [known]
  rfl

end Linked

namespace Container.IsTree

variable {c : Container} {link : String} {t : Table} {s parent : Record}

theorem isRoot_iff (tree : c.IsTree t.provider link) (own : s.provider = t.provider) {i : Int}
    (up : s.int? link = some i) (small : i.natAbs ≤ Binary64.binade) :
    c.isRoot s = true ↔ i = 0 := by
  obtain ⟨rule, setter, root, shape, _⟩ := tree.root
  have filter : TemplateRule.instantiateItems none [rule] = .ok [.equals link (.int 0)] :=
    TemplateRule.instantiateItems_literal shape
  unfold isRoot Relations.isRoot
  rw [tree.mode, root]
  simp only [beq_self_eq_true, Bool.true_and, Option.any_some, RootCondition.holds,
    RootCondition.rootFilter, own, filter]
  exact matchesFilter_int up small (by decide)

theorem endingAt_eq (tree : c.IsTree t.provider link) : ∃ rule setter,
    c.relations.endingAt t.provider = [⟨t.provider, t.provider, [rule], none, [setter]⟩] ∧
      rule.IsEquality (.link Record.idProperty link) := by
  obtain ⟨rule, setter, children, shape, _⟩ := tree.child
  refine ⟨rule, setter, ?_, shape⟩
  simp [Relations.endingAt, children]

theorem parentOf_eq (tree : c.IsTree t.provider link) (own : s.provider = t.provider) {i : Int}
    (up : s.int? link = some i) (nonroot : c.isRoot s = false) :
    c.parentOf (.single t) s =
      .ok (t.records.find? (matchesFilter [.equals Record.idProperty (.int i)])) := by
  obtain ⟨rule, setter, ending, shape⟩ := tree.endingAt_eq
  have template : ParentChild.parentFilter ⟨t.provider, t.provider, [rule], none, [setter]⟩ s =
      .ok [.equals Record.idProperty (.int i)] := by
    simp only [ParentChild.parentFilter, ParentChild.inverseTemplate, Option.getD_none,
      TemplateRule.inverses_link shape]
    rw [TemplateRule.instantiateItems_link (TemplateRule.isEquality_link _ _),
      Record.int?_eq_some.mp up]
    rfl
  have under : parentUnder (.single t) ⟨t.provider, t.provider, [rule], none, [setter]⟩ s =
      .ok (t.records.find? (matchesFilter [.equals Record.idProperty (.int i)])) := by
    unfold parentUnder
    rw [template, tableOf_single, ← Table.fetchFirst?_filter]
    rfl
  simp only [parentOf, tree.mode, parentInTree, nonroot, own, ending, firstParent, under,
    Bool.false_eq_true, ↓reduceIte]
  cases t.records.find? (matchesFilter [.equals Record.idProperty (.int i)]) <;> rfl

theorem linksTo_of_parentOf (tree : c.IsTree t.provider link) (linked : Linked link t.records)
    (stored : s ∈ t.records) (nonroot : c.isRoot s = false)
    (h : c.parentOf (.single t) s = .ok (some parent)) :
    parent ∈ t.records ∧ LinksTo link s parent := by
  obtain ⟨i, up, small⟩ := linked.links s stored
  rw [tree.parentOf_eq (t.own s stored) up nonroot] at h
  have found := Except.ok.inj h
  have member := List.mem_of_find?_eq_some found
  obtain ⟨j, id, _, bounded⟩ := linked.ids parent member
  have same : j = i := (matchesFilter_int id bounded small).mp (List.find?_some found)
  exact ⟨member, i, up, same ▸ id⟩

theorem parentOf_of_linksTo (tree : c.IsTree t.provider link) (linked : Linked link t.records)
    (stored : s ∈ t.records) (member : parent ∈ t.records) (leads : LinksTo link s parent) :
    c.isRoot s = false ∧ c.parentOf (.single t) s = .ok (some parent) := by
  obtain ⟨i, up, id⟩ := leads
  obtain ⟨j, numbered, nonzero, small⟩ := linked.ids parent member
  obtain rfl : j = i := Option.some.inj (numbered.symm.trans id)
  have nonroot : c.isRoot s = false := by
    rw [Bool.eq_false_iff]
    intro root
    exact nonzero ((tree.isRoot_iff (t.own s stored) up small).mp root)
  refine ⟨nonroot, ?_⟩
  have accepts := (matchesFilter_int id small small).mpr rfl
  rw [tree.parentOf_eq (t.own s stored) up nonroot]
  cases found : t.records.find? (matchesFilter [.equals Record.idProperty (.int j)]) with
  | none => exact absurd accepts (List.find?_eq_none.mp found parent member)
  | some p =>
    have leads : LinksTo link s p :=
      (tree.linksTo_of_parentOf linked stored nonroot (by
        rw [tree.parentOf_eq (t.own s stored) up nonroot, found])).2
    rw [linked.parent_unique (List.mem_of_find?_eq_some found) member leads ⟨j, up, id⟩]

theorem childrenOf_eq (tree : c.IsTree t.provider link) (own : parent.provider = t.provider)
    {i : Int} (id : parent.int? Record.idProperty = some i) :
    c.childrenOf (.single t) parent none =
      .ok (t.records.filter (matchesFilter [.equals link (.int i)])) := by
  obtain ⟨rule, setter, children, shape, _⟩ := tree.child
  have conditions : c.childConditions parent none =
      [⟨t.provider, t.provider, [rule], none, [setter]⟩] := by
    simp [childConditions, Relations.startingAt, children, own]
  have template : ParentChild.childFilter ⟨t.provider, t.provider, [rule], none, [setter]⟩ parent =
      .ok [.equals link (.int i)] := by
    unfold ParentChild.childFilter
    rw [TemplateRule.instantiateItems_link shape, Record.int?_eq_some.mp id]
    rfl
  have under : childrenUnder (.single t) parent ⟨t.provider, t.provider, [rule], none, [setter]⟩ =
      .ok (t.records.filter (matchesFilter [.equals link (.int i)])) := by
    unfold childrenUnder
    rw [template, ← Table.fetch_filter]
    change fetchAll (.single t) t.provider [.equals link (.int i)] = _
    unfold fetchAll
    rw [tableOf_single]
  unfold childrenOf
  rw [conditions]
  simp only [childrenUnderAll, under, List.append_nil]

theorem childAt_of_linksTo (tree : c.IsTree t.provider link) (linked : Linked link t.records)
    (stored : s ∈ t.records) (member : parent ∈ t.records) (leads : LinksTo link s parent)
    {above below : RecordRef} (up : parent.ref? = some above) (down : s.ref? = some below) :
    ChildAt c (.single t) above below := by
  obtain ⟨i, holds, id⟩ := leads
  obtain ⟨j, numbered, _, small⟩ := linked.ids parent member
  obtain rfl : j = i := Option.some.inj (numbered.symm.trans id)
  refine ⟨parent, _, s, linked.recordAt_eq member up, tree.childrenOf_eq (t.own parent member) id,
    ?_, down⟩
  exact List.mem_filter.mpr ⟨stored, (matchesFilter_int holds small small).mpr rfl⟩

theorem mem_descendants (tree : c.IsTree t.provider link) (linked : Linked link t.records)
    {r : Record} {start : RecordRef} {found : List RecordRef} (address : r.ref? = some start)
    (collected : c.descendants (.single t) start = .ok found)
    (below : AtOrBelow link t.records r s) (stored : s ∈ t.records) {ref : RecordRef}
    (here : s.ref? = some ref) : ref ∈ found := by
  -- Down the chain from r: where the parent was met, its children were met too.
  induction below generalizing ref with
  | self =>
    obtain rfl := Option.some.inj (address.symm.trans here)
    exact start_mem_descendants collected
  | @up s parent member leads rest ih =>
    obtain ⟨i, id, _⟩ := linked.ids parent member
    have up := linked.ref?_eq member id
    exact child_mem_descendants collected (ih member up)
      (tree.childAt_of_linksTo linked stored member leads up here)

end Container.IsTree
end RecordEditing
