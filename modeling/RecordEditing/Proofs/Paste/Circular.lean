import RecordEditing.Proofs.Clipboard.Runs
import RecordEditing.Proofs.Container.Descendants
import RecordEditing.Proofs.Paste.Phases
import RecordEditing.Proofs.Tree.Nodes

/-!
Circular addresses and the place where a pasted record lands. Every address that a request names is
checked: a record lands below no circular address that is named as its parent or as the record to
paste into. For a record to paste after, the record is checked and not its parent. A cut makes all
children of a circular record circular, so on the data of the cut the parent can only be circular
if it does not list that record as its child: the search for it passes over conditions on the child
alone.
-/
namespace RecordEditing

/-- The address is that of the parent of a record to paste after. The request names no parent, and
the record to paste after is not circular. -/
def ParentOfSibling (c : Container) (store : Store) (clipboard : Clipboard) (q : PasteRequest)
    (address : RecordRef) : Prop :=
  PasteRequest.ref? q.parent = .ok none ∧ ∃ ref sibling parent,
    q.named = .ok (some (.after ref)) ∧ clipboard.isCircular ref = false ∧
    Container.recordAt store ref = .ok (some sibling) ∧ c.isRoot sibling = false ∧
    c.parentOf store sibling = .ok (some parent) ∧ parent.ref? = some address

namespace Container

section Cuts

variable {c : Container} {store : Store}

/-- What becomes of an empty clipboard by cutting records of these data with all that is below
them, and by other steps in between that mark no address. -/
inductive CutsOf (c : Container) (store : Store) : Clipboard → Prop where
  | empty : CutsOf c store {}
  | cut {before after : Clipboard} {ref : RecordRef} {marked : List RecordRef} :
    CutsOf c store before → c.cut store before ref = .ok (after, marked) → CutsOf c store after
  | other {before : Clipboard} {s : ClipboardStep} : CutsOf c store before →
    (∀ ref subtree, s ≠ .pushCut ref subtree) → (∀ refs, s ≠ .setCircular refs) →
    CutsOf c store (before.step s)

theorem cut_leaf (before : Clipboard) {ref : RecordRef} {r : Record} {children : List Record}
    (present : recordAt store ref = .ok (some r)) (below : c.childrenOf store r none = .ok children)
    (leaf : children.filterMap Record.ref? = []) :
    c.cut store before ref = .ok (before.pushCut ref [ref], [ref]) := by
  unfold cut descendants
  rw [descend_found List.not_mem_nil present below, leaf, List.nil_append, descend]
  rfl

def ClosedBelow (c : Container) (store : Store) (refs : List RecordRef) : Prop :=
  ∀ above ∈ refs, ∀ below, ChildAt c store above below → below ∈ refs

theorem closedBelow_descendants {ref : RecordRef} {refs : List RecordRef}
    (collected : c.descendants store ref = .ok refs) :
    ClosedBelow c store (RefSet.ofList refs) := by
  intro above member below child
  rw [RefSet.mem_ofList] at member ⊢
  exact child_mem_descendants collected member child

theorem CutsOf.unmarked {clipboard : Clipboard} (cuts : CutsOf c store clipboard) :
    clipboard.circular = [] := by
  induction cuts with
  | empty => rfl
  | cut _ cut ih =>
    rw [(cut_eq_ok cut).2]
    exact ih
  | @other _ s _ _ unset ih =>
    by_cases cleared : s = .clear
    · rw [cleared]
      rfl
    · rw [Clipboard.circular_step unset cleared, ih]

theorem CutsOf.closed {clipboard : Clipboard} (cuts : CutsOf c store clipboard) :
    ∀ e ∈ clipboard.cutSubtrees, ClosedBelow c store e.2 := by
  induction cuts with
  | empty => simp
  | cut _ cut ih =>
    obtain ⟨collected, rfl⟩ := cut_eq_ok cut
    intro e member
    rcases Entries.mem_of_mem_insert member with rfl | old
    · exact closedBelow_descendants collected
    · exact ih e old
  | other _ uncut _ ih =>
    intro e member
    rcases Clipboard.mem_cutSubtrees_of_step member with old | ⟨ref, subtree, same, _⟩
    · exact ih e old
    · exact absurd same (uncut ref subtree)

theorem CutsOf.circular_child {clipboard : Clipboard} (cuts : CutsOf c store clipboard)
    {above below : RecordRef} (circular : clipboard.isCircular above = true)
    (child : ChildAt c store above below) : clipboard.isCircular below = true := by
  rw [Clipboard.isCircular_iff, cuts.unmarked] at circular ⊢
  obtain ⟨e, member, within⟩ := circular.resolve_left List.not_mem_nil
  exact Or.inr ⟨e, member, cuts.closed e member above within below child⟩

end Cuts

variable {c : Container} {store : Store} {clipboard : Clipboard} {q : PasteRequest} {r : Record}

theorem related_of_placeBelow {parent : Record} {address : RecordRef}
    (h : (c.placeBelow parent r).result = .ok (.related (some address))) :
    parent.ref? = some address := by
  have state := (reached_eq_ok h).2
  injection state with same
  exact same.symm

theorem related_of_place {destination : Destination} {address : RecordRef}
    (h : (c.place r destination).result = .ok (.related (some address))) :
    ∃ parent, destination = .below parent ∧ parent.ref? = some address := by
  cases destination with
  | unchanged => cases h
  | root => cases (reached_eq_ok h).2
  | below parent => exact ⟨parent, rfl, related_of_placeBelow h⟩

end Container

theorem Container.not_circular_or_parentOfSibling {c : Container} {store : Store}
    {clipboard : Clipboard} {q : PasteRequest} {r : Record} {address : RecordRef}
    (accepted : (c.paste store clipboard q r).result = .ok (.related (some address))) :
    clipboard.isCircular address = false ∨ ParentOfSibling c store clipboard q address := by
  obtain ⟨destination, resolved, _, phase⟩ := paste_eq_ok accepted
  rcases phase with ⟨unnamed, same⟩ | ⟨parent, named, same⟩
  · rw [same] at accepted
    obtain ⟨parent, rfl, here⟩ := related_of_place accepted
    have structured : c.basic.mode ≠ .flat := by
      intro flat
      rw [requested_of_flat flat] at resolved
      cases resolved
    rcases requested_eq_ok structured resolved with ⟨_, stays⟩ | ⟨target, named, free, leads⟩
    · cases stays
    · rcases destination_eq_below leads with
        ⟨ref, rfl, _, lookup⟩ | ⟨ref, sibling, rfl, lookup, nonroot, searched⟩
      · have found := ref?_of_recordAt (PasteRequest.valid_of_named named) lookup
        obtain rfl : ref = address := Option.some.inj (found.symm.trans here)
        exact Or.inl free
      · exact Or.inr ⟨requestedParent_eq_none unnamed, ref, sibling, parent, named, free, lookup,
          nonroot, searched, here⟩
  · rw [same] at accepted
    have here := related_of_placeBelow accepted
    obtain ⟨ref, given, free, lookup⟩ := requestedParent_eq_some named
    have found := ref?_of_recordAt (PasteRequest.valid_of_ref? given) lookup
    obtain rfl : ref = address := Option.some.inj (found.symm.trans here)
    exact Or.inl free

/-- A record lands below no circular address, unless it lands beside a record that is not circular
itself. If the circular addresses come of cuts in the same data, the parent that they share does not
list that record among its children. -/
theorem related_not_circular {c : Container} {store : Store} {clipboard : Clipboard}
    {q : PasteRequest} {r : Record} {address : RecordRef}
    (accepted : (c.paste store clipboard q r).result = .ok (.related (some address))) :
    (clipboard.isCircular address = false ∨ ParentOfSibling c store clipboard q address) ∧
      (c.CutsOf store clipboard →
        (∀ ref, q.named = .ok (some (.after ref)) → c.ChildAt store address ref) →
        clipboard.isCircular address = false) := by
  have landing := Container.not_circular_or_parentOfSibling accepted
  refine ⟨landing, ?_⟩
  intro cuts listed
  rcases landing with free | ⟨_, ref, _, _, named, free, _⟩
  · exact free
  · rw [Bool.eq_false_iff]
    intro circular
    rw [cuts.circular_child circular (listed ref named)] at free
    cases free

/-- Page 4 is cut and pasted after page 3, below page 2. -/
theorem related_not_circular_page :
    ∃ clipboard : Clipboard,
      pageContainer.cut (.single pageTable) {} (pageRef 4) = .ok (clipboard, [pageRef 4]) ∧
        clipboard.isCircular (pageRef 4) = true ∧
        (pageContainer.paste (.single pageTable) clipboard { after := some "page::3" }
          (page 4 0)).result = .ok (.related (some (pageRef 2))) ∧
        pageContainer.ChildAt (.single pageTable) (pageRef 2) (pageRef 3) ∧
        clipboard.isCircular (pageRef 2) = false := by
  have leaf : ((pageContainer.childrenOf (.single pageTable) (page 4 0) none).toOption.map
      (·.filterMap Record.ref?)) = some [] := by decide +kernel
  have below : ((pageContainer.childrenOf (.single pageTable) (page 2 1) none).toOption.map
      (·.filterMap Record.ref?)) = some [pageRef 3] := by decide +kernel
  obtain ⟨_, first, none⟩ := eq_ok_of_toOption leaf
  obtain ⟨_, second, children⟩ := eq_ok_of_toOption below
  have cut : pageContainer.cut (.single pageTable) {} (pageRef 4) = _ :=
    Container.cut_leaf {} rfl first none
  have run : ((pageContainer.paste (.single pageTable) (({} : Clipboard).pushCut (pageRef 4)
      [pageRef 4]) { after := some "page::3" } (page 4 0)).result).toOption.map id =
        some (.related (some (pageRef 2))) := by decide +kernel
  obtain ⟨_, accepted, rfl⟩ := eq_ok_of_toOption run
  have listed : pageContainer.ChildAt (.single pageTable) (pageRef 2) (pageRef 3) := by
    rw [Container.childAt_iff_of_found rfl second, children]
    exact List.mem_singleton_self _
  have text : (PasteRequest.named { after := some "page::3" }).toOption.map id =
      some (some (.after (pageRef 3))) := by decide +kernel
  obtain ⟨_, named, rfl⟩ := eq_ok_of_toOption text
  refine ⟨_, cut, Clipboard.isCircular_pushCut {} (by simp), accepted, listed, ?_⟩
  refine (related_not_circular accepted).2 (.cut .empty cut) fun ref asked => ?_
  rw [named] at asked
  cases asked
  exact listed

/-- Page 2 was cut alone, and page 3 came below it afterwards. Pasted after page 3 it lands below
itself. -/
theorem related_circular_page :
    ¬ ∀ (c : Container) (store : Store) (clipboard : Clipboard) (q : PasteRequest) (r : Record)
      (address : RecordRef), c.basic.mode ≠ .flat →
      (c.paste store clipboard q r).result = .ok (.related (some address)) →
      clipboard.isCircular address = false := by
  intro never
  have run : ((pageContainer.paste (.single pageTable) (({} : Clipboard).pushCut (pageRef 2)
      [pageRef 2]) { after := some "page::3" } (page 2 1)).result).toOption.map id =
        some (.related (some (pageRef 2))) := by decide +kernel
  obtain ⟨_, accepted, rfl⟩ := eq_ok_of_toOption run
  have free := never _ _ _ _ _ _ (by decide) accepted
  have marked : (({} : Clipboard).pushCut (pageRef 2) [pageRef 2]).isCircular (pageRef 2) = true :=
    Clipboard.isCircular_pushCut {} (by simp)
  rw [marked] at free
  cases free

/-- Pages that link to another one belong below it if they are regular. -/
def regularConfig : ContainerConfig :=
  { ContainerConfig.tree "page" "pid" with
    relations := { Relations.tree "page" "pid" with
      children := [{
        source := "page"
        destination := "page"
        filter := [.link .equals Record.idProperty "pid",
          .mk (.compare .equals) { property := some "type", value := some (.str "regular") } []]
        setters := [{ target := some "pid", source := some Record.idProperty }] }] } }

/-- No page here is regular, so page 2 is cut without page 3. For the page to paste after it is a
parent all the same, and page 2 lands below itself on data that nobody changed. -/
theorem related_circular_irregular :
    ¬ ∀ (c : Container) (store : Store) (clipboard : Clipboard) (q : PasteRequest) (r : Record)
      (address : RecordRef), c.CutsOf store clipboard →
      (c.paste store clipboard q r).result = .ok (.related (some address)) →
      clipboard.isCircular address = false := by
  intro never
  have below : ((regularConfig.unchecked.childrenOf (.single pageTable) (page 2 1)
      none).toOption.map (·.filterMap Record.ref?)) = some [] := by decide +kernel
  obtain ⟨_, children, leaf⟩ := eq_ok_of_toOption below
  have cut : regularConfig.unchecked.cut (.single pageTable) {} (pageRef 2) = _ :=
    Container.cut_leaf {} rfl children leaf
  have run : ((regularConfig.unchecked.paste (.single pageTable) (({} : Clipboard).pushCut
      (pageRef 2) [pageRef 2]) { after := some "page::3" } (page 2 1)).result).toOption.map id =
        some (.related (some (pageRef 2))) := by decide +kernel
  obtain ⟨_, accepted, rfl⟩ := eq_ok_of_toOption run
  have free := never _ _ _ _ _ _ (.cut .empty cut) accepted
  rw [Clipboard.isCircular_pushCut {} (by simp)] at free
  cases free

end RecordEditing
