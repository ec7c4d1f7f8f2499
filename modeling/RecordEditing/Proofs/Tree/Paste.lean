import RecordEditing.Proofs.Paste.Phases
import RecordEditing.Proofs.Tree.Nodes

/-!
Cutting and pasting in a tree. The cut marks everything at or below the record, so no accepted
target and no accepted parent lies there, and the record is hung where the tree stays a tree. The
record goes below the parent named on its own, else to the place that the target names.
-/
namespace RecordEditing

/-- The link that a request gives a record: the id of a parent, or 0 for the level above all
records. -/
inductive Position (link : String) (records : List Record) (q : PasteRequest) (r : Record) :
    Option Int → Prop where
  | parent {p : Record} {ref : RecordRef} (named : PasteRequest.ref? q.parent = .ok (some ref))
      (stored : p ∈ records) (address : p.ref? = some ref) :
      Position link records q r (p.int? Record.idProperty)
  | into {p : Record} {ref : RecordRef} (unnamed : PasteRequest.ref? q.parent = .ok none)
      (target : q.named = .ok (some (.into ref))) (nonzero : ref.id.isZero = false)
      (stored : p ∈ records) (address : p.ref? = some ref) :
      Position link records q r (p.int? Record.idProperty)
  | intoTop {ref : RecordRef} (unnamed : PasteRequest.ref? q.parent = .ok none)
      (target : q.named = .ok (some (.into ref))) (zero : ref.id.isZero = true) :
      Position link records q r (some 0)
  | after {sibling : Record} {ref : RecordRef}
      (unnamed : PasteRequest.ref? q.parent = .ok none)
      (target : q.named = .ok (some (.after ref)))
      (stored : sibling ∈ records) (address : sibling.ref? = some ref) :
      Position link records q r (sibling.int? link)
  | afterMissing {ref : RecordRef} (unnamed : PasteRequest.ref? q.parent = .ok none)
      (target : q.named = .ok (some (.after ref))) (absent : ∀ s ∈ records, s.ref? ≠ some ref) :
      Position link records q r (some 0)
  | stay (unnamed : PasteRequest.ref? q.parent = .ok none) (target : q.named = .ok none) :
      Position link records q r (r.int? link)

/-- A link that keeps the tree a tree: to the top or to a record that is not below the moved one. -/
def Safe (link : String) (records : List Record) (r : Record) (i : Int) : Prop :=
  i = 0 ∨ ∃ parent ∈ records, parent.int? Record.idProperty = some i ∧
    ¬ AtOrBelow link records r parent

namespace Container.IsTree

variable {c : Container} {link : String} {t : Table} {r parent : Record}

theorem place_root (tree : c.IsTree t.provider link) (own : r.provider = t.provider) :
    c.place r .root = ⟨r.set link (.int 0), .ok .rooted⟩ := by
  obtain ⟨rule, setter, root, _, writes⟩ := tree.root
  have written : (⟨t.provider, [rule], [setter]⟩ : RootCondition).applyTo r =
      .unchanged (r.set link (.int 0)) := by
    simp [RootCondition.applyTo, RootCondition.requireSetters, checkProvider, own, bind,
      Except.bind, Setter.writeAll, writes, RootCondition.literalOnly]
  unfold place Relations.setRoot
  rw [if_pos tree.mode, root]
  simp only [written]
  rfl

theorem placeBelow_eq (tree : c.IsTree t.provider link) (own : r.provider = t.provider)
    (ownParent : parent.provider = t.provider) {i : Int}
    (id : parent.int? Record.idProperty = some i) :
    c.placeBelow parent r = ⟨r.set link (.int i), .ok (.related parent.ref?)⟩ := by
  obtain ⟨rule, setter, children, _, writes⟩ := tree.child
  have between : c.relations.requireBetween parent.provider r.provider =
      .ok ⟨t.provider, t.provider, [rule], none, [setter]⟩ := by
    simp [Relations.requireBetween, Relations.between?, children, own, ownParent]
  have written : (⟨t.provider, t.provider, [rule], none, [setter]⟩ : ParentChild).applyTo parent r =
      .unchanged (r.set link (.int i)) := by
    simp [ParentChild.applyTo, ParentChild.requireSetters, checkProvider, own, ownParent, bind,
      Except.bind, Setter.writeAll, writes, ParentChild.fromParent, Record.int?_eq_some.mp id]
  have structured : c.basic.mode ≠ .flat := by simp [tree.mode]
  unfold placeBelow Relations.setParent
  rw [if_neg structured, between]
  simp only [written]
  rfl

theorem topLevel_eq (tree : c.IsTree t.provider link) : c.topLevel = .root := by
  unfold topLevel
  rw [if_pos tree.mode]

theorem parentOf_ne_none (tree : c.IsTree t.provider link) (linked : Linked link t.records)
    {s : Record} (stored : s ∈ t.records) (rooted : Rooted link t.records s)
    (nonroot : c.isRoot s = false) : c.parentOf (.single t) s ≠ .ok none := by
  cases rooted with
  | top zero =>
    have root := (tree.isRoot_iff (t.own s stored) zero (by decide)).mpr rfl
    rw [nonroot] at root
    cases root
  | up member leads _ =>
    rw [(tree.parentOf_of_linksTo linked stored member leads).2]
    simp

theorem destination_into (tree : c.IsTree t.provider link) {ref : RecordRef}
    (valid : ref.id.Valid) {destination : Destination}
    (h : c.destination (.single t) (.into ref) = .ok destination) :
    (ref.id.isZero = true ∧ destination = .root) ∨
      (ref.id.isZero = false ∧
        ∃ p ∈ t.records, p.ref? = some ref ∧ destination = .below p) := by
  simp only [Container.destination] at h
  split at h
  · next zero =>
    rw [tree.topLevel_eq] at h
    exact Or.inl ⟨zero, (Except.ok.inj h).symm⟩
  · next nonzero =>
    obtain ⟨p, required, rest⟩ := bind_eq_ok h
    have lookup := recordAt_of_requireAt required
    refine Or.inr ⟨by simpa using nonzero, p, mem_of_recordAt_single lookup,
      ref?_of_recordAt valid lookup, ?_⟩
    exact (Except.ok.inj rest).symm

theorem destination_after (tree : c.IsTree t.provider link) (linked : Linked link t.records)
    (rooted : ∀ s ∈ t.records, Rooted link t.records s) {ref : RecordRef} (valid : ref.id.Valid)
    {destination : Destination} (h : c.destination (.single t) (.after ref) = .ok destination) :
    ((∀ s ∈ t.records, s.ref? ≠ some ref) ∧ destination = .root) ∨
      ∃ s ∈ t.records, s.ref? = some ref ∧
        ((s.int? link = some 0 ∧ destination = .root) ∨
          ∃ p ∈ t.records, LinksTo link s p ∧ destination = .below p) := by
  obtain ⟨found, lookup, rest⟩ := bind_eq_ok h
  cases found with
  | none =>
    refine Or.inl ⟨?_, ?_⟩
    · intro s stored address
      rw [linked.recordAt_eq stored address] at lookup
      cases lookup
    · rw [tree.topLevel_eq] at rest
      exact (Except.ok.inj rest).symm
  | some s =>
    have stored := mem_of_recordAt_single lookup
    refine Or.inr ⟨s, stored, ref?_of_recordAt valid lookup, ?_⟩
    simp only at rest
    split at rest
    · next root =>
      obtain ⟨i, up, small⟩ := linked.links s stored
      obtain rfl := (tree.isRoot_iff (t.own s stored) up small).mp root
      rw [tree.topLevel_eq] at rest
      exact Or.inl ⟨up, (Except.ok.inj rest).symm⟩
    · next nonroot =>
      have nonroot : c.isRoot s = false := by simpa using nonroot
      obtain ⟨parent, searched, rest⟩ := bind_eq_ok rest
      cases parent with
      | none =>
        exact absurd searched (tree.parentOf_ne_none linked stored (rooted s stored) nonroot)
      | some p =>
        obtain ⟨member, leads⟩ := tree.linksTo_of_parentOf linked stored nonroot searched
        exact Or.inr ⟨p, member, leads, (Except.ok.inj rest).symm⟩

section Marked

variable {clipboard : Clipboard} {q : PasteRequest}

theorem circular_of_cut (tree : c.IsTree t.provider link) (linked : Linked link t.records)
    {ref : RecordRef} (address : r.ref? = some ref) {earlier : Clipboard}
    {marked : List RecordRef} (cut : c.cut (.single t) earlier ref = .ok (clipboard, marked))
    {s : Record} (stored : s ∈ t.records) (below : AtOrBelow link t.records r s)
    {here : RecordRef} (place : s.ref? = some here) : clipboard.isCircular here = true := by
  obtain ⟨collected, rfl⟩ := Container.cut_eq_ok cut
  exact earlier.isCircular_pushCut
    (tree.mem_descendants linked address collected below stored place)

theorem requested_safe (tree : c.IsTree t.provider link) (linked : Linked link t.records)
    (rooted : ∀ s ∈ t.records, Rooted link t.records s) (own : r.provider = t.provider)
    (marks : ∀ s ∈ t.records, AtOrBelow link t.records r s → ∀ ref, s.ref? = some ref →
      clipboard.isCircular ref = true) {destination : Destination}
    (h : c.requested (.single t) clipboard q = .ok destination) :
    (q.named = .ok none ∧ destination = .unchanged) ∨
      ∃ i, Safe link t.records r i ∧ (c.place r destination).record = r.set link (.int i) ∧
        (PasteRequest.ref? q.parent = .ok none → Position link t.records q r (some i)) := by
  have structured : c.basic.mode ≠ .flat := by simp [tree.mode]
  have toRoot : (c.place r .root).record = r.set link (.int 0) := by
    rw [tree.place_root own]
  have toParent : ∀ p ∈ t.records, ∀ i, p.int? Record.idProperty = some i →
      (c.place r (.below p)).record = r.set link (.int i) := by
    intro p member i id
    change (c.placeBelow p r).record = _
    rw [tree.placeBelow_eq own (t.own p member) id]
  have apart : ∀ p ∈ t.records, ∀ ref, p.ref? = some ref → clipboard.isCircular ref = false →
      ¬ AtOrBelow link t.records r p := by
    intro p member ref address free below
    rw [marks p member below ref address] at free
    cases free
  rcases requested_eq_ok structured h with stay | ⟨target, named, free, leads⟩
  · exact Or.inl stay
  · refine Or.inr ?_
    have valid := PasteRequest.valid_of_named named
    cases target with
    | into ref =>
      rcases tree.destination_into valid leads with ⟨zero, rfl⟩ | ⟨nonzero, p, member, address, rfl⟩
      · exact ⟨0, Or.inl rfl, toRoot, fun unnamed => .intoTop unnamed named zero⟩
      · obtain ⟨i, id, _⟩ := linked.ids p member
        refine ⟨i, Or.inr ⟨p, member, id, apart p member ref address free⟩, toParent p member i id, ?_⟩
        intro unnamed
        rw [← id]
        exact .into unnamed named nonzero member address
    | after ref =>
      rcases tree.destination_after linked rooted valid leads with
        ⟨absent, rfl⟩ | ⟨s, stored, address, ⟨zero, rfl⟩ | ⟨p, member, up, rfl⟩⟩
      · exact ⟨0, Or.inl rfl, toRoot, fun unnamed => .afterMissing unnamed named absent⟩
      · refine ⟨0, Or.inl rfl, toRoot, ?_⟩
        intro unnamed
        rw [← zero]
        exact .after unnamed named stored address
      · obtain ⟨i, link_eq, id⟩ := up
        have apartParent : ¬ AtOrBelow link t.records r p := by
          intro below
          exact apart s stored ref address free (.up member ⟨i, link_eq, id⟩ below)
        refine ⟨i, Or.inr ⟨p, member, id, apartParent⟩, toParent p member i id, ?_⟩
        intro unnamed
        rw [← link_eq]
        exact .after unnamed named stored address

theorem paste_safe (tree : c.IsTree t.provider link) (linked : Linked link t.records)
    (rooted : ∀ s ∈ t.records, Rooted link t.records s) (own : r.provider = t.provider)
    (marks : ∀ s ∈ t.records, AtOrBelow link t.records r s → ∀ ref, s.ref? = some ref →
      clipboard.isCircular ref = true) {state : PasteState}
    (accepted : (c.paste (.single t) clipboard q r).result = .ok state) :
    ((c.paste (.single t) clipboard q r).record = r ∧
        Position link t.records q r (r.int? link)) ∨
      ∃ i, (c.paste (.single t) clipboard q r).record = r.set link (.int i) ∧
        Safe link t.records r i ∧ Position link t.records q r (some i) := by
  obtain ⟨destination, resolved, _, phase⟩ := paste_eq_ok accepted
  have first := tree.requested_safe linked rooted own marks resolved
  rcases phase with ⟨unnamed, same⟩ | ⟨p, named, same⟩
  · have unnamed := requestedParent_eq_none unnamed
    rw [same]
    rcases first with ⟨target, rfl⟩ | ⟨i, safe, written, position⟩
    · exact Or.inl ⟨rfl, .stay unnamed target⟩
    · exact Or.inr ⟨i, written, safe, position unnamed⟩
  · obtain ⟨ref, given, free, lookup⟩ := requestedParent_eq_some named
    have member := mem_of_recordAt_single lookup
    have address := ref?_of_recordAt (PasteRequest.valid_of_ref? given) lookup
    obtain ⟨i, id, _⟩ := linked.ids p member
    have apart : ¬ AtOrBelow link t.records r p := by
      intro below
      rw [marks p member below ref address] at free
      cases free
    have position : Position link t.records q r (some i) := by
      rw [← id]
      exact .parent given member address
    refine Or.inr ⟨i, ?_, Or.inr ⟨p, member, id, apart⟩, position⟩
    -- Whatever the target wrote to the link is overwritten.
    rw [same]
    rcases first with ⟨_, rfl⟩ | ⟨j, _, written, _⟩
    · rw [show (c.place r .unchanged).record = r from rfl,
        tree.placeBelow_eq own (t.own p member) id]
    · have owned : (r.set link (.int j)).provider = t.provider := own
      rw [written, tree.placeBelow_eq owned (t.own p member) id, Record.set_set]

end Marked

end Container.IsTree

theorem Store.save_single {t : Table} {moved old : Record} {id : RecordId}
    {front back : List Record} (split : t.records = front ++ old :: back)
    (owned : moved.provider = t.provider) (has : moved.id? = some id)
    (replaces : old.hasId id = true) (first : ∀ s ∈ front, s.hasId id = false) :
    ∃ saved : Table, (Store.single t).save t.provider moved = .ok (id, .single saved) ∧
      saved.provider = t.provider ∧ saved.records = front ++ moved :: back := by
  have known : (Store.single t).table t.provider = .ok t := by
    simp [Store.table, Store.table?, Store.single]
  have written : t.save moved = .ok (id, t.store id moved owned) := by
    simp only [Table.save, owned, ↓reduceDIte, has]
  refine ⟨t.store id moved owned, ?_, rfl, ?_⟩
  · unfold Store.save
    rw [known]
    simp only [written]
    simp [Store.put, Store.single, putTable, Table.store]
  · change Table.put id moved t.records = _
    rw [split]
    exact Table.put_of_split replaces first

section Relinked

variable {link : String} {r : Record} {i : Int}

theorem get?_relinked {name : String} (ne : name ≠ link) :
    (r.set link (.int i)).get? name = r.get? name :=
  r.get?_set_of_ne (Ne.symm ne) (.int i)

theorem int?_relinked : (r.set link (.int i)).int? link = some i :=
  Record.int?_eq_some.mpr (r.get?_set_self link (.int i))

theorem id?_relinked (ne : link ≠ Record.idProperty) : (r.set link (.int i)).id? = r.id? := by
  unfold Record.id?
  rw [get?_relinked (Ne.symm ne)]

theorem all_rooted_of_safe {front back : List Record}
    (rooted : ∀ s ∈ front ++ r :: back, Rooted link (front ++ r :: back) s)
    (others : ∀ s ∈ front ++ back, s ≠ r) (ne : link ≠ Record.idProperty)
    (safe : Safe link (front ++ r :: back) r i) :
    ∀ s ∈ front ++ r.set link (.int i) :: back,
      Rooted link (front ++ r.set link (.int i) :: back) s := by
  have sameId : (r.set link (.int i)).int? Record.idProperty = r.int? Record.idProperty := by
    unfold Record.int?
    rw [get?_relinked (Ne.symm ne)]
  apply all_rooted_of_rehang rooted others sameId
  rcases safe with rfl | ⟨p, member, id, apart⟩
  · exact Or.inl int?_relinked
  · exact Or.inr ⟨p, member, ⟨i, int?_relinked, id⟩, apart⟩

end Relinked

/-- Cutting a record and pasting it wherever the request is accepted keeps the tree a tree. Only the
link of the record changes, as the request says. -/
theorem cut_and_paste_keeps_tree {c : Container} {link : String} {t : Table}
    (tree : c.IsTree t.provider link) (linked : Linked link t.records)
    (rooted : ∀ s ∈ t.records, Rooted link t.records s) {r : Record} (stored : r ∈ t.records)
    {ref : RecordRef} (address : r.ref? = some ref) {earlier clipboard : Clipboard}
    {marked : List RecordRef} (cut : c.cut (.single t) earlier ref = .ok (clipboard, marked))
    {q : PasteRequest} {state : PasteState}
    (accepted : (c.paste (.single t) clipboard q r).result = .ok state) :
    ∃ moved saved front back, (c.paste (.single t) clipboard q r).record = moved ∧
      (Store.single t).save t.provider moved = .ok (ref.id, .single saved) ∧
      t.records = front ++ r :: back ∧ saved.records = front ++ moved :: back ∧
      (∀ s ∈ saved.records, Rooted link saved.records s) ∧
      (∀ name, name ≠ link → moved.get? name = r.get? name) ∧
      Position link t.records q r (moved.int? link) := by
  have own := t.own r stored
  have marks : ∀ s ∈ t.records, AtOrBelow link t.records r s → ∀ here, s.ref? = some here →
      clipboard.isCircular here = true := by
    intro s member below here place
    exact tree.circular_of_cut linked address cut member below place
  obtain ⟨front, back, split⟩ := List.append_of_mem stored
  have others := (split ▸ linked : Linked link (front ++ r :: back)).ne_of_split
  have replaces := linked.hasId_of_ref? stored address
  have has := (Record.ref?_eq_some address).2
  have first : ∀ s ∈ front, s.hasId ref.id = false := by
    intro s before
    rw [Bool.eq_false_iff]
    intro hasId
    have member : s ∈ t.records := by
      rw [split]
      exact List.mem_append_left _ before
    exact others s (List.mem_append_left _ before)
      (linked.eq_of_hasId member stored address hasId)
  rcases tree.paste_safe linked rooted own marks accepted with
    ⟨unmoved, position⟩ | ⟨i, written, safe, position⟩
  · obtain ⟨saved, save, _, records⟩ := Store.save_single split own has replaces first
    refine ⟨r, saved, front, back, unmoved, save, split, records, ?_, fun _ _ => rfl, position⟩
    rw [records, ← split]
    exact rooted
  · have owned : (r.set link (.int i)).provider = t.provider := own
    have hasToo : (r.set link (.int i)).id? = some ref.id := (id?_relinked tree.link_ne_id).trans has
    obtain ⟨saved, save, _, records⟩ := Store.save_single split owned hasToo replaces first
    rw [split] at rooted safe
    have stillRooted := all_rooted_of_safe rooted others tree.link_ne_id safe
    refine ⟨r.set link (.int i), saved, front, back, written, save, split, records, ?_, ?_, ?_⟩
    · rw [records]
      exact stillRooted
    · intro name ne
      exact get?_relinked ne
    · rw [int?_relinked]
      exact position

/-- Page 2 is cut together with page 3 below it and pasted into page 4. -/
theorem cut_and_paste_page :
    ∃ clipboard : Clipboard,
      pageContainer.cut (.single pageTable) {} (pageRef 2) =
          .ok (clipboard, [pageRef 2, pageRef 3]) ∧
        (pageContainer.paste (.single pageTable) clipboard { into := some "page::4" }
            (page 2 1)).result = .ok (.related (some (pageRef 4))) ∧
        ∃ moved saved front back,
          (pageContainer.paste (.single pageTable) clipboard { into := some "page::4" }
            (page 2 1)).record = moved ∧
          (Store.single pageTable).save "page" moved = .ok (.int 2, .single saved) ∧
          pageTable.records = front ++ page 2 1 :: back ∧
          saved.records = front ++ moved :: back ∧
          (∀ s ∈ saved.records, Rooted "pid" saved.records s) ∧
          (∀ name, name ≠ "pid" → moved.get? name = (page 2 1).get? name) ∧
          Position "pid" pageTable.records { into := some "page::4" } (page 2 1)
            (moved.int? "pid") := by
  have ne : "pid" ≠ Record.idProperty := by decide
  have linked : Linked "pid" pageTable.records :=
    Table.linked_nodes ne (by decide) (by decide) (by decide)
  have rooted : ∀ s ∈ pageTable.records, Rooted "pid" pageTable.records s :=
    Table.rooted_nodes ne (by decide)
  have stored : page 2 1 ∈ pageTable.records := Table.mem_nodes (by decide)
  have below : ((pageContainer.childrenOf (.single pageTable) (page 2 1) none).toOption.map
      (·.filterMap Record.ref?)) = some [pageRef 3] := by decide +kernel
  have leaf : ((pageContainer.childrenOf (.single pageTable) (page 3 2) none).toOption.map
      (·.filterMap Record.ref?)) = some [] := by decide +kernel
  obtain ⟨_, first, children⟩ := eq_ok_of_toOption below
  obtain ⟨_, second, none⟩ := eq_ok_of_toOption leaf
  have cut : pageContainer.cut (.single pageTable) {} (pageRef 2) =
      .ok (({} : Clipboard).pushCut (pageRef 2) [pageRef 2, pageRef 3],
        [pageRef 2, pageRef 3]) := by
    unfold Container.cut Container.descendants
    rw [Container.descend_found (by decide) rfl first, children, List.nil_append,
      Container.descend_found (by decide) rfl second, none, List.nil_append, Container.descend]
    rfl
  have run : ((pageContainer.paste (.single pageTable)
      (({} : Clipboard).pushCut (pageRef 2) [pageRef 2, pageRef 3]) { into := some "page::4" }
        (page 2 1)).result).toOption.map id = some (.related (some (pageRef 4))) := by
    decide +kernel
  obtain ⟨_, accepted, rfl⟩ := eq_ok_of_toOption run
  exact ⟨_, cut, accepted, cut_and_paste_keeps_tree (Container.isTree_tree "page" ne) linked rooted
    stored rfl cut accepted⟩

end RecordEditing
