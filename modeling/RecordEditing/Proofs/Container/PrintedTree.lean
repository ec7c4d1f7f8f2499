import RecordEditing.Command.Basic
import RecordEditing.Proofs.Container.Selection
import RecordEditing.Proofs.Store.FiniteMap

/-!
The printed tree. Its shape is that of the data: a record that is listed for the first time is
followed by its children, each with all that belongs to it, and a record that is met again is only
marked. Which records are marked depends on the order of the walk, but not which are listed: an
address is left out nowhere, since the first line that has it is followed wherever it stands. A
record without an address is listed and never followed.
-/
namespace RecordEditing

/-- The address that is listed here for the first time. -/
def OutlineLine.opens? (line : OutlineLine) : Option RecordRef :=
  if line.repeated then none else line.record.ref?

theorem OutlineLine.ref?_of_opens {line : OutlineLine} {ref : RecordRef}
    (opens : line.opens? = some ref) : line.record.ref? = some ref := by
  unfold opens? at opens
  split at opens
  · cases opens
  · exact opens

def Store.Distinct (s : Store) : Prop := ∀ t ∈ s.tables, t.ids.Nodup

namespace Container

/-- The lines stand for the records on the stack, in order. After a record that has an address and
is not marked stand the lines of its children, one level deeper. -/
inductive Drawn (c : Container) (store : Store) : List (Nat × Record) → List OutlineLine → Prop where
  | nil : Drawn c store [] []
  | nameless {depth r stack lines} : r.ref? = none → Drawn c store stack lines →
      Drawn c store ((depth, r) :: stack) (⟨depth, r, false⟩ :: lines)
  | marked {depth r stack lines ref} : r.ref? = some ref → Drawn c store stack lines →
      Drawn c store ((depth, r) :: stack) (⟨depth, r, true⟩ :: lines)
  | opened {depth r stack lines ref children below} : r.ref? = some ref →
      c.childrenOf store r none = .ok children →
      Drawn c store (children.map (depth + 1, ·)) below → Drawn c store stack lines →
      Drawn c store ((depth, r) :: stack) (⟨depth, r, false⟩ :: (below ++ lines))

/-- The records that belong to the tree: the tops and the children of all that have an address. -/
inductive Belongs (c : Container) (store : Store) (tops : List Record) : Record → Prop where
  | top {r} : r ∈ tops → Belongs c store tops r
  | child {r ref children child} : Belongs c store tops r → r.ref? = some ref →
      c.childrenOf store r none = .ok children → child ∈ children → Belongs c store tops child

/-- The children of the record can be looked up, if they are to be listed at all. -/
def Expandable (c : Container) (store : Store) (r : Record) : Prop :=
  ∀ ref, r.ref? = some ref → ∃ children, c.childrenOf store r none = .ok children

variable {c : Container} {store : Store} {seen : List RecordRef} {stack : List (Nat × Record)}
  {lines : List OutlineLine} {tops : List Record}

theorem Drawn.split {xs ys : List (Nat × Record)} (drawn : Drawn c store (xs ++ ys) lines) :
    ∃ front back, lines = front ++ back ∧ Drawn c store xs front ∧ Drawn c store ys back := by
  induction xs generalizing lines with
  | nil => exact ⟨[], lines, rfl, .nil, drawn⟩
  | cons e xs ih =>
    cases drawn with
    | nameless address rest =>
      obtain ⟨front, back, rfl, first, second⟩ := ih rest
      exact ⟨_, back, rfl, .nameless address first, second⟩
    | marked address rest =>
      obtain ⟨front, back, rfl, first, second⟩ := ih rest
      exact ⟨_, back, rfl, .marked address first, second⟩
    | opened address below inner rest =>
      obtain ⟨front, back, rfl, first, second⟩ := ih rest
      refine ⟨_, back, ?_, .opened address below inner first, second⟩
      simp only [List.cons_append, List.append_assoc]

theorem belongs_tops (c : Container) (store : Store) (tops : List Record) :
    ∀ e ∈ tops.map ((0 : Nat), ·), Belongs c store tops e.2 := by
  intro e member
  obtain ⟨r, among, rfl⟩ := List.mem_map.mp member
  exact .top among

theorem Belongs.children {r : Record} {ref : RecordRef} {children : List Record}
    (here : Belongs c store tops r) (address : r.ref? = some ref)
    (below : c.childrenOf store r none = .ok children) (depth : Nat) :
    ∀ e ∈ children.map (depth, ·), Belongs c store tops e.2 := by
  intro e member
  obtain ⟨child, among, rfl⟩ := List.mem_map.mp member
  exact .child here address below among

theorem outlineFrom_nameless {depth : Nat} {r : Record} (nameless : r.ref? = none) :
    c.outlineFrom store seen ((depth, r) :: stack) =
      .cons ⟨depth, r, false⟩ (c.outlineFrom store seen stack) := by
  rw [outlineFrom]
  split
  · rfl
  · next ref address =>
    rw [nameless] at address
    cases address

theorem drawn_of_outlineFrom (done : (c.outlineFrom store seen stack).failure = none) :
    Drawn c store stack (c.outlineFrom store seen stack).lines := by
  fun_induction outlineFrom c store seen stack with
  | case1 => exact .nil
  | case2 seen depth r stack address ih => exact .nameless address (ih done)
  | case3 seen depth r stack ref address known ih => exact .marked address (ih done)
  | case4 seen depth r stack ref address new e failed => cases done
  | case5 seen depth r stack ref address new children below ih =>
    obtain ⟨front, back, split, inner, rest⟩ := (ih done).split
    change Drawn c store _ (_ :: (outlineFrom c store (ref :: seen) _).lines)
    rw [split]
    exact .opened address below inner rest

theorem outlineFrom_done (within : ∀ e ∈ stack, Belongs c store tops e.2)
    (expandable : ∀ r, Belongs c store tops r → Expandable c store r) :
    (c.outlineFrom store seen stack).failure = none := by
  fun_induction outlineFrom c store seen stack with
  | case1 => rfl
  | case2 seen depth r stack address ih => exact ih (List.forall_mem_cons.mp within).2
  | case3 seen depth r stack ref address known ih => exact ih (List.forall_mem_cons.mp within).2
  | case4 seen depth r stack ref address new e failed =>
    obtain ⟨children, below⟩ := expandable r (List.forall_mem_cons.mp within).1 ref address
    rw [failed] at below
    cases below
  | case5 seen depth r stack ref address new children below ih =>
    obtain ⟨here, later⟩ := List.forall_mem_cons.mp within
    exact ih (List.forall_mem_append.mpr ⟨here.children address below (depth + 1), later⟩)

theorem opens_once (c : Container) (store : Store) (seen : List RecordRef)
    (stack : List (Nat × Record)) :
    ((c.outlineFrom store seen stack).lines.filterMap OutlineLine.opens?).Nodup ∧
      ∀ a ∈ (c.outlineFrom store seen stack).lines.filterMap OutlineLine.opens?, a ∉ seen := by
  fun_induction outlineFrom c store seen stack with
  | case1 => simp [Outline.empty]
  | case2 seen depth r stack address ih =>
    simpa [Outline.cons, OutlineLine.opens?, address] using ih
  | case3 seen depth r stack ref address known ih =>
    simpa [Outline.cons, OutlineLine.opens?, address] using ih
  | case4 seen depth r stack ref address new e failed =>
    simpa [OutlineLine.opens?, address] using new
  | case5 seen depth r stack ref address new children below ih =>
    have head : OutlineLine.opens? ⟨depth, r, false⟩ = some ref := address
    simp only [Outline.cons, List.filterMap_cons_some head, List.nodup_cons, List.forall_mem_cons]
    refine ⟨⟨fun again => ih.2 ref again List.mem_cons_self, ih.1⟩, new, ?_⟩
    exact fun a member old => ih.2 a member (List.mem_cons_of_mem ref old)

theorem seen_or_opened {line : OutlineLine} {a : RecordRef}
    (member : line ∈ (c.outlineFrom store seen stack).lines) (named : line.record.ref? = some a) :
    a ∈ seen ∨ a ∈ (c.outlineFrom store seen stack).lines.filterMap OutlineLine.opens? := by
  fun_induction outlineFrom c store seen stack with
  | case1 => cases member
  | case2 seen depth r stack address ih =>
    rcases List.mem_cons.mp member with rfl | later
    · rw [address] at named
      cases named
    · simpa [Outline.cons, OutlineLine.opens?, address] using ih later
  | case3 seen depth r stack ref address known ih =>
    rcases List.mem_cons.mp member with rfl | later
    · obtain rfl : ref = a := Option.some.inj (address.symm.trans named)
      exact Or.inl known
    · simpa [Outline.cons, OutlineLine.opens?, address] using ih later
  | case4 seen depth r stack ref address new e failed =>
    obtain rfl := List.mem_singleton.mp member
    simpa [OutlineLine.opens?] using Or.inr named
  | case5 seen depth r stack ref address new children below ih =>
    have head : OutlineLine.opens? ⟨depth, r, false⟩ = some ref := address
    simp only [Outline.cons, List.filterMap_cons_some head, List.mem_cons]
    rcases List.mem_cons.mp member with rfl | later
    · exact Or.inr (Or.inl (Option.some.inj (named.symm.trans address)))
    · rcases ih later with old | opened
      · rcases List.mem_cons.mp old with same | before
        · exact Or.inr (Or.inl same)
        · exact Or.inl before
      · exact Or.inr (Or.inr opened)

theorem Drawn.sublist (drawn : Drawn c store stack lines) :
    (stack.map (·.2)).Sublist (lines.map OutlineLine.record) := by
  induction drawn with
  | nil => exact .slnil
  | nameless address rest ih => exact ih.cons_cons _
  | marked address rest ih => exact ih.cons_cons _
  | opened address below inner rest ihInner ih =>
    rw [List.map_cons, List.map_cons, List.map_append]
    exact (ih.trans (List.sublist_append_right _ _)).cons_cons _

theorem Drawn.mem (drawn : Drawn c store stack lines) {e : Nat × Record} (member : e ∈ stack) :
    ∃ line ∈ lines, line.record = e.2 :=
  List.mem_map.mp (drawn.sublist.subset (List.mem_map.mpr ⟨e, member, rfl⟩))

theorem Drawn.belongs (drawn : Drawn c store stack lines)
    (within : ∀ e ∈ stack, Belongs c store tops e.2) :
    ∀ line ∈ lines, Belongs c store tops line.record := by
  induction drawn with
  | nil => exact fun line member => absurd member List.not_mem_nil
  | nameless address rest ih =>
    obtain ⟨here, later⟩ := List.forall_mem_cons.mp within
    exact List.forall_mem_cons.mpr ⟨here, ih later⟩
  | marked address rest ih =>
    obtain ⟨here, later⟩ := List.forall_mem_cons.mp within
    exact List.forall_mem_cons.mpr ⟨here, ih later⟩
  | opened address below inner rest ihInner ih =>
    obtain ⟨here, later⟩ := List.forall_mem_cons.mp within
    have inside := ihInner (here.children address below _)
    exact List.forall_mem_cons.mpr ⟨here, List.forall_mem_append.mpr ⟨inside, ih later⟩⟩

/-- What stands after a line that opens an address: the lines of the children. -/
def Followed (c : Container) (store : Store) (line : OutlineLine) (back : List OutlineLine) : Prop :=
  ∃ children below after, c.childrenOf store line.record none = .ok children ∧
    back = below ++ after ∧ Drawn c store (children.map (line.depth + 1, ·)) below

theorem Followed.append {line : OutlineLine} {back : List OutlineLine}
    (followed : Followed c store line back) (more : List OutlineLine) :
    Followed c store line (back ++ more) := by
  obtain ⟨children, below, after, found, rfl, drawn⟩ := followed
  exact ⟨children, below, after ++ more, found, List.append_assoc _ _ _, drawn⟩

theorem Drawn.followed (drawn : Drawn c store stack lines) {front back : List OutlineLine}
    {line : OutlineLine} {ref : RecordRef} (split : lines = front ++ line :: back)
    (opens : line.opens? = some ref) : Followed c store line back := by
  induction drawn generalizing front back with
  | nil => cases (List.append_eq_nil_iff.mp split.symm).2
  | nameless address rest ih =>
    cases front with
    | nil =>
      obtain ⟨rfl, rfl⟩ := List.cons.inj split
      rw [OutlineLine.opens?, if_neg Bool.false_ne_true, address] at opens
      cases opens
    | cons first front => exact ih (List.cons.inj split).2
  | marked address rest ih =>
    cases front with
    | nil =>
      obtain ⟨rfl, rfl⟩ := List.cons.inj split
      cases opens
    | cons first front => exact ih (List.cons.inj split).2
  | opened address below inner rest ihInner ih =>
    cases front with
    | nil =>
      obtain ⟨rfl, rfl⟩ := List.cons.inj split
      exact ⟨_, _, _, below, rfl, inner⟩
    | cons first front =>
      -- The line stands among those of the children or after them.
      rcases List.append_eq_append_iff.mp (List.cons.inj split).2 with
        ⟨between, _, after⟩ | ⟨between, inside, after⟩
      · exact ih after
      · cases between with
        | nil => exact ih (show _ = [] ++ _ :: _ from after.symm)
        | cons other between =>
          obtain ⟨rfl, rfl⟩ := List.cons.inj after
          exact (ihInner inside).append _

theorem eq_of_ref? {r s : Record} {ref : RecordRef} (distinct : store.Distinct)
    (first : r ∈ store.recordsOf r.provider) (second : s ∈ store.recordsOf s.provider)
    (left : r.ref? = some ref) (right : s.ref? = some ref) : r = s := by
  obtain ⟨i, id, rfl⟩ := Option.map_eq_some_iff.mp left
  obtain ⟨j, numbered, same⟩ := Option.map_eq_some_iff.mp right
  obtain ⟨provider, rfl⟩ : s.provider = r.provider ∧ j = i := by simpa using same
  rw [provider] at second
  unfold Store.recordsOf at first second
  cases found : store.table? r.provider with
  | none =>
    rw [found] at first
    cases first
  | some t =>
    rw [found] at first second
    exact Table.eq_of_holds (distinct t (List.mem_of_find?_eq_some found)) ⟨first, id⟩ ⟨second, numbered⟩

theorem mem_recordsOf_of_childrenOf {parent : Record} {provider : Option String}
    {children : List Record} (found : c.childrenOf store parent provider = .ok children) :
    ∀ child ∈ children, child ∈ store.recordsOf child.provider := by
  obtain ⟨_, rfl⟩ := childrenOf_eq_ok_iff.mp found
  intro child member
  obtain ⟨k, _, selected⟩ := List.mem_flatMap.mp member
  have stored := (List.mem_filter.mp selected).1
  rw [Store.provider_of_mem_recordsOf stored]
  exact stored

theorem mem_recordsOf_of_recordAt {ref : RecordRef} {r : Record}
    (found : recordAt store ref = .ok (some r)) : r ∈ store.recordsOf r.provider := by
  have looked := recordAt_eq_ok found
  rw [(Store.find?_eq_ok looked).2.1]
  unfold Store.find? Store.table at looked
  unfold Store.recordsOf
  cases known : store.table? ref.provider with
  | none =>
    rw [known] at looked
    cases looked
  | some t =>
    rw [known] at looked
    exact List.mem_of_find?_eq_some (Except.ok.inj looked)

theorem mem_recordsOf_of_tops (found : c.tops store = .ok tops) :
    ∀ r ∈ tops, r ∈ store.recordsOf r.provider := by
  unfold Container.tops at found
  split at found
  · split at found
    · cases found
    · obtain ⟨_, rfl⟩ := fetchAll_eq_ok_iff.mp found
      intro r member
      have stored := (List.mem_filter.mp member).1
      rw [Store.provider_of_mem_recordsOf stored]
      exact stored
  · obtain ⟨refs, _, rest⟩ := bind_eq_ok found
    obtain ⟨looked, each, same⟩ := bind_eq_ok rest
    cases same
    intro r member
    obtain ⟨o, among, rfl⟩ := List.mem_filterMap.mp member
    obtain ⟨ref, _, place⟩ := exists_of_mapM_ok each _ among
    exact mem_recordsOf_of_recordAt place

theorem Belongs.stored {r : Record} (found : c.tops store = .ok tops)
    (belongs : Belongs c store tops r) : r ∈ store.recordsOf r.provider := by
  cases belongs with
  | top member => exact mem_recordsOf_of_tops found r member
  | child above address below member => exact mem_recordsOf_of_childrenOf below _ member

theorem Drawn.covers (drawn : Drawn c store (tops.map (0, ·)) lines) (distinct : store.Distinct)
    (found : c.tops store = .ok tops)
    (opened : ∀ line ∈ lines, ∀ ref, line.record.ref? = some ref →
      ∃ first ∈ lines, first.opens? = some ref)
    {r : Record} (belongs : Belongs c store tops r) : ∃ line ∈ lines, line.record = r := by
  have within := belongs_tops c store tops
  induction belongs with
  | top member => exact drawn.mem (List.mem_map.mpr ⟨_, member, rfl⟩)
  | @child r ref children child above address below member ih =>
    obtain ⟨line, among, rfl⟩ := ih
    obtain ⟨first, listed, opens⟩ := opened line among ref address
    -- The line that opens the address may be another one, but it has the same record.
    have same : first.record = line.record :=
      eq_of_ref? distinct ((drawn.belongs within first listed).stored found) (above.stored found)
        (OutlineLine.ref?_of_opens opens) address
    obtain ⟨front, back, split⟩ := List.append_of_mem listed
    obtain ⟨others, inner, after, answered, rfl, shown⟩ := drawn.followed split opens
    rw [same, below] at answered
    obtain rfl := Except.ok.inj answered
    obtain ⟨lower, there, shows⟩ := shown.mem (List.mem_map.mpr ⟨_, member, rfl⟩)
    exact ⟨lower, split ▸ by simp [there], shows⟩

theorem not_opens_of_nodup {front back : List OutlineLine} {line : OutlineLine} {ref : RecordRef}
    (once : ((front ++ line :: back).filterMap OutlineLine.opens?).Nodup)
    (opens : line.opens? = some ref) : ∀ other ∈ front ++ back, other.opens? ≠ some ref := by
  rw [List.filterMap_append, List.filterMap_cons_some opens, List.nodup_middle,
    ← List.filterMap_append, List.nodup_cons] at once
  exact fun other member again => once.1 (List.mem_filterMap.mpr ⟨other, member, again⟩)

theorem treeLines_eq (label : String) (found : c.tops store = .ok tops)
    (done : (c.outline store tops).failure = none) :
    Command.treeLines c store label =
      ⟨if tops = [] then [indent 1 "no records"]
        else (c.outline store tops).lines.map (OutlineLine.text label), none⟩ := by
  unfold Command.treeLines
  rw [found]
  cases tops with
  | nil => rfl
  | cons top rest =>
    rw [if_neg (List.cons_ne_nil top rest)]
    simp only [done, Option.map_none]

end Container

/-- Where the children of all records of the tree can be looked up, the tree is printed as a whole.
Its lines follow the data from the tops on, and have the addresses of just the records that belong
to it. Each address is on one line that is not marked, and there the children follow. -/
theorem printed_tree_complete {c : Container} {store : Store} {tops : List Record}
    (distinct : store.Distinct) (found : c.tops store = .ok tops)
    (expandable : ∀ r, c.Belongs store tops r → c.Expandable store r) (label : String) :
    ∃ lines, Command.treeLines c store label =
        ⟨if tops = [] then [indent 1 "no records"] else lines.map (OutlineLine.text label), none⟩ ∧
      c.Drawn store (tops.map (0, ·)) lines ∧
      ∀ ref, ((∃ line ∈ lines, line.record.ref? = some ref) ↔
          ∃ r, c.Belongs store tops r ∧ r.ref? = some ref) ∧
        ∀ r, c.Belongs store tops r → r.ref? = some ref →
          ∃ front line back, lines = front ++ line :: back ∧ line.opens? = some ref ∧
            (∀ other ∈ front ++ back, other.opens? ≠ some ref) ∧ c.Followed store line back := by
  have within := c.belongs_tops store tops
  have done : (c.outline store tops).failure = none := Container.outlineFrom_done within expandable
  have drawn : c.Drawn store (tops.map (0, ·)) (c.outline store tops).lines :=
    Container.drawn_of_outlineFrom done
  have once := (Container.opens_once c store [] (tops.map (0, ·))).1
  have opened : ∀ line ∈ (c.outline store tops).lines, ∀ ref, line.record.ref? = some ref →
      ∃ first ∈ (c.outline store tops).lines, first.opens? = some ref := by
    intro line member ref named
    have listed := (Container.seen_or_opened member named).resolve_left List.not_mem_nil
    exact List.mem_filterMap.mp listed
  refine ⟨_, Container.treeLines_eq label found done, drawn, fun ref => ⟨⟨?_, ?_⟩, ?_⟩⟩
  · intro ⟨line, member, named⟩
    exact ⟨line.record, drawn.belongs within line member, named⟩
  · intro ⟨r, belongs, named⟩
    obtain ⟨line, member, rfl⟩ := drawn.covers distinct found opened belongs
    exact ⟨line, member, named⟩
  · intro r belongs named
    obtain ⟨line, member, rfl⟩ := drawn.covers distinct found opened belongs
    obtain ⟨first, listed, opens⟩ := opened line member ref named
    obtain ⟨front, back, split⟩ := List.append_of_mem listed
    refine ⟨front, first, back, split, opens, ?_, drawn.followed split opens⟩
    exact Container.not_opens_of_nodup (split ▸ once) opens

/-- Pages 1 and 2 are below each other, and page 3 is below page 1. -/
def loopTable : Table := .nodes "page" "pid" [(1, 2), (2, 1), (3, 1)]

def loopContainer : Container :=
  { pageContainer with basic := { mode := .flat, dataProvider := "page" } }

theorem printed_tree_complete_loop :
    (Store.single loopTable).Distinct ∧
      loopContainer.tops (.single loopTable) = .ok [page 1 2, page 2 1, page 3 1] ∧
      (∀ r, loopContainer.Belongs (.single loopTable) [page 1 2, page 2 1, page 3 1] r →
        loopContainer.Expandable (.single loopTable) r) ∧
      ∃ lines, Command.treeLines loopContainer (.single loopTable) "title" =
          ⟨lines.map (OutlineLine.text "title"), none⟩ ∧
        ∃ front line back, lines = front ++ line :: back ∧ line.opens? = some (pageRef 1) ∧
          (∀ other ∈ front ++ back, other.opens? ≠ some (pageRef 1)) ∧
          loopContainer.Followed (.single loopTable) line back := by
  have distinct : (Store.single loopTable).Distinct := by
    intro t listed
    obtain rfl := List.mem_singleton.mp listed
    decide +kernel
  have found : loopContainer.tops (.single loopTable) = .ok [page 1 2, page 2 1, page 3 1] := rfl
  have expandable : ∀ r,
      loopContainer.Belongs (.single loopTable) [page 1 2, page 2 1, page 3 1] r →
      loopContainer.Expandable (.single loopTable) r := by
    intro r _ ref _
    refine ⟨_, Container.childrenOf_eq_ok_iff.mpr ⟨?_, rfl⟩⟩
    intro k member
    rw [Container.childConditions_eq] at member
    obtain rfl := List.mem_singleton.mp (List.mem_filter.mp member).1
    exact ⟨⟨_, rfl⟩, rfl⟩
  obtain ⟨lines, printed, _, each⟩ := printed_tree_complete distinct found expandable "title"
  exact ⟨distinct, found, expandable, lines, printed,
    (each (pageRef 1)).2 (page 1 2) (.top List.mem_cons_self) rfl⟩

def aliasConfig : ContainerConfig where
  name := "content"
  basic := { mode := .parented, dataProvider := "content", parentProvider := some "page" }
  relations := { children := [{
    source := "page"
    destination := "content"
    filter := [.link .equals "alias" "page"]
    setters := [{ target := some "page", source := some "alias" }] }] }

def namelessPage : Record := (Record.empty "page").set "alias" (.str "home")

def homeContent : Record :=
  ((Record.empty "content").set Record.idProperty (.int 5)).set "page" (.str "home")

def aliasStore : Store where
  tables := [
    { provider := "content"
      records := [homeContent]
      own := by
        intro r member
        rw [List.mem_singleton.mp member]
        rfl },
    { provider := "page"
      records := [namelessPage]
      own := by
        intro r member
        rw [List.mem_singleton.mp member]
        rfl }]

/-- The page has no id, so that its content is not listed, although it has one. -/
theorem nameless_top_not_followed :
    aliasConfig.compile = .ok aliasConfig.unchecked ∧ aliasStore.Distinct ∧
      aliasConfig.unchecked.tops aliasStore = .ok [namelessPage] ∧
      aliasConfig.unchecked.childrenOf aliasStore namelessPage none = .ok [homeContent] ∧
      aliasConfig.unchecked.childrenOf aliasStore homeContent none = .ok [] ∧
      homeContent.ref? = some ⟨"content", .int 5⟩ ∧
      Command.treeLines aliasConfig.unchecked aliasStore "title" =
        ⟨["  <record without id>"], none⟩ := by
  have compiled : aliasConfig.compile = .ok aliasConfig.unchecked :=
    ContainerConfig.compile_of_validate rfl (by rfl)
  have distinct : aliasStore.Distinct := by
    unfold Store.Distinct
    decide +kernel
  have found : aliasConfig.unchecked.tops aliasStore = .ok [namelessPage] := rfl
  have drawn : aliasConfig.unchecked.outline aliasStore [namelessPage] =
      ⟨[⟨0, namelessPage, false⟩], none⟩ := by
    rw [Container.outline, List.map_cons, Container.outlineFrom_nameless rfl, List.map_nil,
      Container.outlineFrom]
    rfl
  refine ⟨compiled, distinct, found, rfl, rfl, rfl, ?_⟩
  rw [Container.treeLines_eq "title" found (by rw [drawn]), drawn]
  rfl

end RecordEditing
