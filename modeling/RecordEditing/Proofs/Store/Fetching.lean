import RecordEditing.Proofs.Store.StableSort
import RecordEditing.Proofs.Value.Order
import RecordEditing.Store.Table

/-!
What a table fetches. Where the values of every sort key are all numeric, or all texts that stand for
no number, only one list has the records found in the order of the keys with those that no key tells
apart as they are stored. That list is fetched, a limit cuts it, and its head is the first record.
-/
namespace RecordEditing

/-- Every record has the property, with numeric values only or with other texts only. -/
def Uniform (property : String) (records : List Record) : Prop :=
  (∀ r ∈ records, ∃ v, r.get? property = some v ∧ (numeric? v).isSome) ∨
    ∀ r ∈ records, ∃ s, r.get? property = some (.str s) ∧ numericText? s = none

def BelowAt (property : String) (a b : Record) : Prop :=
  ∃ v w, a.get? property = some v ∧ b.get? property = some w ∧ v.Below w

def LevelAt (property : String) (a b : Record) : Prop :=
  ∃ v w, a.get? property = some v ∧ b.get? property = some w ∧ v.Level w

theorem order?_get?_eq_lt_iff {property : String} {a b : Record} :
    order? (a.get? property) (b.get? property) = some .lt ↔ BelowAt property a b := by
  simp only [order?_eq_some_iff, Json.order?_eq_lt_iff, BelowAt]

theorem order?_get?_eq_eq_iff {property : String} {a b : Record} :
    order? (a.get? property) (b.get? property) = some .eq ↔ LevelAt property a b := by
  simp only [order?_eq_some_iff, Json.order?_eq_eq_iff, LevelAt]

instance (property : String) (a b : Record) : Decidable (LevelAt property a b) :=
  decidable_of_iff _ order?_get?_eq_eq_iff

def Ahead : String × Direction → Record → Record → Prop
  | (property, .ascending), a, b => BelowAt property a b
  | (property, .descending), a, b => BelowAt property b a

def Alike (keys : List (String × Direction)) (a b : Record) : Prop :=
  ∀ key ∈ keys, LevelAt key.1 a b

instance (keys : List (String × Direction)) (a b : Record) : Decidable (Alike keys a b) :=
  inferInstanceAs (Decidable (∀ key ∈ keys, LevelAt key.1 a b))

/-- The first key that tells the records apart puts the first one ahead. -/
def Precedes (keys : List (String × Direction)) (a b : Record) : Prop :=
  ∃ front key back, keys = front ++ key :: back ∧ Alike front a b ∧ Ahead key a b

/-- The records found, each as often as it was found, in the order of the keys, and those that are
alike as they were found. -/
structure Arranged (keys : List (String × Direction)) (found arranged : List Record) : Prop where
  perm : arranged.Perm found
  ordered : arranged.Pairwise fun a b => Precedes keys a b ∨ Alike keys a b
  steady : ∀ r ∈ found, arranged.filter (Alike keys r) = found.filter (Alike keys r)

def numberAt (property : String) (r : Record) : Int :=
  ((r.get? property).bind numeric?).elim 0 Binary64.value

def textAt (property : String) (r : Record) : String :=
  match r.get? property with
  | some (.str s) => s
  | _ => ""

theorem Uniform.exists_order {property : String} {records : List Record}
    (uniform : Uniform property records) :
    ∃ cmp : Record → Record → Ordering, Std.TransCmp cmp ∧
      ∀ a ∈ records, ∀ b ∈ records,
        order? (a.get? property) (b.get? property) = some (cmp a b) := by
  rcases uniform with numbers | texts
  · refine ⟨compareOn (numberAt property), inferInstance, ?_⟩
    intro a member b present
    obtain ⟨v, has, numeric⟩ := numbers a member
    obtain ⟨w, holds, countable⟩ := numbers b present
    obtain ⟨x, stands⟩ := Option.isSome_iff_exists.mp numeric
    obtain ⟨y, reads⟩ := Option.isSome_iff_exists.mp countable
    simp only [order?, Json.order?, compareOn, numberAt, has, holds, stands, reads,
      Option.bind_some, Option.elim_some, Binary64.order]
  · refine ⟨compareOn (textAt property), inferInstance, ?_⟩
    intro a member b present
    obtain ⟨s, has, plain⟩ := texts a member
    obtain ⟨u, holds, _⟩ := texts b present
    simp only [order?, Json.order?, compareOn, textAt, has, holds, numeric?, plain]

def byKey : String × Direction → Record → Record → Ordering
  | (property, .ascending), a, b => (order? (a.get? property) (b.get? property)).getD .eq
  | (property, .descending), a, b => ((order? (a.get? property) (b.get? property)).getD .eq).swap

theorem byKey_eq_lt_iff {key : String × Direction} {a b : Record} :
    byKey key a b = .lt ↔ Ahead key a b := by
  obtain ⟨property, direction⟩ := key
  cases direction with
  | ascending =>
    rw [Ahead, ← order?_get?_eq_lt_iff, byKey]
    rcases order? (a.get? property) (b.get? property) with _ | place
    · decide
    · cases place <;> decide
  | descending =>
    rw [Ahead, ← order?_get?_eq_lt_iff, order?_swap, byKey]
    rcases order? (a.get? property) (b.get? property) with _ | place
    · decide
    · cases place <;> decide

theorem byKey_eq_eq_iff {key : String × Direction} {a b : Record}
    (compared : (order? (a.get? key.1) (b.get? key.1)).isSome) :
    byKey key a b = .eq ↔ LevelAt key.1 a b := by
  obtain ⟨property, direction⟩ := key
  obtain ⟨place, here⟩ := Option.isSome_iff_exists.mp compared
  rw [← order?_get?_eq_eq_iff, here]
  cases direction <;> rw [byKey, here] <;> cases place <;> decide

theorem sortOrder_cons (key : String × Direction) (keys : List (String × Direction))
    (a b : Record) : sortOrder (key :: keys) a b = (byKey key a b).then (sortOrder keys a b) := by
  have first : sortOrder (key :: keys) a b =
      if byKey key a b = .eq then sortOrder keys a b else byKey key a b := by
    obtain ⟨property, direction⟩ := key
    cases direction <;> rfl
  rw [first]
  cases byKey key a b <;> rfl

theorem precedes_cons {key : String × Direction} {keys : List (String × Direction)}
    {a b : Record} : Precedes (key :: keys) a b ↔
      Ahead key a b ∨ LevelAt key.1 a b ∧ Precedes keys a b := by
  constructor
  · rintro ⟨front, first, back, split, alike, ahead⟩
    cases front with
    | nil =>
      obtain ⟨rfl, _⟩ := List.cons.inj split
      exact Or.inl ahead
    | cons other front =>
      obtain ⟨rfl, rest⟩ := List.cons.inj split
      obtain ⟨same, later⟩ := List.forall_mem_cons.mp alike
      exact Or.inr ⟨same, front, first, back, rest, later, ahead⟩
  · rintro (ahead | ⟨same, front, first, back, rfl, alike, ahead⟩)
    · exact ⟨[], key, keys, rfl, nofun, ahead⟩
    · exact ⟨key :: front, first, back, rfl, List.forall_mem_cons.mpr ⟨same, alike⟩, ahead⟩

theorem sortOrder_eq_eq_iff {keys : List (String × Direction)} {a b : Record}
    (compared : ∀ key ∈ keys, (order? (a.get? key.1) (b.get? key.1)).isSome) :
    sortOrder keys a b = .eq ↔ Alike keys a b := by
  induction keys with
  | nil => exact iff_of_true rfl nofun
  | cons key keys ih =>
    obtain ⟨here, later⟩ := List.forall_mem_cons.mp compared
    rw [sortOrder_cons, Ordering.then_eq_eq, byKey_eq_eq_iff here, ih later, Alike, Alike,
      List.forall_mem_cons]

theorem sortOrder_eq_lt_iff {keys : List (String × Direction)} {a b : Record}
    (compared : ∀ key ∈ keys, (order? (a.get? key.1) (b.get? key.1)).isSome) :
    sortOrder keys a b = .lt ↔ Precedes keys a b := by
  induction keys with
  | nil =>
    apply iff_of_false nofun
    rintro ⟨front, key, back, split, _⟩
    cases front <;> cases split
  | cons key keys ih =>
    obtain ⟨here, later⟩ := List.forall_mem_cons.mp compared
    rw [sortOrder_cons, Ordering.then_eq_lt, precedes_cons, byKey_eq_lt_iff, byKey_eq_eq_iff here,
      ih later]

instance : Std.TransCmp (sortOrder []) where
  eq_swap := rfl
  isLE_trans _ _ := rfl

theorem exists_sortOrder {keys : List (String × Direction)} {records : List Record}
    (sortable : ∀ key ∈ keys, Uniform key.1 records) :
    ∃ cmp : Record → Record → Ordering, Std.TransCmp cmp ∧
      ∀ a ∈ records, ∀ b ∈ records, sortOrder keys a b = cmp a b := by
  induction keys with
  | nil => exact ⟨sortOrder [], inferInstance, fun _ _ _ _ => rfl⟩
  | cons key keys ih =>
    obtain ⟨here, later⟩ := List.forall_mem_cons.mp sortable
    obtain ⟨first, _, byFirst⟩ := here.exists_order
    obtain ⟨rest, _, byRest⟩ := ih later
    obtain ⟨property, direction⟩ := key
    cases direction with
    | ascending =>
      refine ⟨compareLex first rest, inferInstance, ?_⟩
      intro a member b present
      rw [sortOrder_cons, byRest a member b present, byKey, byFirst a member b present]
      rfl
    | descending =>
      have turned : Std.TransCmp fun a b => first b a := Std.TransCmp.opposite
      refine ⟨compareLex (fun a b => first b a) rest, inferInstance, ?_⟩
      intro a member b present
      have swapped : first b a = (first a b).swap := Std.OrientedCmp.eq_swap
      rw [sortOrder_cons, byRest a member b present, byKey, byFirst a member b present]
      change _ = (first b a).then (rest a b)
      rw [swapped]
      rfl

theorem sortOrder_isLE_iff {keys : List (String × Direction)} {a b : Record}
    (compared : ∀ key ∈ keys, (order? (a.get? key.1) (b.get? key.1)).isSome) :
    (sortOrder keys a b).isLE = true ↔ Precedes keys a b ∨ Alike keys a b := by
  rw [← sortOrder_eq_lt_iff compared, ← sortOrder_eq_eq_iff compared]
  cases sortOrder keys a b <;> decide

theorem compared_of_sortable {keys : List (String × Direction)} {records : List Record}
    (sortable : ∀ key ∈ keys, Uniform key.1 records) {a b : Record} (member : a ∈ records)
    (present : b ∈ records) : ∀ key ∈ keys, (order? (a.get? key.1) (b.get? key.1)).isSome := by
  intro key listed
  obtain ⟨cmp, _, byValue⟩ := (sortable key listed).exists_order
  rw [byValue a member b present]
  rfl

theorem arranged_iff_stablySorted {keys : List (String × Direction)}
    {found arranged : List Record} (sortable : ∀ key ∈ keys, Uniform key.1 found)
    {cmp : Record → Record → Ordering}
    (agree : ∀ a ∈ found, ∀ b ∈ found, sortOrder keys a b = cmp a b) :
    Arranged keys found arranged ↔ StablySorted cmp found arranged := by
  have filtered : ∀ r ∈ found, ∀ records : List Record, (∀ a ∈ records, a ∈ found) →
      records.filter (Alike keys r) = records.filter (cmp r · == .eq) := by
    intro r member records among
    apply List.filter_congr
    intro a there
    rw [Bool.eq_iff_iff, beq_iff_eq, decide_eq_true_iff, ← agree r member a (among a there),
      sortOrder_eq_eq_iff (compared_of_sortable sortable member (among a there))]
  have ordered : arranged.Perm found →
      ((arranged.Pairwise fun a b => Precedes keys a b ∨ Alike keys a b) ↔
        arranged.Pairwise fun a b => (cmp a b).isLE = true) := by
    intro perm
    apply List.Pairwise.iff_of_mem
    intro a b here there
    have member := perm.mem_iff.mp here
    have present := perm.mem_iff.mp there
    rw [← agree a member b present,
      sortOrder_isLE_iff (compared_of_sortable sortable member present)]
  have steady : arranged.Perm found →
      ((∀ r ∈ found, arranged.filter (Alike keys r) = found.filter (Alike keys r)) ↔
        ∀ r ∈ found, arranged.filter (cmp r · == .eq) = found.filter (cmp r · == .eq)) := by
    intro perm
    apply forall₂_congr
    intro r member
    rw [filtered r member arranged fun a => perm.mem_iff.mp, filtered r member found fun _ => id]
  constructor
  · rintro ⟨perm, inOrder, kept⟩
    exact ⟨perm, (ordered perm).mp inOrder, (steady perm).mp kept⟩
  · rintro ⟨perm, inOrder, kept⟩
    exact ⟨perm, (ordered perm).mpr inOrder, (steady perm).mpr kept⟩

theorem arranged_iff {keys : List (String × Direction)} {found arranged : List Record}
    (sortable : ∀ key ∈ keys, Uniform key.1 found) :
    Arranged keys found arranged ↔
      arranged = insertionSort (sortOrder keys · · == .lt) found := by
  obtain ⟨cmp, _, agree⟩ := exists_sortOrder sortable
  have sorts : insertionSort (sortOrder keys · · == .lt) found =
      insertionSort (cmp · · == .lt) found := by
    apply insertionSort_congr
    intro a member b present
    rw [agree a member b present]
  rw [sorts, arranged_iff_stablySorted sortable agree, stablySorted_iff]

theorem fetch_unlimited (t : Table) (q : Query) :
    t.fetch { q with limit := none } = insertionSort (sortOrder q.sorting · · == .lt)
      (t.records.filter (matchesFilter q.filter)) := by
  change (if q.sorting.isEmpty then t.records.filter (matchesFilter q.filter) else _) = _
  split
  · next unsorted =>
    rw [List.isEmpty_iff.mp unsorted]
    exact stablySorted_iff.mp ⟨.refl _, List.pairwise_of_forall fun _ _ => rfl, fun _ _ => rfl⟩
  · rfl

/-- The records that satisfy all rules are fetched in the order of the keys and else as they are
stored, nothing but this list is so, and limits only cut it. -/
theorem fetch_arranged {t : Table} {q : Query}
    (sortable : ∀ key ∈ q.sorting, Uniform key.1 (t.records.filter (matchesFilter q.filter))) :
    (∀ arranged, Arranged q.sorting (t.records.filter (matchesFilter q.filter)) arranged ↔
      t.fetch { q with limit := none } = arranged) ∧
    (∀ n, t.fetch { q with limit := some n } = (t.fetch { q with limit := none }).take n) ∧
    t.fetchFirst? q = (t.fetch { q with limit := none }).head? := by
  refine ⟨?_, fun _ => rfl, ?_⟩
  · intro arranged
    rw [arranged_iff sortable, fetch_unlimited]
    exact eq_comm
  · exact List.head?_take

def rankedNote (id : Int) (rank : Json) (title : String) : Record :=
  ⟨"note", [("id", .int id), ("rank", rank), ("shown", .bool true), ("title", .str title)]⟩

def rankedNotes : Table := .ofRecords "note"
  [rankedNote 1 (.str "9") "Zebra", rankedNote 2 (.int 9) "Acorn", ⟨"note", [("id", .int 3)]⟩,
    rankedNote 4 (.str " 10.0") "Birch", rankedNote 5 (.int 10) "Birch"]

def byRank : Query where
  filter := [.equals "shown" (.bool true)]
  sorting := [("rank", .descending), ("title", .ascending)]
  limit := some 0

/-- Ranks are numbers and texts here, and one note has neither rank nor title but is not shown. -/
theorem fetch_arranged_by_rank :
    (∀ key ∈ byRank.sorting,
      Uniform key.1 (rankedNotes.records.filter (matchesFilter byRank.filter))) ∧
    Arranged byRank.sorting (rankedNotes.records.filter (matchesFilter byRank.filter))
      (rankedNotes.fetch { byRank with limit := none }) ∧
    (rankedNotes.fetch { byRank with limit := none }).map Record.id? =
      [some (.int 4), some (.int 5), some (.int 2), some (.int 1)] ∧
    (rankedNotes.fetch { byRank with limit := some 3 }).map Record.id? =
      [some (.int 4), some (.int 5), some (.int 2)] ∧
    (rankedNotes.fetchFirst? byRank).map Record.id? = some (some (.int 4)) := by
  have found : rankedNotes.records.filter (matchesFilter byRank.filter) =
      [rankedNote 1 (.str "9") "Zebra", rankedNote 2 (.int 9) "Acorn",
        rankedNote 4 (.str " 10.0") "Birch", rankedNote 5 (.int 10) "Birch"] := rfl
  have sortable : ∀ key ∈ byRank.sorting,
      Uniform key.1 (rankedNotes.records.filter (matchesFilter byRank.filter)) := by
    rw [found]
    simp only [byRank, Uniform, List.forall_mem_cons]
    constructor
    · refine Or.inl ⟨⟨_, rfl, ?_⟩, ⟨_, rfl, ?_⟩, ⟨_, rfl, ?_⟩, ⟨_, rfl, ?_⟩, nofun⟩
      all_goals decide +kernel
    · refine ⟨Or.inr ⟨⟨_, rfl, ?_⟩, ⟨_, rfl, ?_⟩, ⟨_, rfl, ?_⟩, ⟨_, rfl, ?_⟩, nofun⟩, nofun⟩
      all_goals decide +kernel
  obtain ⟨only, cut, first⟩ := fetch_arranged sortable
  have ids : (rankedNotes.fetch { byRank with limit := none }).map Record.id? =
      [some (.int 4), some (.int 5), some (.int 2), some (.int 1)] := by decide +kernel
  refine ⟨sortable, (only _).mpr rfl, ids, ?_, ?_⟩
  · rw [cut, List.map_take, ids]
    rfl
  · rw [first, ← List.head?_map, ids]
    rfl

end RecordEditing
