import RecordEditing.Container.Basic
import RecordEditing.Store.Basic

/-!
Walking the structure of a container: from records to their parents, children and siblings. A filter
is built before its provider is looked up, so that a broken definition is reported first.
-/
namespace RecordEditing
namespace Container

def isRoot (c : Container) (r : Record) : Bool := c.relations.isRoot c.basic.mode r

def tableOf (store : Store) (provider : String) : Except RelationError Table :=
  (store.table provider).mapError .record

def recordAt (store : Store) (ref : RecordRef) : Except RelationError (Option Record) :=
  (store.find? ref).mapError .record

def fetchAll (store : Store) (provider : String) (filter : List FilterRule) :
    Except RelationError (List Record) :=
  match tableOf store provider with
  | .ok t => .ok (t.fetch { filter })
  | .error e => .error e

def parentUnder (store : Store) (condition : ParentChild) (child : Record) :
    Except RelationError (Option Record) := do
  let filter ← condition.parentFilter child
  let t ← tableOf store condition.source
  return t.fetchFirst? { filter }

def firstParent (store : Store) (child : Record) :
    List ParentChild → Except RelationError (Option Record)
  | [] => .ok none
  | condition :: rest =>
    match parentUnder store condition child with
    | .error e => .error e
    | .ok (some parent) => .ok (some parent)
    | .ok none => firstParent store child rest

def parentInTree (c : Container) (store : Store) (child : Record) :
    Except RelationError (Option Record) :=
  if c.isRoot child then .ok none
  else firstParent store child (c.relations.endingAt child.provider)

/-- The parent of a record, if the container has structure and the record a place in it. -/
def parentOf (c : Container) (store : Store) (child : Record) :
    Except RelationError (Option Record) :=
  match c.basic.mode with
  | .flat => .ok none
  | .parented =>
    match c.basic.parentProvider with
    | none => .error (.configuration .noParentProvider)
    | some provider => do
      let condition ← c.relations.requireBetween provider child.provider
      parentUnder store condition child
  | .hierarchical => c.parentInTree store child

def childrenUnder (store : Store) (parent : Record) (condition : ParentChild) :
    Except RelationError (List Record) := do
  let filter ← condition.childFilter parent
  fetchAll store condition.destination filter

def childrenUnderAll (store : Store) (parent : Record) :
    List ParentChild → Except RelationError (List Record)
  | [] => .ok []
  | condition :: rest =>
    match childrenUnder store parent condition with
    | .error e => .error e
    | .ok found =>
      match childrenUnderAll store parent rest with
      | .error e => .error e
      | .ok more => .ok (found ++ more)

def childConditions (c : Container) (parent : Record) (provider : Option String) :
    List ParentChild :=
  (c.relations.startingAt parent.provider).filter fun condition =>
    provider.all (· == condition.destination)

def childrenOf (c : Container) (store : Store) (parent : Record) (provider : Option String) :
    Except RelationError (List Record) :=
  childrenUnderAll store parent (c.childConditions parent provider)

/-- The parent that a record shares with its siblings. In a tree the search may be confined to
parents of one provider. -/
def sharedParent (c : Container) (store : Store) (r : Record) (parentProvider : Option String) :
    Except RelationError (Option Record) :=
  match parentProvider with
  | some provider =>
    if c.basic.mode = .hierarchical ∧ c.isRoot r = false then
      match c.relations.between? provider r.provider with
      | some condition => parentUnder store condition r
      | none => .ok none
    else c.parentOf store r
  | none => c.parentOf store r

def topFilter (c : Container) (provider : String) : Except RelationError (List FilterRule) :=
  match c.basic.mode, c.relations.root with
  | .hierarchical, some root => if root.provider = provider then root.rootFilter else .ok []
  | _, _ => .ok []

/-- The records with the same parent as a record, itself included. Without a parent these are the
records of the top level; in a parented container such a record is alone. -/
def siblingsOf (c : Container) (store : Store) (r : Record) (parentProvider : Option String) :
    Except RelationError (List Record) := do
  match ← c.sharedParent store r parentProvider with
  | some parent => c.childrenOf store parent (some r.provider)
  | none =>
    if c.basic.mode = .parented then return [r]
    else
      let filter ← c.topFilter r.provider
      fetchAll store r.provider filter

/-- The addresses of the records of the top level: the roots of a tree and all records of a flat
container. A parented container has no top level. -/
def rootRefs (c : Container) (store : Store) : Except RelationError (List RecordRef) :=
  match c.basic.mode with
  | .parented => .ok []
  | .flat => do
    let found ← fetchAll store c.basic.dataProvider []
    return found.filterMap Record.ref?
  | .hierarchical =>
    match c.relations.root with
    | none => .error (.configuration .noRootCondition)
    | some root => do
      let filter ← root.rootFilter
      let found ← fetchAll store root.provider filter
      return found.filterMap Record.ref?

theorem tableOf_eq_ok {store : Store} {provider : String} {t : Table}
    (h : tableOf store provider = .ok t) : store.table provider = .ok t := by
  unfold tableOf at h
  cases known : store.table provider with
  | error e =>
    rw [known] at h
    cases h
  | ok u =>
    rw [known] at h
    cases h
    rfl

theorem recordAt_eq_ok {store : Store} {ref : RecordRef} {r : Option Record}
    (h : recordAt store ref = .ok r) : store.find? ref = .ok r := by
  unfold recordAt at h
  cases found : store.find? ref with
  | error e =>
    rw [found] at h
    cases h
  | ok o =>
    rw [found] at h
    cases h
    rfl

theorem fetchAll_subset {store : Store} {provider : String} {filter : List FilterRule}
    {found : List Record} (h : fetchAll store provider filter = .ok found) :
    ∀ r ∈ found, r ∈ store.records := by
  unfold fetchAll at h
  split at h
  · next t ok =>
    cases h
    intro r member
    have known := tableOf_eq_ok ok
    exact Store.mem_records (Store.table_eq_ok known).1 (Table.mem_of_mem_fetch member).1
  · cases h

theorem childrenUnderAll_subset {store : Store} {parent : Record} {conditions : List ParentChild}
    {found : List Record} (h : childrenUnderAll store parent conditions = .ok found) :
    ∀ r ∈ found, r ∈ store.records := by
  induction conditions generalizing found with
  | nil =>
    cases h
    simp
  | cons condition rest ih =>
    unfold childrenUnderAll at h
    cases here : childrenUnder store parent condition with
    | error e => simp [here] at h
    | ok first =>
      cases later : childrenUnderAll store parent rest with
      | error e => simp [here, later] at h
      | ok more =>
        obtain rfl : first ++ more = found := by simpa [here, later] using h
        intro r member
        rcases List.mem_append.mp member with inFirst | inMore
        · unfold childrenUnder at here
          cases built : condition.childFilter parent with
          | error e => simp [built, bind, Except.bind] at here
          | ok filter =>
            exact fetchAll_subset (by simpa [built, bind, Except.bind] using here) r inFirst
        · exact ih later r inMore

theorem childrenOf_subset {c : Container} {store : Store} {parent : Record}
    {provider : Option String} {found : List Record}
    (h : c.childrenOf store parent provider = .ok found) : ∀ r ∈ found, r ∈ store.records :=
  childrenUnderAll_subset h

end Container
end RecordEditing
