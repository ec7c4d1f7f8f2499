import RecordEditing.Filter.Rule
import RecordEditing.Store.Insertion

/-!
A table keeps the records of one provider in memory, in the order in which they came. Fetching
filters, sorts and cuts; saving replaces the record of the same id where it stands or appends.
-/
namespace RecordEditing

inductive Direction where
  | ascending
  | descending
  deriving DecidableEq, Repr

structure Query where
  filter : List FilterRule := []
  sorting : List (String × Direction) := []
  limit : Option Nat := none

structure Table where
  provider : String
  records : List Record
  own : ∀ r ∈ records, r.provider = provider

namespace Table

/-- Records handed to a table become its own. -/
def ofRecords (provider : String) (records : List Record) : Table where
  provider := provider
  records := records.map fun r => ⟨provider, r.properties⟩
  own := by
    intro r member
    obtain ⟨_, _, rfl⟩ := List.mem_map.mp member
    rfl

end Table

/-- The order of two records by the first sort key that tells them apart. Values without an order
count as equal. -/
def sortOrder : List (String × Direction) → Record → Record → Ordering
  | [], _, _ => .eq
  | (property, direction) :: keys, a, b =>
    let byKey := (order? (a.get? property) (b.get? property)).getD .eq
    let here := match direction with
      | .ascending => byKey
      | .descending => byKey.swap
    if here = .eq then sortOrder keys a b else here

namespace Table

def fetch (t : Table) (q : Query) : List Record :=
  let found := t.records.filter (matchesFilter q.filter)
  let sorted :=
    if q.sorting.isEmpty then found
    else insertionSort (fun a b => sortOrder q.sorting a b == .lt) found
  match q.limit with
  | some n => sorted.take n
  | none => sorted

def fetchFirst? (t : Table) (q : Query) : Option Record :=
  (t.fetch { q with limit := some 1 }).head?

def find? (t : Table) (id : RecordId) : Option Record := t.records.find? (·.hasId id)

def intId? (r : Record) : Option Int :=
  match r.id? with
  | some (.int i) => some i
  | _ => none

def nextId (t : Table) : Int := ((t.records.filterMap intId?).max?).getD 0 + 1

/-- The record that comes first with the id is replaced; a new one goes to the end. -/
def put (id : RecordId) (r : Record) : List Record → List Record
  | [] => [r]
  | old :: rest => if old.hasId id then r :: rest else old :: put id r rest

theorem mem_put {id : RecordId} {r s : Record} {records : List Record}
    (member : s ∈ put id r records) : s = r ∨ s ∈ records := by
  induction records with
  | nil => exact Or.inl (by simpa [put] using member)
  | cons old rest ih =>
    by_cases same : old.hasId id = true
    · simp only [put, same, ↓reduceIte, List.mem_cons] at member
      exact member.imp_right (List.mem_cons_of_mem old)
    · simp only [put, same, Bool.false_eq_true, ↓reduceIte, List.mem_cons] at member
      rcases member with here | later
      · exact Or.inr (by simp [here])
      · exact (ih later).imp_right (List.mem_cons_of_mem old)

theorem put_of_split {id : RecordId} {r old : Record} {front back : List Record}
    (has : old.hasId id = true) (first : ∀ s ∈ front, s.hasId id = false) :
    put id r (front ++ old :: back) = front ++ r :: back := by
  induction front with
  | nil => simp [put, has]
  | cons s front ih =>
    have other := first s (by simp)
    simp only [List.cons_append, put, other, Bool.false_eq_true, ↓reduceIte]
    rw [ih (fun x member => first x (List.mem_cons_of_mem s member))]

def store (t : Table) (id : RecordId) (r : Record) (owned : r.provider = t.provider) : Table where
  provider := t.provider
  records := put id r t.records
  own := by
    intro s member
    rcases mem_put member with rfl | earlier
    · exact owned
    · exact t.own s earlier

/-- Saves a record of this provider. A record without a valid id gets a new one. -/
def save (t : Table) (r : Record) : Except RecordError (RecordId × Table) :=
  if owned : r.provider = t.provider then
    match r.id? with
    | some id => .ok (id, t.store id r owned)
    | none =>
      let id : RecordId := .int t.nextId
      .ok (id, t.store id (r.setId id) owned)
  else .error (.foreignRecord t.provider r.provider)

def without (t : Table) (id : RecordId) : Table where
  provider := t.provider
  records := t.records.filter fun r => !r.hasId id
  own := fun r member => t.own r (List.mem_filter.mp member).1

def delete (t : Table) (id : RecordId) : Table × Bool :=
  (t.without id, (t.without id).records.length != t.records.length)

theorem mem_of_mem_fetch {t : Table} {q : Query} {r : Record} (member : r ∈ t.fetch q) :
    r ∈ t.records ∧ matchesFilter q.filter r = true := by
  have found : r ∈ t.records.filter (matchesFilter q.filter) := by
    unfold fetch at member
    simp only at member
    split at member
    · have := List.mem_of_mem_take member
      split at this
      · exact this
      · exact mem_insertionSort.mp this
    · split at member
      · exact member
      · exact mem_insertionSort.mp member
  exact List.mem_filter.mp found

end Table
end RecordEditing
