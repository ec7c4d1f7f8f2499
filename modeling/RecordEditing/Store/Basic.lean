import RecordEditing.Store.Table

/-!
A store holds the tables of all providers, sorted by the names of the providers.
-/
namespace RecordEditing

structure Store where
  tables : List Table

namespace Store

def empty : Store := ⟨[]⟩

def putTable (t : Table) : List Table → List Table
  | [] => [t]
  | u :: us =>
    if u.provider = t.provider then t :: us
    else if t.provider < u.provider then t :: u :: us
    else u :: putTable t us

def put (s : Store) (t : Table) : Store := ⟨putTable t s.tables⟩

def ofTables (tables : List Table) : Store := tables.foldl put empty

def table? (s : Store) (provider : String) : Option Table :=
  s.tables.find? (·.provider == provider)

def providers (s : Store) : List String := s.tables.map (·.provider)

def table (s : Store) (provider : String) : Except RecordError Table :=
  match s.table? provider with
  | some t => .ok t
  | none => .error (.unknownProvider provider)

def find? (s : Store) (ref : RecordRef) : Except RecordError (Option Record) :=
  match s.table ref.provider with
  | .ok t => .ok (t.find? ref.id)
  | .error e => .error e

def save (s : Store) (provider : String) (r : Record) : Except RecordError (RecordId × Store) :=
  match s.table provider with
  | .error e => .error e
  | .ok t =>
    match t.save r with
    | .error e => .error e
    | .ok (id, saved) => .ok (id, s.put saved)

def delete (s : Store) (provider : String) (id : RecordId) : Except RecordError (Store × Bool) :=
  match s.table provider with
  | .error e => .error e
  | .ok t => .ok (s.put (t.delete id).1, (t.delete id).2)

def records (s : Store) : List Record := s.tables.flatMap (·.records)

theorem table_eq_ok {s : Store} {provider : String} {t : Table} (h : s.table provider = .ok t) :
    t ∈ s.tables ∧ t.provider = provider := by
  unfold table at h
  split at h
  · next u found =>
    cases h
    exact ⟨List.mem_of_find?_eq_some found, by simpa using List.find?_some found⟩
  · cases h

theorem mem_records {s : Store} {t : Table} {r : Record} (table : t ∈ s.tables)
    (member : r ∈ t.records) : r ∈ s.records :=
  List.mem_flatMap.mpr ⟨t, table, member⟩

theorem find?_eq_ok {s : Store} {ref : RecordRef} {r : Record} (h : s.find? ref = .ok (some r)) :
    r ∈ s.records ∧ r.provider = ref.provider ∧ r.hasId ref.id = true := by
  unfold find? at h
  split at h
  · next t ok =>
    obtain ⟨member, name⟩ := table_eq_ok ok
    have found : t.records.find? (fun r => r.hasId ref.id) = some r := by injection h
    have stored := List.mem_of_find?_eq_some found
    have has := List.find?_some found
    exact ⟨mem_records member stored, (t.own r stored).trans name, has⟩
  · cases h

end Store
end RecordEditing
