import Mathlib.Data.List.Nodup
import RecordEditing.Proofs.History
import RecordEditing.Proofs.Record.Address

/-!
Tables as finite maps. Whatever is saved and deleted, no two records of a table share an id, and
under an id stands what was saved last under it.
-/
namespace RecordEditing

inductive TableCall where
  | save (r : Record)
  | delete (id : RecordId)

/-- What came of a call: a record was saved under an id, or a save was rejected, or the records of
an id were removed. -/
inductive TableEvent where
  | saved (id : RecordId) (r : Record)
  | rejected (r : Record)
  | deleted (id : RecordId)

def TableEvent.id? : TableEvent → Option RecordId
  | .saved id _ => some id
  | .rejected _ => none
  | .deleted id => some id

def RecordId.greatest : RecordId := .int 9223372036854775807

/-- The record as it is stored under an id. A record that has the id is not changed. -/
def Record.keptAs (id : RecordId) (r : Record) : Record :=
  if r.id? = some id then r else r.setId id

namespace Table

def step (t : Table) : TableCall → Table
  | .save r =>
    match t.save r with
    | .ok (_, saved) => saved
    | .error _ => t
  | .delete id => (t.delete id).1

def event (t : Table) : TableCall → TableEvent
  | .save r =>
    match t.save r with
    | .ok (id, _) => .saved id r
    | .error _ => .rejected r
  | .delete id => .deleted id

def run (t : Table) : List TableCall → Table
  | [] => t
  | call :: calls => (t.step call).run calls

def log (t : Table) : List TableCall → List TableEvent
  | [] => []
  | call :: calls => t.event call :: (t.step call).log calls

def ids (t : Table) : List RecordId := t.records.filterMap Record.id?

/-- Where the call asks for a new id, the greatest one is not taken. -/
def HasRoom (t : Table) : TableCall → Prop
  | .save r => r.provider = t.provider → r.id? = none →
      ∀ s ∈ t.records, s.id? ≠ some .greatest
  | .delete _ => True

def Roomy (t : Table) : List TableCall → Prop
  | [] => True
  | call :: calls => t.HasRoom call ∧ (t.step call).Roomy calls

def Holds (t : Table) (id : RecordId) (r : Record) : Prop := r ∈ t.records ∧ r.id? = some id

end Table

theorem Record.id?_keptAs {r : Record} {id : RecordId} (valid : id.Valid) :
    (r.keptAs id).id? = some id := by
  unfold keptAs
  split
  · next has => exact has
  · exact id?_of_hasId valid (hasId_iff.mpr (get?_set_self r _ _))

namespace Table

theorem nodup_split_iff {front back : List Record} {id : RecordId} {r : Record}
    (has : r.id? = some id) : ((front ++ r :: back).filterMap Record.id?).Nodup ↔
      (∀ s ∈ front ++ back, s.id? ≠ some id) ∧ ((front ++ back).filterMap Record.id?).Nodup := by
  rw [List.filterMap_append, List.filterMap_cons_some has, List.nodup_middle,
    ← List.filterMap_append, List.nodup_cons]
  apply and_congr_left'
  rw [List.mem_filterMap, not_exists]
  exact forall_congr' fun s => not_and

theorem eq_of_holds {t : Table} {id : RecordId} {r s : Record} (distinct : t.ids.Nodup)
    (first : t.Holds id r) (second : t.Holds id s) : r = s := by
  obtain ⟨front, back, split⟩ := List.append_of_mem first.1
  unfold ids at distinct
  rw [split, nodup_split_iff first.2] at distinct
  have member : s ∈ front ++ r :: back := split ▸ second.1
  rcases List.mem_cons.mp (List.perm_middle.mem_iff.mp member) with here | elsewhere
  · exact here.symm
  · exact absurd second.2 (distinct.1 s elsewhere)

theorem find?_eq_some_iff {t : Table} {id : RecordId} {r : Record} (distinct : t.ids.Nodup)
    (valid : id.Valid) : t.find? id = some r ↔ t.Holds id r := by
  have sound : ∀ s, t.find? id = some s → t.Holds id s := by
    intro s found
    have has := List.find?_some (show t.records.find? (fun x => x.hasId id) = some s from found)
    exact ⟨List.mem_of_find?_eq_some found, Record.id?_of_hasId valid has⟩
  constructor
  · exact sound r
  · intro holds
    have isSome : (t.find? id).isSome := by
      rw [find?, List.find?_isSome]
      exact ⟨r, holds.1, (Record.hasId_iff_id? valid).mpr holds.2⟩
    obtain ⟨s, found⟩ := Option.isSome_iff_exists.mp isSome
    rw [found, eq_of_holds distinct (sound s found) holds]

theorem put_cases (id : RecordId) (r : Record) (records : List Record) :
    (∀ s ∈ records, s.hasId id = false) ∧ put id r records = records ++ [r] ∨
      ∃ front old back, records = front ++ old :: back ∧ old.hasId id = true ∧
        put id r records = front ++ r :: back := by
  induction records with
  | nil => exact Or.inl ⟨by simp, rfl⟩
  | cons s records ih =>
    cases has : s.hasId id with
    | true => exact Or.inr ⟨[], s, records, rfl, has, by simp [put, has]⟩
    | false =>
      have rest : put id r (s :: records) = s :: put id r records := by simp [put, has]
      rw [rest]
      rcases ih with ⟨absent, same⟩ | ⟨front, old, back, rfl, here, same⟩
      · exact Or.inl ⟨List.forall_mem_cons.mpr ⟨has, absent⟩, by simp [same]⟩
      · exact Or.inr ⟨s :: front, old, back, rfl, here, by simp [same]⟩

/-- What became of the records when one was put under an id that it has: the others stand where they
stood, and it replaced the one of its id or is the last. -/
structure Replaced (id : RecordId) (r : Record) (before after : List Record) : Prop where
  ids : (after.filterMap Record.id?).Nodup
  mem : ∀ other s, s ∈ after ∧ s.id? = some other ↔
    other = id ∧ s = r ∨ other ≠ id ∧ s ∈ before ∧ s.id? = some other
  others : ∀ (i : Nat) s, s.id? ≠ some id → (after[i]? = some s ↔ before[i]? = some s)

theorem replaced_of_split {front back : List Record} {old : Option Record} {id : RecordId}
    {r : Record} (has : r.id? = some id) (absent : ∀ s ∈ front ++ back, s.id? ≠ some id)
    (distinct : ((front ++ back).filterMap Record.id?).Nodup)
    (same : ∀ s ∈ old, s.id? = some id) (last : old = none → back = []) :
    Replaced id r (front ++ (old.toList ++ back)) (front ++ r :: back) where
  ids := (nodup_split_iff has).mpr ⟨absent, distinct⟩
  mem := by
    intro other s
    have stored : other ≠ id → s.id? = some other → s ∉ old.toList := by
      intro ne there member
      have here := same s (Option.mem_toList.mp member)
      exact ne (Option.some.inj (there.symm.trans here))
    simp only [List.mem_append, List.mem_cons] at absent ⊢
    grind
  others := by
    intro i s ne
    rcases Nat.lt_or_ge i front.length with before | after
    · rw [List.getElem?_append_left before, List.getElem?_append_left before]
    · rw [List.getElem?_append_right after, List.getElem?_append_right after]
      cases i - front.length with
      | zero =>
        -- Here stands what has the id now, and what had it before.
        apply iff_of_false
        · intro here
          cases here
          exact ne has
        · intro here
          cases old with
          | none => simp [last rfl] at here
          | some old =>
            cases here
            exact ne (same s rfl)
      | succ k =>
        cases old with
        | none =>
          rw [last rfl]
          rfl
        | some old => rfl

theorem replaced_put {id : RecordId} {r : Record} {records : List Record} (has : r.id? = some id)
    (distinct : (records.filterMap Record.id?).Nodup) :
    Replaced id r records (put id r records) := by
  have valid := Record.valid_of_id? has
  rcases put_cases id r records with ⟨absent, result⟩ | ⟨front, old, back, rfl, here, result⟩
  · have other : ∀ s ∈ records ++ [], s.id? ≠ some id := by
      intro s member same
      have stored : s ∈ records := by simpa using member
      exact Bool.false_ne_true ((absent s stored).symm.trans ((Record.hasId_iff_id? valid).mpr same))
    have appended : Replaced id r (records ++ ((none : Option Record).toList ++ [])) (records ++ [r]) :=
      replaced_of_split has other (by simpa using distinct) (by simp) fun _ => rfl
    rw [result]
    simpa using appended
  · have same := Record.id?_of_hasId valid here
    obtain ⟨absent, rest⟩ := (nodup_split_iff same).mp distinct
    have replaced : Replaced id r (front ++ ((some old).toList ++ back)) (front ++ r :: back) :=
      replaced_of_split has absent rest (by simpa using same) nofun
    rw [result]
    exact replaced

theorem intId?_eq_some {r : Record} {i : Int} : intId? r = some i ↔ r.id? = some (.int i) := by
  unfold intId?
  split
  · next j has => simp [has]
  · next other => exact iff_of_false nofun (other i)

theorem mem_intIds {t : Table} {i : Int} :
    i ∈ t.records.filterMap intId? ↔ ∃ s ∈ t.records, s.id? = some (.int i) := by
  rw [List.mem_filterMap]
  exact exists_congr fun s => and_congr_right' intId?_eq_some

theorem lt_nextId {t : Table} {s : Record} {i : Int} (stored : s ∈ t.records)
    (has : s.id? = some (.int i)) : i < t.nextId := by
  have member := mem_intIds.mpr ⟨s, stored, has⟩
  unfold nextId
  cases greatest : (t.records.filterMap intId?).max? with
  | none => simp [List.max?_eq_none_iff.mp greatest] at member
  | some top =>
    have bound := (List.max?_eq_some_iff.mp greatest).2 i member
    simp only [Option.getD_some]
    omega

theorem valid_nextId {t : Table} (room : ∀ s ∈ t.records, s.id? ≠ some .greatest) :
    (RecordId.int t.nextId).Valid := by
  apply RecordId.valid_int
  unfold nextId
  cases greatest : (t.records.filterMap intId?).max? with
  | none => decide
  | some top =>
    obtain ⟨s, stored, has⟩ := mem_intIds.mp (List.max?_eq_some_iff.mp greatest).1
    have fits := RecordId.fits_of_valid (Record.valid_of_id? has)
    have ne : top ≠ 9223372036854775807 := by
      rintro rfl
      exact room s stored has
    simp only [RecordId.fits, Bool.and_eq_true, decide_eq_true_eq, Option.getD_some] at fits ⊢
    omega

theorem save_own {t : Table} {r : Record} (own : r.provider = t.provider)
    (room : t.HasRoom (.save r)) : ∃ id saved, t.save r = .ok (id, saved) ∧ id.Valid ∧
      (r.id? = some id ∨ r.id? = none ∧ ∀ s ∈ t.records, s.id? ≠ some id) ∧
      saved.records = put id (r.keptAs id) t.records := by
  unfold save
  rw [dif_pos own]
  cases has : r.id? with
  | some id =>
    refine ⟨id, _, rfl, Record.valid_of_id? has, Or.inl rfl, ?_⟩
    simp only [Record.keptAs, has, ↓reduceIte]
    rfl
  | none =>
    have free := room own has
    refine ⟨.int t.nextId, _, rfl, valid_nextId free, Or.inr ⟨rfl, ?_⟩, ?_⟩
    · intro s stored same
      exact absurd (lt_nextId stored same) (by omega)
    · simp only [Record.keptAs, has, reduceCtorEq, ↓reduceIte]
      rfl

theorem save_foreign {t : Table} {r : Record} (foreign : r.provider ≠ t.provider) :
    t.save r = .error (.foreignRecord t.provider r.provider) := by
  unfold save
  rw [dif_neg foreign]

theorem own_of_save {t saved : Table} {r : Record} {id : RecordId}
    (done : t.save r = .ok (id, saved)) : r.provider = t.provider ∧ saved.provider = t.provider := by
  unfold save at done
  split at done
  · next own =>
    refine ⟨own, ?_⟩
    split at done
    · cases done
      rfl
    · cases done
      rfl
  · cases done

theorem replaced_of_save {t saved : Table} {r : Record} {id : RecordId} (distinct : t.ids.Nodup)
    (room : t.HasRoom (.save r)) (done : t.save r = .ok (id, saved)) :
    Replaced id (r.keptAs id) t.records saved.records := by
  obtain ⟨assigned, result, same, valid, _, records⟩ := save_own (own_of_save done).1 room
  cases same.symm.trans done
  rw [records]
  exact replaced_put (Record.id?_keptAs valid) distinct

theorem holds_without {t : Table} {id other : RecordId} {r : Record} :
    (t.without other).Holds id r ↔ t.Holds id r ∧ id ≠ other := by
  unfold Holds without
  rw [List.mem_filter, and_right_comm]
  refine and_congr_right fun holds => ?_
  rw [Bool.not_eq_true', Bool.eq_false_iff, ne_eq, ne_eq, Record.hasId_iff_eq holds.2]

theorem delete_iff {t : Table} {id : RecordId} (valid : id.Valid) :
    (t.delete id).2 = true ↔ ∃ r, t.Holds id r := by
  simp [delete, without, List.length_filter_eq_length_iff, Holds, Record.hasId_iff_id? valid]

theorem step_saved {t saved : Table} {r : Record} {id : RecordId}
    (done : t.save r = .ok (id, saved)) :
    t.step (.save r) = saved ∧ t.event (.save r) = .saved id r := by
  simp only [step, event, done, and_self]

theorem step_rejected {t : Table} {r : Record} {e : RecordError} (failed : t.save r = .error e) :
    t.step (.save r) = t ∧ t.event (.save r) = .rejected r := by
  simp only [step, event, failed, and_self]

theorem provider_step (t : Table) (call : TableCall) : (t.step call).provider = t.provider := by
  cases call with
  | save r =>
    cases result : t.save r with
    | ok saved =>
      rw [(step_saved result).1]
      exact (own_of_save result).2
    | error e => rw [(step_rejected result).1]
  | delete id => rfl

theorem ids_step {t : Table} {call : TableCall} (distinct : t.ids.Nodup) (room : t.HasRoom call) :
    (t.step call).ids.Nodup := by
  cases call with
  | save r =>
    cases result : t.save r with
    | ok saved =>
      rw [(step_saved result).1]
      exact (replaced_of_save distinct room result).ids
    | error e =>
      rw [(step_rejected result).1]
      exact distinct
  | delete id => exact distinct.sublist (List.filter_sublist.filterMap _)

/-- Under an id stands what a call saves under it, or what stood there if the call was not about the
id. -/
theorem holds_step {t : Table} {call : TableCall} {id : RecordId} {r : Record}
    (distinct : t.ids.Nodup) (room : t.HasRoom call) : (t.step call).Holds id r ↔
      (∃ x, t.event call = .saved id x ∧ r = x.keptAs id) ∨
        t.Holds id r ∧ (t.event call).id? ≠ some id := by
  cases call with
  | save x =>
    cases result : t.save x with
    | ok saved =>
      obtain ⟨table, event⟩ := step_saved result
      unfold Holds
      rw [table, event, (replaced_of_save distinct room result).mem]
      simp only [TableEvent.saved.injEq, TableEvent.id?]
      grind
    | error e =>
      obtain ⟨table, event⟩ := step_rejected result
      rw [table, event]
      simp [TableEvent.id?]
  | delete other =>
    have event : t.event (.delete other) = .deleted other := rfl
    change (t.without other).Holds id r ↔ _
    rw [holds_without, event]
    simp [TableEvent.id?, ne_comm]

theorem ids_run {t : Table} {calls : List TableCall} (distinct : t.ids.Nodup)
    (room : t.Roomy calls) : (t.run calls).ids.Nodup := by
  induction calls generalizing t with
  | nil => exact distinct
  | cons call calls ih => exact ih (ids_step distinct room.1) room.2

theorem provider_run (t : Table) (calls : List TableCall) : (t.run calls).provider = t.provider := by
  induction calls generalizing t with
  | nil => rfl
  | cons call calls ih => exact (ih (t.step call)).trans (provider_step t call)

theorem holds_run {t : Table} {calls : List TableCall} {id : RecordId} {r : Record}
    (distinct : t.ids.Nodup) (room : t.Roomy calls) : (t.run calls).Holds id r ↔
      Since (fun e => ∃ x, e = .saved id x ∧ r = x.keptAs id) (fun e => e.id? ≠ some id)
          (t.log calls) ∨
        t.Holds id r ∧ ∀ e ∈ t.log calls, e.id? ≠ some id := by
  induction calls generalizing t with
  | nil => simp [run, log, not_since_nil]
  | cons call calls ih =>
    have rest := ih (ids_step distinct room.1) room.2
    rw [holds_step distinct room.1] at rest
    rw [log, since_cons, List.forall_mem_cons, run, rest]
    grind

theorem roomy_of_absent {t : Table} {calls : List TableCall} (distinct : t.ids.Nodup)
    (stored : .greatest ∉ t.ids) (absent : ∀ e ∈ t.log calls, e.id? ≠ some .greatest) :
    t.Roomy calls := by
  induction calls generalizing t with
  | nil => exact trivial
  | cons call calls ih =>
    obtain ⟨here, later⟩ := List.forall_mem_cons.mp absent
    have free : ∀ s ∈ t.records, s.id? ≠ some .greatest := by
      intro s member same
      exact stored (List.mem_filterMap.mpr ⟨s, member, same⟩)
    have room : t.HasRoom call := by
      cases call with
      | save r => exact fun _ _ => free
      | delete id => exact trivial
    refine ⟨room, ih (ids_step distinct room) ?_ later⟩
    intro listed
    obtain ⟨s, member, same⟩ := List.mem_filterMap.mp listed
    rcases (holds_step distinct room).mp ⟨member, same⟩ with ⟨x, saved, _⟩ | ⟨held, _⟩
    · exact here (by rw [saved, TableEvent.id?])
    · exact free s held.1 held.2

end Table

open Table in
/-- A table is a finite map: under an id stands what was saved last under it, or the record that was
there from the start, unless it was removed since. A save leaves the other records where they are, a
rejected one leaves everything, and a removal says whether something was removed. -/
theorem table_is_finite_map {start : Table} {calls : List TableCall} (distinct : start.ids.Nodup)
    (room : start.Roomy calls) :
    (start.run calls).ids.Nodup ∧
      (∀ id : RecordId, id.Valid → ∀ r, (start.run calls).find? id = some r ↔
        Since (fun e => ∃ x, e = .saved id x ∧ r = x.keptAs id) (fun e => e.id? ≠ some id)
            (start.log calls) ∨
          start.Holds id r ∧ ∀ e ∈ start.log calls, e.id? ≠ some id) ∧
      (∀ r : Record, r.provider = start.provider → (start.run calls).HasRoom (.save r) →
        ∃ id saved, (start.run calls).save r = .ok (id, saved) ∧ id.Valid ∧
          (r.id? = some id ∨ r.id? = none ∧ ∀ s ∈ (start.run calls).records, s.id? ≠ some id) ∧
          ∀ (i : Nat) s, s.id? ≠ some id →
            (saved.records[i]? = some s ↔ (start.run calls).records[i]? = some s)) ∧
      (∀ r : Record, r.provider ≠ start.provider →
        (start.run calls).save r = .error (.foreignRecord start.provider r.provider) ∧
          (start.run calls).step (.save r) = start.run calls) ∧
      ∀ id : RecordId, id.Valid → (((start.run calls).delete id).2 = true ↔
        ∃ r ∈ (start.run calls).records, r.id? = some id) := by
  have ids := ids_run distinct room
  rw [← provider_run start calls]
  refine ⟨ids, ?_, ?_, ?_, fun id valid => delete_iff valid⟩
  · intro id valid r
    rw [find?_eq_some_iff ids valid, holds_run distinct room]
  · intro r own free
    obtain ⟨id, saved, done, valid, fresh, _⟩ := save_own own free
    exact ⟨id, saved, done, valid, fresh, (replaced_of_save ids free done).others⟩
  · intro r foreign
    have failed := save_foreign foreign
    exact ⟨failed, (step_rejected failed).1⟩

def pageStart : Table := .ofRecords "page"
  [⟨"page", [("id", .int 5)]⟩, ⟨"page", [("id", .str "5")]⟩, ⟨"page", [("id", .null)]⟩]

def pageCalls : List TableCall :=
  [.save ⟨"page", [("title", .str "new")]⟩, .save ⟨"book", [("id", .int 6)]⟩, .delete (.text "5"),
    .save ⟨"page", [("id", .int 5), ("title", .str "old")]⟩]

open Table in
theorem table_is_finite_map_page : pageStart.ids.Nodup ∧ pageStart.Roomy pageCalls ∧
    (pageStart.run pageCalls).find? (.int 6) =
      some ⟨"page", [("id", .int 6), ("title", .str "new")]⟩ ∧
    (pageStart.run pageCalls).find? (.int 5) =
      some ⟨"page", [("id", .int 5), ("title", .str "old")]⟩ := by
  have distinct : pageStart.ids.Nodup := by decide +kernel
  have room : pageStart.Roomy pageCalls :=
    roomy_of_absent distinct (by decide +kernel) (by decide +kernel)
  obtain ⟨_, found, _⟩ := table_is_finite_map distinct room
  refine ⟨distinct, room, ?_, ?_⟩
  · apply (found (.int 6) rfl _).mpr
    exact Or.inl ⟨[], _, _, rfl, ⟨_, rfl, rfl⟩, by decide +kernel⟩
  · apply (found (.int 5) rfl _).mpr
    exact Or.inl ⟨[_, _, _], _, [], rfl, ⟨_, rfl, rfl⟩, by simp⟩

end RecordEditing
