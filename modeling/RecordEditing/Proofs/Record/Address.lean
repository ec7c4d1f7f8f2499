import RecordEditing.Container.Lookup

/-!
Records and their addresses. A record that is found at an address that was read from a text has
that address; integers beyond 64 bits, under which records can be stored but not addressed, cannot
be read.
-/
namespace RecordEditing

theorem bind_eq_ok {ε α β : Type} {step : Except ε α} {next : α → Except ε β} {result : β}
    (h : step >>= next = .ok result) : ∃ value, step = .ok value ∧ next value = .ok result := by
  cases step with
  | error e => cases h
  | ok value => exact ⟨value, rfl, h⟩

theorem map_eq_ok {ε α β : Type} {step : Except ε α} {f : α → β} {result : β}
    (h : step.map f = .ok result) : ∃ value, step = .ok value ∧ f value = result := by
  cases step with
  | error e => cases h
  | ok value => exact ⟨value, rfl, Except.ok.inj h⟩

theorem exists_of_mapM_ok {ε α β : Type} {f : α → Except ε β} {xs : List α} {ys : List β}
    (run : xs.mapM f = .ok ys) : ∀ y ∈ ys, ∃ x ∈ xs, f x = .ok y := by
  induction xs generalizing ys with
  | nil =>
    cases run
    exact fun y member => absurd member List.not_mem_nil
  | cons x xs ih =>
    rw [List.mapM_cons] at run
    obtain ⟨z, here, rest⟩ := bind_eq_ok run
    obtain ⟨zs, later, same⟩ := bind_eq_ok rest
    cases same
    intro y member
    rcases List.mem_cons.mp member with rfl | other
    · exact ⟨x, List.mem_cons_self, here⟩
    · obtain ⟨w, among, read⟩ := ih later y other
      exact ⟨w, List.mem_cons_of_mem x among, read⟩

theorem eq_ok_of_toOption {ε α β : Type} {step : Except ε α} {view : α → β} {result : β}
    (h : step.toOption.map view = some result) : ∃ value, step = .ok value ∧ view value = result := by
  cases step with
  | error e => cases h
  | ok value => exact ⟨value, rfl, Option.some.inj h⟩

theorem eq_error_of_toOption {ε α : Type} {step : Except ε α} (h : step.toOption.isNone = true) :
    ∃ e, step = .error e := by
  cases step with
  | error e => exact ⟨e, rfl⟩
  | ok value => cases h

/-- The ids that a property can hold. -/
def RecordId.Valid (id : RecordId) : Prop := RecordId.ofValue? id.toJson = some id

theorem RecordId.valid_int {i : Int} (fits : RecordId.fits i = true) :
    (RecordId.int i).Valid := by
  simp [RecordId.Valid, RecordId.toJson, Json.int, RecordId.ofValue?, fits]

theorem RecordId.valid_text (s : String) : (RecordId.text s).Valid := rfl

theorem RecordId.fits_of_valid {i : Int} (valid : (RecordId.int i).Valid) :
    RecordId.fits i = true := by
  simpa [RecordId.Valid, RecordId.toJson, Json.int, RecordId.ofValue?] using valid

theorem RecordId.toJson_of_ofValue? {v : Json} {id : RecordId} (read : ofValue? v = some id) :
    id.toJson = v := by
  cases v with
  | num n =>
    cases n with
    | int i =>
      obtain ⟨_, same⟩ := Option.ite_none_right_eq_some.mp read
      cases same
      rfl
    | _ => cases read
  | str s =>
    cases read
    rfl
  | _ => cases read

namespace Record

theorem hasId_iff {r : Record} {id : RecordId} :
    r.hasId id = true ↔ r.get? idProperty = some id.toJson := by
  unfold hasId
  cases property : r.get? idProperty with
  | none => simp
  | some v =>
    rw [Option.some.injEq, Option.some_beq_some]
    change Json.same v id.toJson = true ↔ v = id.toJson
    cases id with
    | int i =>
      cases v with
      | num n => cases n <;> simp [RecordId.toJson, Json.int, Json.same, Number.same]
      | _ => simp [RecordId.toJson, Json.int, Json.same]
    | text s => cases v <;> simp [RecordId.toJson, Json.same]

theorem id?_of_hasId {r : Record} {id : RecordId} (valid : id.Valid) (h : r.hasId id = true) :
    r.id? = some id := by
  unfold id?
  rw [hasId_iff.mp h]
  exact valid

theorem property_of_id? {r : Record} {id : RecordId} (has : r.id? = some id) :
    r.get? idProperty = some id.toJson := by
  obtain ⟨v, property, read⟩ := Option.bind_eq_some_iff.mp has
  rw [property, RecordId.toJson_of_ofValue? read]

theorem valid_of_id? {r : Record} {id : RecordId} (has : r.id? = some id) : id.Valid := by
  obtain ⟨v, _, read⟩ := Option.bind_eq_some_iff.mp has
  unfold RecordId.Valid
  rw [RecordId.toJson_of_ofValue? read, read]

theorem hasId_iff_id? {r : Record} {id : RecordId} (valid : id.Valid) :
    r.hasId id = true ↔ r.id? = some id :=
  ⟨id?_of_hasId valid, fun has => hasId_iff.mpr (property_of_id? has)⟩

theorem hasId_iff_eq {r : Record} {id other : RecordId} (has : r.id? = some id) :
    r.hasId other = true ↔ id = other := by
  rw [hasId_iff, property_of_id? has, Option.some.injEq]
  constructor
  · intro same
    cases id <;> cases other <;> simp_all [RecordId.toJson, Json.int]
  · exact congrArg RecordId.toJson

theorem ref?_eq_some {r : Record} {ref : RecordRef} (h : r.ref? = some ref) :
    r.provider = ref.provider ∧ r.id? = some ref.id := by
  obtain ⟨id, has, rfl⟩ := Option.map_eq_some_iff.mp h
  exact ⟨rfl, has⟩

end Record

namespace RecordRef

theorem readInt?_fits {cs : List Char} {i : Int} (h : readInt? cs = some i) :
    RecordId.fits i = true := by
  unfold readInt? at h
  simp only [Option.ite_none_left_eq_some, Option.ite_none_right_eq_some, Option.some.injEq] at h
  obtain ⟨_, fits, same⟩ := h
  rw [← same]
  exact fits

theorem readId?_valid {cs : List Char} {id : RecordId} (h : readId? cs = some id) : id.Valid := by
  unfold readId? at h
  split at h
  · next i read =>
    cases h
    exact RecordId.valid_int (readInt?_fits read)
  · obtain ⟨s, _, rfl⟩ := Option.map_eq_some_iff.mp h
    exact RecordId.valid_text s

theorem ofText_valid {text : String} {ref : RecordRef} (h : ofText text = .ok ref) :
    ref.id.Valid := by
  unfold ofText at h
  split at h
  · cases h
  · cases h
  · split at h
    · next id read =>
      cases h
      exact readId?_valid read
    · cases h

end RecordRef

theorem Container.ref?_of_recordAt {store : Store} {ref : RecordRef} {r : Record}
    (valid : ref.id.Valid) (h : recordAt store ref = .ok (some r)) : r.ref? = some ref := by
  obtain ⟨_, provider, has⟩ := Store.find?_eq_ok (recordAt_eq_ok h)
  unfold Record.ref?
  rw [Record.id?_of_hasId valid has, provider]
  rfl

end RecordEditing
