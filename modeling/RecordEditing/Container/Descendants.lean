import RecordEditing.Container.Lookup

/-!
A record and everything below it, breadth first. The data may be cyclic: an address that was met
before is not followed again. The walk ends because each record that is followed is stored and new;
the lemmas here bound what is left to follow.
-/
namespace RecordEditing

/-- The address under which a store finds a record; integers of any size count. -/
def Record.address? (r : Record) : Option RecordRef :=
  match r.get? Record.idProperty with
  | some (.num (.int i)) => some ⟨r.provider, .int i⟩
  | some (.str s) => some ⟨r.provider, .text s⟩
  | _ => none

theorem Record.address?_of_hasId {r : Record} {id : RecordId} (h : r.hasId id = true) :
    r.address? = some ⟨r.provider, id⟩ := by
  unfold Record.hasId at h
  unfold Record.address?
  cases property : r.get? Record.idProperty with
  | none => simp [property] at h
  | some v =>
    have same : (v == id.toJson) = true := by simpa [property] using h
    change Json.same v id.toJson = true at same
    cases id <;> cases v <;> simp_all [RecordId.toJson, Json.int, Json.same]
    next i n => cases n <;> simp_all [Number.same]

theorem Record.address?_of_ref? {r : Record} {ref : RecordRef} (h : r.ref? = some ref) :
    r.address? = some ref := by
  unfold Record.ref? Record.id? at h
  unfold Record.address?
  cases property : r.get? Record.idProperty with
  | none => simp [property] at h
  | some v =>
    simp only [property, Option.bind_some] at h
    cases v with
    | num n => cases n <;> simp_all [RecordId.ofValue?]
    | str s => simpa [RecordId.ofValue?] using h
    | _ => simp [RecordId.ofValue?] at h

def Store.addresses (s : Store) : List RecordRef := s.records.filterMap Record.address?

def Store.unseen (s : Store) (seen : List RecordRef) : List RecordRef :=
  s.addresses.filter (· ∉ seen)

theorem length_filter_lt {α : Type} {p q : α → Bool} {xs : List α} {x : α}
    (weaker : ∀ y, q y = true → p y = true) (member : x ∈ xs) (kept : p x = true)
    (dropped : q x = false) : (xs.filter q).length < (xs.filter p).length := by
  induction xs with
  | nil => cases member
  | cons y ys ih =>
    have le : ∀ zs : List α, (zs.filter q).length ≤ (zs.filter p).length := by
      intro zs
      induction zs with
      | nil => simp
      | cons z zs ih =>
        by_cases hq : q z = true
        · simp [hq, weaker z hq, ih]
        · by_cases hp : p z = true <;> simp [hq, hp] <;> omega
    rcases List.mem_cons.mp member with rfl | later
    · have := le ys
      simp only [List.filter_cons, kept, dropped, ↓reduceIte, Bool.false_eq_true, List.length_cons]
      omega
    · have := ih later
      by_cases hq : q y = true
      · simp [hq, weaker y hq, this]
      · by_cases hp : p y = true <;> simp [hq, hp] <;> omega

theorem Store.unseen_cons_lt {s : Store} {seen : List RecordRef} {ref : RecordRef}
    (stored : ref ∈ s.addresses) (new : ref ∉ seen) :
    (s.unseen (ref :: seen)).length < (s.unseen seen).length := by
  refine length_filter_lt ?_ stored (by simpa using new) (by simp)
  intro other h
  simp only [List.mem_cons, not_or, decide_eq_true_eq] at h ⊢
  exact h.2

theorem Store.unseen_cons_le (s : Store) (seen : List RecordRef) (ref : RecordRef) :
    (s.unseen (ref :: seen)).length ≤ (s.unseen seen).length := by
  unfold Store.unseen
  have : (fun x => decide (x ∉ ref :: seen)) =
      fun x => decide (x ≠ ref) && decide (x ∉ seen) := by
    funext x
    simp
  rw [this, ← List.filter_filter]
  exact List.length_filter_le _ _

namespace Container

theorem mem_addresses_of_recordAt {store : Store} {ref : RecordRef} {r : Record}
    (h : recordAt store ref = .ok (some r)) : ref ∈ store.addresses := by
  obtain ⟨stored, provider, has⟩ := Store.find?_eq_ok (recordAt_eq_ok h)
  exact List.mem_filterMap.mpr ⟨r, stored, by rw [Record.address?_of_hasId has, provider]⟩

/-- Follows the addresses in the queue; `seen` holds those met already, the last one first. -/
def descend (c : Container) (store : Store) (seen : List RecordRef) :
    List RecordRef → Except RelationError (List RecordRef)
  | [] => .ok seen.reverse
  | ref :: queue =>
    if _new : ref ∈ seen then descend c store seen queue
    else
      match _found : recordAt store ref with
      | .error e => .error e
      | .ok none => descend c store (ref :: seen) queue
      | .ok (some r) =>
        match c.childrenOf store r none with
        | .error e => .error e
        | .ok children =>
          descend c store (ref :: seen) (queue ++ children.filterMap Record.ref?)
termination_by queue => ((store.unseen seen).length, queue.length)
decreasing_by
  · exact Prod.Lex.right _ (by simp)
  · have := store.unseen_cons_le seen ref
    rcases Nat.lt_or_eq_of_le this with less | same
    · exact Prod.Lex.left _ _ less
    · rw [same]
      exact Prod.Lex.right _ (by simp)
  · exact Prod.Lex.left _ _ (Store.unseen_cons_lt (mem_addresses_of_recordAt _found) _new)

def descendants (c : Container) (store : Store) (ref : RecordRef) :
    Except RelationError (List RecordRef) := c.descend store [] [ref]

end Container
end RecordEditing
