import RecordEditing.Container.Descendants

/-!
Records and everything below them as an outline, each record followed by its children. A record that
is met again is listed, but what is below it is not. The records to be listed next are kept on a
stack; it is emptied because every step either lists a new address or shortens the stack.
-/
namespace RecordEditing

structure OutlineLine where
  depth : Nat
  record : Record
  repeated : Bool
  deriving Repr

/-- The lines up to the first failure. -/
structure Outline where
  lines : List OutlineLine
  failure : Option RelationError
  deriving Repr

namespace Outline

def empty : Outline := ⟨[], none⟩

def cons (line : OutlineLine) (o : Outline) : Outline := ⟨line :: o.lines, o.failure⟩

end Outline

namespace Container

def isStranger (store : Store) (r : Record) : Bool :=
  match r.ref? with
  | some ref => decide (ref ∉ store.addresses)
  | none => false

def strangers (store : Store) (stack : List (Nat × Record)) : List (Nat × Record) :=
  stack.filter fun e => isStranger store e.2

theorem isStranger_of_mem {store : Store} {r : Record} (stored : r ∈ store.records) :
    isStranger store r = false := by
  unfold isStranger
  cases ref : r.ref? with
  | none => rfl
  | some a =>
    have : a ∈ store.addresses :=
      List.mem_filterMap.mpr ⟨r, stored, Record.address?_of_ref? ref⟩
    simp [this]

theorem strangers_cons_le (store : Store) (e : Nat × Record) (stack : List (Nat × Record)) :
    (strangers store stack).length ≤ (strangers store (e :: stack)).length := by
  unfold strangers
  by_cases h : isStranger store e.2 = true <;> simp [h]

theorem strangers_append_stored {store : Store} {front stack : List (Nat × Record)}
    (stored : ∀ e ∈ front, e.2 ∈ store.records) :
    strangers store (front ++ stack) = strangers store stack := by
  have none : front.filter (fun e => isStranger store e.2) = [] := by
    rw [List.filter_eq_nil_iff]
    intro e member
    simp [isStranger_of_mem (stored e member)]
  simp [strangers, none]

/-- To list an address for the first time leaves fewer: it is stored and was unseen, or its record
was a stranger. -/
theorem unseen_add_strangers_lt {store : Store} {seen : List RecordRef} {ref : RecordRef}
    {depth : Nat} {r : Record} {stack front : List (Nat × Record)} (address : r.ref? = some ref)
    (new : ref ∉ seen) (stored : ∀ e ∈ front, e.2 ∈ store.records) :
    (store.unseen (ref :: seen)).length + (strangers store (front ++ stack)).length <
      (store.unseen seen).length + (strangers store ((depth, r) :: stack)).length := by
  rw [strangers_append_stored stored]
  by_cases known : ref ∈ store.addresses
  · have := Store.unseen_cons_lt known new
    have := strangers_cons_le store (depth, r) stack
    omega
  · have := store.unseen_cons_le seen ref
    have : isStranger store r = true := by simp [isStranger, address, known]
    simp only [strangers, List.filter_cons, this, ↓reduceIte, List.length_cons]
    omega

/-- Lists the records on the stack and everything below them; `seen` holds the addresses listed
already. -/
def outlineFrom (c : Container) (store : Store) (seen : List RecordRef) :
    List (Nat × Record) → Outline
  | [] => .empty
  | (depth, r) :: stack =>
    match _address : r.ref? with
    | none => .cons ⟨depth, r, false⟩ (outlineFrom c store seen stack)
    | some ref =>
      if _new : ref ∈ seen then .cons ⟨depth, r, true⟩ (outlineFrom c store seen stack)
      else
        match _below : c.childrenOf store r none with
        | .error e => ⟨[⟨depth, r, false⟩], some e⟩
        | .ok children =>
          .cons ⟨depth, r, false⟩
            (outlineFrom c store (ref :: seen) (children.map (depth + 1, ·) ++ stack))
termination_by stack =>
  ((store.unseen seen).length + (strangers store stack).length, stack.length)
decreasing_by
  · have := strangers_cons_le store (depth, r) stack
    rcases Nat.lt_or_eq_of_le this with less | same
    · exact Prod.Lex.left _ _ (by omega)
    · rw [same]
      exact Prod.Lex.right _ (by simp)
  · have := strangers_cons_le store (depth, r) stack
    rcases Nat.lt_or_eq_of_le this with less | same
    · exact Prod.Lex.left _ _ (by omega)
    · rw [same]
      exact Prod.Lex.right _ (by simp)
  · refine Prod.Lex.left _ _ (unseen_add_strangers_lt _address _new ?_)
    intro e member
    obtain ⟨child, inChildren, rfl⟩ := List.mem_map.mp member
    exact childrenOf_subset _below child inChildren

/-- The records where an outline starts: all parents of a parented container, else those of the top
level. -/
def tops (c : Container) (store : Store) : Except RelationError (List Record) :=
  match c.basic.mode with
  | .parented =>
    match c.basic.parentProvider with
    | none => .error (.configuration .noParentProvider)
    | some provider => fetchAll store provider []
  | _ => do
    let refs ← c.rootRefs store
    let found ← refs.mapM (recordAt store)
    return found.filterMap id

def outline (c : Container) (store : Store) (tops : List Record) : Outline :=
  c.outlineFrom store [] (tops.map (0, ·))

end Container
end RecordEditing
