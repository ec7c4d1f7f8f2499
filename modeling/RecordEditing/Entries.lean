/-!
Association lists kept sorted by key. Reading takes the first entry of a key; writing replaces it
or puts a new entry before the first larger key.
-/
namespace RecordEditing
namespace Entries

variable {κ α : Type} [DecidableEq κ]

def find? (key : κ) : List (κ × α) → Option α
  | [] => none
  | (k, v) :: rest => if k = key then some v else find? key rest

def contains (key : κ) (entries : List (κ × α)) : Bool := (find? key entries).isSome

def insert [LT κ] [DecidableLT κ] (key : κ) (value : α) : List (κ × α) → List (κ × α)
  | [] => [(key, value)]
  | (k, v) :: rest =>
    if k = key then (key, value) :: rest
    else if key < k then (key, value) :: (k, v) :: rest
    else (k, v) :: insert key value rest

def erase (key : κ) (entries : List (κ × α)) : List (κ × α) := entries.filter (·.1 ≠ key)

/-- Later entries win. -/
def ofList [LT κ] [DecidableLT κ] (entries : List (κ × α)) : List (κ × α) :=
  entries.foldl (fun m e => insert e.1 e.2 m) []

theorem mem_of_find? {key : κ} {value : α} {m : List (κ × α)} (h : find? key m = some value) :
    (key, value) ∈ m := by
  induction m with
  | nil => cases h
  | cons e m ih =>
    obtain ⟨k, v⟩ := e
    by_cases same : k = key
    · simp only [find?, same, ↓reduceIte, Option.some.injEq] at h
      simp [same, h]
    · simp only [find?, same, ↓reduceIte] at h
      exact List.mem_cons_of_mem _ (ih h)

theorem mem_of_mem_insert [LT κ] [DecidableLT κ] {key : κ} {value : α} {m : List (κ × α)}
    {e : κ × α} (member : e ∈ insert key value m) : e = (key, value) ∨ e ∈ m := by
  fun_induction insert key value m <;> grind

theorem insert_insert_self [LT κ] [DecidableLT κ] (key : κ) (first second : α)
    (m : List (κ × α)) : insert key second (insert key first m) = insert key second m := by
  induction m with
  | nil => simp [insert]
  | cons e m ih =>
    obtain ⟨k, v⟩ := e
    by_cases same : k = key
    · simp [insert, same]
    · by_cases less : key < k <;> simp [insert, same, less, ih]

theorem find?_insert_self [LT κ] [DecidableLT κ] (key : κ) (value : α) (m : List (κ × α)) :
    find? key (insert key value m) = some value := by
  induction m with
  | nil => simp [insert, find?]
  | cons e m ih =>
    obtain ⟨k, v⟩ := e
    by_cases same : k = key
    · simp [insert, find?, same]
    · by_cases less : key < k <;> simp [insert, find?, same, less, ih]

theorem find?_insert_of_ne [LT κ] [DecidableLT κ] {key other : κ} (ne : key ≠ other) (value : α)
    (m : List (κ × α)) : find? other (insert key value m) = find? other m := by
  induction m with
  | nil => simp [insert, find?, ne]
  | cons e m ih =>
    obtain ⟨k, v⟩ := e
    by_cases same : k = key
    · subst same
      simp [insert, find?, ne]
    · by_cases less : key < k
      · simp [insert, find?, same, less, ne]
      · by_cases here : k = other
        · subst here
          simp [insert, find?, same, less]
        · simp [insert, find?, same, less, here, ih]

theorem find?_erase_self (key : κ) (m : List (κ × α)) : find? key (erase key m) = none := by
  induction m with
  | nil => rfl
  | cons e m ih =>
    obtain ⟨k, v⟩ := e
    by_cases same : k = key
    · simpa [erase, same] using ih
    · simpa [erase, same, find?] using ih

theorem find?_erase_of_ne {key other : κ} (ne : key ≠ other) (m : List (κ × α)) :
    find? other (erase key m) = find? other m := by
  induction m with
  | nil => rfl
  | cons e m ih =>
    obtain ⟨k, v⟩ := e
    by_cases same : k = key
    · have : find? other ((k, v) :: m) = find? other m := by simp [find?, same, ne]
      rw [this, ← ih]
      simp [erase, same]
    · by_cases here : k = other
      · simp [erase, find?, here, Ne.symm ne]
      · have kept : erase key ((k, v) :: m) = (k, v) :: erase key m := by simp [erase, same]
        rw [kept]
        simpa [find?, here] using ih

end Entries
end RecordEditing
