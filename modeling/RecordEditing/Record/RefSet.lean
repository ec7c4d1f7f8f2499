import RecordEditing.Record.Id

/-!
Sets of addresses as sorted lists.
-/
namespace RecordEditing
namespace RefSet

def insert (ref : RecordRef) : List RecordRef → List RecordRef
  | [] => [ref]
  | r :: rs =>
    if r = ref then r :: rs
    else if ref < r then ref :: r :: rs
    else r :: insert ref rs

def union (set refs : List RecordRef) : List RecordRef := refs.foldl (fun s r => insert r s) set

def ofList (refs : List RecordRef) : List RecordRef := union [] refs

theorem mem_insert {x ref : RecordRef} {set : List RecordRef} :
    x ∈ insert ref set ↔ x = ref ∨ x ∈ set := by
  induction set with
  | nil => simp [insert]
  | cons r rs ih =>
    by_cases same : r = ref
    · simp [insert, same]
    · by_cases less : ref < r
      · simp [insert, same, less]
      · simp only [insert, same, less, ↓reduceIte, List.mem_cons, ih]
        grind

theorem mem_union {x : RecordRef} {set refs : List RecordRef} :
    x ∈ union set refs ↔ x ∈ set ∨ x ∈ refs := by
  unfold union
  induction refs generalizing set with
  | nil => simp
  | cons r rs ih =>
    simp only [List.foldl_cons, ih, mem_insert, List.mem_cons]
    grind

theorem mem_ofList {x : RecordRef} {refs : List RecordRef} : x ∈ ofList refs ↔ x ∈ refs := by
  simp [ofList, mem_union]

end RefSet
end RecordEditing
