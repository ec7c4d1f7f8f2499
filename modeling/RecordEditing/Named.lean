/-!
Lists whose items have names. A name addresses the first item that has it.
-/
namespace RecordEditing

def firstSeen (names : List String) : List String :=
  names.foldl (fun seen n => if seen.contains n then seen else seen ++ [n]) []

theorem mem_firstSeen {n : String} {names : List String} : n ∈ firstSeen names ↔ n ∈ names := by
  have run : ∀ seen : List String,
      n ∈ names.foldl (fun seen m => if seen.contains m then seen else seen ++ [m]) seen ↔
        n ∈ seen ∨ n ∈ names := by
    induction names with
    | nil => simp
    | cons m names ih =>
      intro seen
      rw [List.foldl_cons, ih, List.mem_cons]
      split
      · next again =>
        have known : n = m → n ∈ seen := fun same => same ▸ List.contains_iff_mem.mp again
        constructor
        · exact Or.imp_right Or.inr
        · rintro (there | here | later)
          · exact Or.inl there
          · exact Or.inl (known here)
          · exact Or.inr later
      · rw [List.mem_append, List.mem_singleton, or_assoc]
  exact (run []).trans (or_iff_right List.not_mem_nil)

class Named (α : Type) where
  name : α → String

namespace Named

variable {α : Type} [Named α]

def find? (n : String) (xs : List α) : Option α := xs.find? fun x => name x == n

def has (n : String) (xs : List α) : Bool := xs.any fun x => name x == n

def remove (n : String) (xs : List α) : List α := xs.eraseP fun x => name x == n

def update (n : String) (f : α → α) : List α → List α
  | [] => []
  | x :: xs => if name x = n then f x :: xs else x :: update n f xs

def insertBefore (n : String) (item : α) : List α → List α
  | [] => [item]
  | x :: xs => if name x = n then item :: x :: xs else x :: insertBefore n item xs

def insertAt (before : Option String) (item : α) (xs : List α) : List α :=
  match before with
  | some n => insertBefore n item xs
  | none => xs ++ [item]

theorem has_iff {n : String} {xs : List α} : has n xs = true ↔ n ∈ xs.map name := by
  simp [has]

variable {n : String} {f : α → α}

theorem map_name_update (keeps : ∀ x, name (f x) = name x) (xs : List α) :
    (update n f xs).map name = xs.map name := by
  induction xs with
  | nil => rfl
  | cons x xs ih => by_cases same : name x = n <;> simp [update, same, keeps, ih]

theorem mem_update {xs : List α} (distinct : (xs.map name).Nodup) {y : α} :
    y ∈ update n f xs ↔ (∃ x ∈ xs, name x = n ∧ y = f x) ∨ y ∈ xs ∧ name y ≠ n := by
  induction xs with
  | nil => simp [update]
  | cons x xs ih =>
    obtain ⟨other, rest⟩ := List.nodup_cons.mp distinct
    by_cases same : name x = n
    · have later : ∀ z ∈ xs, name z ≠ n := by
        intro z member again
        exact other (List.mem_map.mpr ⟨z, member, again.trans same.symm⟩)
      simp only [update, same, ↓reduceIte, List.mem_cons]
      constructor
      · rintro (rfl | member)
        · exact Or.inl ⟨x, Or.inl rfl, same, rfl⟩
        · exact Or.inr ⟨Or.inr member, later y member⟩
      · rintro (⟨z, rfl | member, named, rfl⟩ | ⟨rfl | member, unnamed⟩)
        · exact Or.inl rfl
        · exact absurd named (later z member)
        · exact absurd same unnamed
        · exact Or.inr member
    · simp only [update, same, ↓reduceIte, List.mem_cons, ih rest]
      constructor
      · rintro (rfl | ⟨z, member, named, rfl⟩ | ⟨member, unnamed⟩)
        · exact Or.inr ⟨Or.inl rfl, same⟩
        · exact Or.inl ⟨z, Or.inr member, named, rfl⟩
        · exact Or.inr ⟨Or.inr member, unnamed⟩
      · rintro (⟨z, rfl | member, named, rfl⟩ | ⟨rfl | member, unnamed⟩)
        · exact absurd named same
        · exact Or.inr (Or.inl ⟨z, member, named, rfl⟩)
        · exact Or.inl rfl
        · exact Or.inr (Or.inr ⟨member, unnamed⟩)

theorem find?_cons (m : String) (x : α) (xs : List α) :
    find? m (x :: xs) = if name x = m then some x else find? m xs := by
  by_cases same : name x = m <;> simp [find?, same]

theorem find?_append (m : String) (xs ys : List α) :
    find? m (xs ++ ys) = (find? m xs).or (find? m ys) := List.find?_append

theorem find?_eq_none_iff {m : String} {xs : List α} : find? m xs = none ↔ m ∉ xs.map name := by
  simp [find?]

theorem find?_of_mem {xs : List α} (distinct : (xs.map name).Nodup) {x : α} (member : x ∈ xs) :
    find? (name x) xs = some x := by
  induction xs with
  | nil => cases member
  | cons y ys ih =>
    obtain ⟨other, rest⟩ := List.nodup_cons.mp distinct
    rw [find?_cons]
    rcases List.mem_cons.mp member with rfl | later
    · exact if_pos rfl
    · have unlike : name y ≠ name x := fun same => other (same ▸ List.mem_map_of_mem later)
      rw [if_neg unlike, ih rest later]

theorem find?_update (keeps : ∀ x, name (f x) = name x) (m : String) (xs : List α) :
    find? m (update n f xs) = if n = m then (find? m xs).map f else find? m xs := by
  induction xs with
  | nil => simp [update, find?]
  | cons x xs ih =>
    unfold update
    by_cases same : name x = n
    · rw [if_pos same, find?_cons, find?_cons, keeps, same]
      split <;> rfl
    · rw [if_neg same, find?_cons, find?_cons, ih]
      split
      · next here => rw [if_neg fun there => same (here.trans there.symm)]
      · rfl

theorem insertAt_split (before : Option String) (item : α) (xs : List α) :
    ∃ front back, xs = front ++ back ∧ insertAt before item xs = front ++ item :: back := by
  cases before with
  | none => exact ⟨xs, [], (List.append_nil xs).symm, rfl⟩
  | some n =>
    change ∃ front back, xs = front ++ back ∧ insertBefore n item xs = front ++ item :: back
    induction xs with
    | nil => exact ⟨[], [], rfl, rfl⟩
    | cons x xs ih =>
      unfold insertBefore
      split
      · exact ⟨[], x :: xs, rfl, rfl⟩
      · obtain ⟨front, back, split, put⟩ := ih
        exact ⟨x :: front, back, congrArg (x :: ·) split, congrArg (x :: ·) put⟩

theorem nodup_insertAt {xs : List α} {item : α} (before : Option String)
    (distinct : (xs.map name).Nodup) (new : name item ∉ xs.map name) :
    ((insertAt before item xs).map name).Nodup := by
  obtain ⟨front, back, rfl, put⟩ := insertAt_split before item xs
  rw [put, (List.perm_middle.map name).nodup_iff]
  exact List.nodup_cons.mpr ⟨new, distinct⟩

theorem find?_insertAt {xs : List α} {item : α} (before : Option String)
    (new : name item ∉ xs.map name) (m : String) :
    find? m (insertAt before item xs) = if name item = m then some item else find? m xs := by
  obtain ⟨front, back, rfl, put⟩ := insertAt_split before item xs
  rw [put, find?_append, find?_append, find?_cons]
  split
  · next here =>
    have early : find? m front = none := by
      rw [find?_eq_none_iff]
      intro there
      rw [here, List.map_append] at new
      exact new (List.mem_append_left _ there)
    rw [early, Option.none_or]
  · rfl

theorem nodup_remove {xs : List α} (distinct : (xs.map name).Nodup) :
    ((remove n xs).map name).Nodup :=
  (List.eraseP_sublist.map name).nodup distinct

theorem find?_remove {xs : List α} (distinct : (xs.map name).Nodup) (m : String) :
    find? m (remove n xs) = if n = m then none else find? m xs := by
  induction xs with
  | nil => simp [remove, find?]
  | cons x xs ih =>
    obtain ⟨other, rest⟩ := List.nodup_cons.mp distinct
    by_cases same : name x = n
    · have kept : remove n (x :: xs) = xs := by simp [remove, same]
      rw [kept, find?_cons, same]
      split
      · next here => exact find?_eq_none_iff.mpr (here ▸ same ▸ other)
      · rfl
    · have kept : remove n (x :: xs) = x :: remove n xs := by simp [remove, same]
      rw [kept, find?_cons, find?_cons, ih rest]
      split
      · next here => rw [if_neg fun there => same (here.trans there.symm)]
      · rfl

end Named
end RecordEditing
