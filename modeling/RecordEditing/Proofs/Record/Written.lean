import RecordEditing.Proofs.Json.Literal
import RecordEditing.Record.Id

/-!
The written form of an address belongs to that address alone, although a provider's name may contain
colons: the last `::` that an id follows is the one that separates the two.
-/
namespace RecordEditing

theorem mem_of_append_singleton {c : Char} {xs ys zs : List Char} (same : xs ++ [c] = ys ++ zs)
    (nonempty : zs ≠ []) : c ∈ zs := by
  have last : c = (ys ++ zs).getLast (List.append_ne_nil_of_right_ne_nil ys nonempty) := by
    simp only [← same, List.getLast_concat]
  rw [last, List.getLast_append_of_ne_nil _ nonempty]
  exact List.getLast_mem nonempty

theorem isDigit_toDigits (n : Nat) : ∀ c ∈ Nat.toDigits 10 n, c.isDigit = true :=
  fun _ member => Nat.isDigit_of_mem_toDigits (by decide) (by decide) member

theorem digitsValue_toDigits (n : Nat) : digitsValue (Nat.toDigits 10 n) = n := by
  change Nat.ofDigitChars 10 (Nat.toDigits 10 n) 0 = n
  exact Nat.ofDigitChars_ten_toDigits

theorem toDigits_injective {m n : Nat} (same : Nat.toDigits 10 m = Nat.toDigits 10 n) : m = n := by
  rw [← digitsValue_toDigits m, same, digitsValue_toDigits]

namespace Number

theorem mem_intText {i : Int} {c : Char} (member : c ∈ intText i) : c = '-' ∨ c.isDigit = true := by
  unfold intText at member
  split at member
  · rcases List.mem_cons.mp member with rfl | digit
    · exact Or.inl rfl
    · exact Or.inr (isDigit_toDigits _ c digit)
  · exact Or.inr (isDigit_toDigits _ c member)

theorem intText_ne_nil (i : Int) : intText i ≠ [] := by
  unfold intText
  split
  · exact List.cons_ne_nil _ _
  · exact Nat.toDigits_ne_nil

theorem not_mem_intText {c : Char} (sign : c ≠ '-') (digit : c.isDigit = false) (i : Int) :
    c ∉ intText i := by
  intro member
  rcases mem_intText member with same | other
  · exact sign same
  · rw [digit] at other
    cases other

theorem intText_injective {i j : Int} (same : intText i = intText j) : i = j := by
  have unsigned : ∀ m n : Nat, Nat.toDigits 10 m ≠ '-' :: Nat.toDigits 10 n := by
    intro m n equal
    have sign : '-' ∈ Nat.toDigits 10 m := equal ▸ List.mem_cons_self
    have digit := isDigit_toDigits m '-' sign
    cases digit
  unfold intText at same
  split at same <;> split at same
  · have magnitudes := toDigits_injective (List.cons_eq_cons.mp same).2
    omega
  · exact absurd same.symm (unsigned _ _)
  · exact absurd same (unsigned _ _)
  · have magnitudes := toDigits_injective same
    omega

end Number

namespace RecordRef

theorem idChars_injective {a b : RecordId} (same : idChars a = idChars b) : a = b := by
  have apart : ∀ i s, idChars (.int i) ≠ idChars (.text s) := by
    intro i s equal
    have quote : '"' ∈ Number.intText i := by
      change '"' ∈ idChars (.int i)
      rw [equal]
      exact List.mem_cons_self
    exact Number.not_mem_intText (by decide) (by decide) i quote
  cases a with
  | int i =>
    cases b with
    | int j => exact congrArg RecordId.int (Number.intText_injective same)
    | text t => exact absurd same (apart i t)
  | text s =>
    cases b with
    | int j => exact absurd same.symm (apart j s)
    | text t => exact congrArg RecordId.text (String.toList_injective (Json.literal_injective same))

theorem idChars_ne_colon (id : RecordId) (cs : List Char) : idChars id ≠ ':' :: cs := by
  intro same
  cases id with
  | int i =>
    have colon : ':' ∈ Number.intText i := by
      change ':' ∈ idChars (.int i)
      rw [same]
      exact List.mem_cons_self
    exact Number.not_mem_intText (by decide) (by decide) i colon
  | text s => exact absurd (List.cons_eq_cons.mp same).1 (by decide)

theorem idChars_ne_mark (a b : RecordId) (u : List Char) :
    idChars a ≠ u ++ ':' :: ':' :: idChars b := by
  intro same
  cases a with
  | int i =>
    have colon : ':' ∈ Number.intText i := by
      change ':' ∈ idChars (.int i)
      simp [same]
    exact Number.not_mem_intText (by decide) (by decide) i colon
  | text s =>
    change ('"' :: s.toList.flatMap Json.escaped) ++ ['"'] = _ at same
    cases b with
    | int j =>
      have quote : '"' ∈ Number.intText j := by
        rw [List.append_cons u, List.append_cons (u ++ _)] at same
        exact mem_of_append_singleton same (Number.intText_ne_nil j)
      exact Number.not_mem_intText (by decide) (by decide) j quote
    | text t =>
      -- The second id would begin with a quote inside of the first one, right after a colon.
      cases u with
      | nil => cases same
      | cons q u =>
        have inside : s.toList.flatMap Json.escaped ++ ['"'] =
            (u ++ [':', ':']) ++ '"' :: (t.toList.flatMap Json.escaped ++ ['"']) := by
          rw [List.append_assoc]
          exact (List.cons_eq_cons.mp same).2
        rw [← List.cons_append, ← List.append_assoc, List.append_cancel_right_eq] at inside
        obtain ⟨w, before⟩ := Json.quotesEscaped_literal _ _ _ inside
        rw [List.append_cons] at before
        exact absurd (List.append_inj' before rfl).2 (by decide)

theorem eq_of_extended {a b : RecordId} {m : List Char}
    (same : ':' :: ':' :: idChars a = m ++ ':' :: ':' :: idChars b) : m = [] ∧ a = b := by
  match m with
  | [] => exact ⟨rfl, idChars_injective (by simpa using same)⟩
  | [c] => exact absurd (by simpa using (List.cons_eq_cons.mp same).2) (idChars_ne_colon a _)
  | c :: d :: m =>
    have inside := (List.cons_eq_cons.mp (List.cons_eq_cons.mp same).2).2
    exact absurd inside (idChars_ne_mark a b m)

theorem text_injective {a b : RecordRef} (same : a.text = b.text) : a = b := by
  obtain ⟨p, i⟩ := a
  obtain ⟨q, j⟩ := b
  have chars : p.toList ++ ':' :: ':' :: idChars i = q.toList ++ ':' :: ':' :: idChars j :=
    String.ofList_injective same
  have parts : p.toList = q.toList ∧ i = j := by
    rcases List.append_eq_append_iff.mp chars with ⟨m, longer, rest⟩ | ⟨m, longer, rest⟩
    · obtain ⟨rfl, ids⟩ := eq_of_extended rest
      exact ⟨by simpa using longer.symm, ids⟩
    · obtain ⟨rfl, ids⟩ := eq_of_extended rest
      exact ⟨by simpa using longer, ids.symm⟩
  rw [String.toList_injective parts.1, parts.2]

end RecordRef
end RecordEditing
