import RecordEditing.Proofs.Json.Restores

/-!
Fields read back from the members they were written as. What a reader gets depends only on the
members under its names.
-/
namespace RecordEditing

namespace Json

theorem word?_word (w : UInt32) : word? (.int w.toNat) = some w := by
  have small : (w.toNat : Int) < UInt32.size := by exact_mod_cast w.toNat_lt
  have fits : (0 : Int) ≤ w.toNat ∧ (w.toNat : Int) < UInt32.size :=
    ⟨Int.natCast_nonneg w.toNat, small⟩
  simp only [word?, int, if_pos fits, Int.toNat_natCast, UInt32.ofNat_toNat]

theorem listOf?_map {α : Type} {write : α → Json} {read : Json → Option α} {xs : List α}
    (back : ∀ x ∈ xs, read (write x) = some x) : listOf? read (.arr (xs.map write)) = some xs := by
  have each : ∀ x ∈ xs, Restores (read (write x)) x True := by
    intro x member
    rw [back x member]
    exact .of_some x
  exact (Restores.mapM write read each xs).mpr ⟨fun _ _ => trivial, rfl⟩

theorem forall_of_listOf? {α : Type} {read : Json → Option α} {holds : α → Prop} {j : Json}
    {xs : List α} (each : ∀ j x, read j = some x → holds x) (found : listOf? read j = some xs) :
    ∀ x ∈ xs, holds x := by
  obtain ⟨items, _, every⟩ := Option.bind_eq_some_iff.mp found
  intro x member
  obtain ⟨item, _, here⟩ := exists_of_mapM every x member
  exact each item x here

end Json

namespace Fields

variable {names : List String} {fs : Fields} {α : Type}

@[simp]
theorem given_nil (names : List String) : given names [] = [] := rfl

@[simp]
theorem given_append (names : List String) (fs more : Fields) :
    given names (fs ++ more) = given names fs ++ given names more := by
  unfold given
  rw [List.filter_append, List.map_append]

@[simp]
theorem given_cons (names : List String) (name : String) (j : Json) (fs : Fields) :
    given names ((name, j) :: fs) =
      if names.contains name then j :: given names fs else given names fs := by
  unfold given
  cases known : names.contains name <;> simp only [List.filter_cons, known] <;> rfl

@[simp]
theorem given_optionalMember (names : List String) (name : String) (o : Option Json) :
    given names (optionalMember name o) = if names.contains name then o.toList else [] := by
  cases o with
  | none => simp [optionalMember]
  | some j => simp [optionalMember]

@[simp]
theorem given_ite (names : List String) (p : Prop) [Decidable p] (fs more : Fields) :
    given names (if p then fs else more) = if p then given names fs else given names more :=
  apply_ite (given names) p fs more

theorem required?_of_given {read : Json → Option α} {j : Json} (here : given names fs = [j]) :
    required? names read fs = read j := by
  unfold required?
  rw [here]

theorem withDefault?_of_given {read : Json → Option α} {default x : α} {j : Json} {p : Prop}
    [Decidable p] (here : given names fs = if p then [] else [j]) (same : p → x = default)
    (back : ¬ p → read j = some x) : withDefault? names default read fs = some x := by
  unfold withDefault?
  rw [here]
  by_cases omitted : p
  · rw [if_pos omitted, same omitted]
  · rw [if_neg omitted]
    exact back omitted

theorem withDefault?_of_written {read : Json → Option α} {default : α} {j : Json}
    (here : given names fs = [j]) : withDefault? names default read fs = read j := by
  unfold withDefault?
  rw [here]

theorem optional?_of_given (write : α → Json) {read : Json → Option α} {o : Option α}
    (here : given names fs = (o.map write).toList) (notNull : ∀ x ∈ o, write x ≠ .null)
    (back : ∀ x ∈ o, read (write x) = some x) : optional? names read fs = some o := by
  unfold optional?
  rw [here]
  cases o with
  | none => rfl
  | some x =>
    split
    · next nothing => cases nothing
    · next null => exact absurd (List.cons.inj null).1 (notNull x rfl)
    · next j _ same =>
      obtain rfl := (List.cons.inj same).1
      rw [back x rfl]
      rfl
    · next several => exact absurd rfl (several (write x))

theorem optional?_str {o : Option String} (here : given names fs = (o.map Json.str).toList) :
    optional? names Json.str? fs = some o :=
  optional?_of_given Json.str here (fun _ _ => Json.noConfusion) (fun _ _ => rfl)

theorem optional?_value {o : Option Json} (here : given names fs = o.toList)
    (notNull : o ≠ some .null) : optional? names some fs = some o := by
  refine optional?_of_given id (by rw [here, Option.map_id, id]) ?_ fun _ _ => rfl
  rintro j rfl null
  exact notNull (congrArg some null)

theorem forall_of_list {read : Json → Option α} {holds : α → Prop} {xs : List α}
    (each : ∀ j x, read j = some x → holds x)
    (found : withDefault? names [] (Json.listOf? read) fs = some xs) : ∀ x ∈ xs, holds x := by
  rcases withDefault?_eq_some found with rfl | ⟨j, written⟩
  · exact fun x member => absurd member List.not_mem_nil
  · exact Json.forall_of_listOf? each written

theorem forall_of_optional {read : Json → Option α} {holds : α → Prop} {o : Option α}
    (each : ∀ j x, read j = some x → holds x) (found : optional? names read fs = some o) :
    ∀ x ∈ o, holds x := by
  rintro x rfl
  unfold optional? at found
  split at found
  · cases found
  · cases found
  · obtain ⟨y, here, same⟩ := Option.map_eq_some_iff.mp found
    cases same
    exact each _ x here
  · cases found

theorem optional?_ne_null {o : Option Json} (read : optional? names some fs = some o) :
    o ≠ some .null := by
  unfold optional? at read
  split at read
  · cases read
    simp
  · cases read
    simp
  · next j notNull _ =>
    cases read
    exact fun null => notNull (Option.some.inj null)
  · cases read

end Fields
end RecordEditing
