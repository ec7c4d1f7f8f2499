import RecordEditing.Json.Fields

/-!
Reading what was written. A reader restores a value if it reads the value itself or nothing at all;
readers that restore the parts of a value restore the whole.
-/
namespace RecordEditing

variable {α β γ : Type}

/-- The value is read if the condition holds, and nothing is read otherwise. -/
def Restores (read : Option α) (x : α) (readable : Prop) : Prop :=
  ∀ y, read = some y ↔ readable ∧ y = x

namespace Restores

variable {read : Option α} {x : α} {readable : Prop}

theorem of_some (x : α) : Restores (some x) x True := by
  intro y
  simp [eq_comm]

theorem congr {other : Prop} (restores : Restores read x readable) (same : readable ↔ other) :
    Restores read x other := by
  intro y
  rw [restores y, same]

theorem bind {z : β} {later : Prop} (restores : Restores read x readable) (next : α → Option β)
    (rest : Restores (next x) z later) : Restores (read.bind next) z (readable ∧ later) := by
  intro y
  rw [Option.bind_eq_some_iff]
  constructor
  · rintro ⟨middle, here, there⟩
    obtain ⟨holds, rfl⟩ := (restores middle).mp here
    obtain ⟨more, same⟩ := (rest y).mp there
    exact ⟨⟨holds, more⟩, same⟩
  · rintro ⟨⟨holds, more⟩, same⟩
    exact ⟨x, (restores x).mpr ⟨holds, rfl⟩, (rest y).mpr ⟨more, same⟩⟩

theorem map (restores : Restores read x readable) (f : α → β) :
    Restores (read.map f) (f x) readable := by
  rw [Option.map_eq_bind]
  exact (restores.bind _ (of_some (f x))).congr (and_iff_left trivial)

theorem mapM (write : α → β) (read : β → Option α) {readable : α → Prop} {xs : List α}
    (each : ∀ x ∈ xs, Restores (read (write x)) x (readable x)) :
    Restores ((xs.map write).mapM read) xs (∀ x ∈ xs, readable x) := by
  induction xs with
  | nil => exact (of_some []).congr (by simp)
  | cons x xs ih =>
    have later := ih fun y member => each y (List.mem_cons_of_mem x member)
    have whole := (each x List.mem_cons_self).bind
      (fun y => ((xs.map write).mapM read).bind fun ys => some (y :: ys))
      (later.bind (fun ys => some (x :: ys)) (of_some (x :: xs)))
    rw [List.map_cons, List.mapM_cons]
    exact whole.congr (by rw [and_true, List.forall_mem_cons])

theorem getD_eq (restores : Restores read x readable) (fallback : α) :
    readable ∧ read.getD fallback = x ∨ ¬ readable ∧ read.getD fallback = fallback := by
  cases found : read with
  | none =>
    refine Or.inr ⟨fun holds => ?_, rfl⟩
    have missed := (restores x).mpr ⟨holds, rfl⟩
    rw [found] at missed
    cases missed
  | some y => exact Or.inl ((restores y).mp found)

end Restores

theorem exists_of_mapM {read : β → Option α} {entries : List β} {xs : List α}
    (found : entries.mapM read = some xs) : ∀ x ∈ xs, ∃ e ∈ entries, read e = some x := by
  induction entries generalizing xs with
  | nil =>
    cases found
    exact fun x member => absurd member List.not_mem_nil
  | cons e entries ih =>
    rw [List.mapM_cons] at found
    obtain ⟨y, here, more⟩ := Option.bind_eq_some_iff.mp found
    obtain ⟨ys, later, same⟩ := Option.bind_eq_some_iff.mp more
    cases same
    intro x member
    rcases List.mem_cons.mp member with rfl | other
    · exact ⟨e, List.mem_cons_self, here⟩
    · obtain ⟨f, among, read⟩ := ih later x other
      exact ⟨f, List.mem_cons_of_mem e among, read⟩

namespace Fields

variable {names : List String} {fs : Fields}

theorem withDefault?_eq_some {default x : α} {read : Json → Option α}
    (found : withDefault? names default read fs = some x) :
    x = default ∨ ∃ j, read j = some x := by
  unfold withDefault? at found
  split at found
  · exact Or.inl (Option.some.inj found).symm
  · exact Or.inr ⟨_, found⟩
  · cases found

end Fields
end RecordEditing
