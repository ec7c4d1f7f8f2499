import RecordEditing.Named

/-!
Runs of writes to a list whose items have names. A write edits the first item of its name, or adds
one at the end. Writes to different names do not meet, so a whole run changes nothing the second time
if, for each name alone, its edits change nothing the second time.
-/
namespace RecordEditing
namespace Named

structure Write (α : Type) [Named α] where
  name : String
  fresh : α
  edit : α → α
  name_fresh : Named.name fresh = name
  name_edit : ∀ x, Named.name (edit x) = Named.name x

variable {α : Type} [Named α]

def Write.run (w : Write α) : List α → List α
  | [] => [w.edit w.fresh]
  | x :: xs => if Named.name x = w.name then w.edit x :: xs else x :: w.run xs

def runAll (ws : List (Write α)) (xs : List α) : List α := ws.foldl (fun xs w => w.run xs) xs

theorem runAll_append (ws more : List (Write α)) (xs : List α) :
    runAll (ws ++ more) xs = runAll more (runAll ws xs) := List.foldl_append

/-- What the writes to a name make of an item. -/
def edits (n : String) (ws : List (Write α)) (x : α) : α :=
  (ws.filter fun w => w.name == n).foldl (fun x w => w.edit x) x

def others (n : String) (ws : List (Write α)) : List (Write α) := ws.filter fun w => w.name != n

/-- For each name alone, its edits change nothing the second time. -/
def Settling (ws : List (Write α)) : Prop := ∀ n x, edits n ws (edits n ws x) = edits n ws x

variable {w : Write α} {ws : List (Write α)}

theorem edits_cons_self : edits w.name (w :: ws) = edits w.name ws ∘ w.edit := by
  funext x
  simp [edits]

theorem edits_cons_of_ne {n : String} (ne : w.name ≠ n) : edits n (w :: ws) = edits n ws := by
  funext x
  simp [edits, ne]

theorem others_cons_self : others w.name (w :: ws) = others w.name ws := by simp [others]

theorem others_cons_of_ne {n : String} (ne : w.name ≠ n) :
    others n (w :: ws) = w :: others n ws := by simp [others, ne]

theorem edits_others (n m : String) (ws : List (Write α)) :
    edits m (others n ws) = if m = n then id else edits m ws := by
  funext x
  unfold edits others
  rw [List.filter_filter]
  split
  · next same =>
    have untouched : ws.filter (fun w => w.name == m && w.name != n) = [] := by
      apply List.filter_eq_nil_iff.mpr
      intro w _
      simp [same]
    rw [untouched]
    rfl
  · next other =>
    have all : ws.filter (fun w => w.name == m && w.name != n) = ws.filter fun w => w.name == m := by
      apply List.filter_congr
      intro w _
      by_cases here : w.name = m
      · simp [here, other]
      · simp [here]
    rw [all]

theorem Settling.others (settling : Settling ws) (n : String) : Settling (Named.others n ws) := by
  intro m x
  rw [edits_others]
  split
  · rfl
  · exact settling m x

theorem runAll_cons (ws : List (Write α)) (x : α) (xs : List α) :
    runAll ws (x :: xs) = edits (name x) ws x :: runAll (others (name x) ws) xs := by
  induction ws generalizing x xs with
  | nil => rfl
  | cons w ws ih =>
    have step : runAll (w :: ws) (x :: xs) = runAll ws (w.run (x :: xs)) := rfl
    rw [step]
    by_cases same : w.name = name x
    · have run : w.run (x :: xs) = w.edit x :: xs := if_pos same.symm
      rw [run, ih, w.name_edit, ← same, edits_cons_self, others_cons_self]
      rfl
    · have run : w.run (x :: xs) = x :: w.run xs := if_neg (Ne.symm same)
      rw [run, ih, edits_cons_of_ne same, others_cons_of_ne same]
      rfl

theorem runAll_nil_cons (w : Write α) (ws : List (Write α)) :
    runAll (w :: ws) [] = edits w.name (w :: ws) w.fresh :: runAll (others w.name ws) [] := by
  have step : runAll (w :: ws) [] = runAll ws [w.edit w.fresh] := rfl
  rw [step, runAll_cons, w.name_edit, w.name_fresh, edits_cons_self]
  rfl

theorem name_edits (n : String) (ws : List (Write α)) (x : α) : name (edits n ws x) = name x := by
  unfold edits
  induction ws.filter (fun w => w.name == n) generalizing x with
  | nil => rfl
  | cons w ws ih => rw [List.foldl_cons, ih, w.name_edit]

theorem runAll_nil_again {ws : List (Write α)} (settling : Settling ws) :
    runAll ws (runAll ws []) = runAll ws [] := by
  induction count : ws.length using Nat.strongRecOn generalizing ws with
  | ind k ih =>
    cases ws with
    | nil => rfl
    | cons w ws =>
      have fewer : (others w.name ws).length < k := by
        have := List.length_filter_le (fun v : Write α => v.name != w.name) ws
        rw [List.length_cons] at count
        unfold others
        omega
      have kept := settling.others w.name
      rw [others_cons_self] at kept
      rw [runAll_nil_cons, runAll_cons, name_edits, w.name_fresh, settling, others_cons_self,
        ih _ fewer kept rfl]

theorem runAll_again {ws : List (Write α)} (settling : Settling ws) (xs : List α) :
    runAll ws (runAll ws xs) = runAll ws xs := by
  induction xs generalizing ws with
  | nil => exact runAll_nil_again settling
  | cons x xs ih => rw [runAll_cons, runAll_cons, name_edits, settling, ih (settling.others _)]

/-- Writes settle if any selection of them, made twice on an item, does nothing the second time. -/
theorem settling_map {β : Type} (write : β → Write α) {bs : List β}
    (again : ∀ cs, cs ⊆ bs → ∀ x, cs.foldl (fun x b => (write b).edit x)
      (cs.foldl (fun x b => (write b).edit x) x) = cs.foldl (fun x b => (write b).edit x) x) :
    Settling (bs.map write) := by
  intro n x
  unfold edits
  simp only [List.filter_map, List.foldl_map]
  exact again _ List.filter_sublist.subset x

theorem Write.mem_run {y : α} {xs : List α} (member : y ∈ w.run xs) :
    y ∈ xs ∨ ∃ x, (x ∈ xs ∨ x = w.fresh) ∧ Named.name x = w.name ∧ y = w.edit x := by
  induction xs with
  | nil => exact Or.inr ⟨w.fresh, Or.inr rfl, w.name_fresh, List.mem_singleton.mp member⟩
  | cons x xs ih =>
    unfold Write.run at member
    split at member
    · next same =>
      rcases List.mem_cons.mp member with edited | old
      · exact Or.inr ⟨x, Or.inl List.mem_cons_self, same, edited⟩
      · exact Or.inl (List.mem_cons_of_mem x old)
    · rcases List.mem_cons.mp member with rfl | later
      · exact Or.inl List.mem_cons_self
      · rcases ih later with old | ⟨z, source, named, edited⟩
        · exact Or.inl (List.mem_cons_of_mem x old)
        · exact Or.inr ⟨z, source.imp_left (List.mem_cons_of_mem x), named, edited⟩

theorem forall_mem_runAll {P : α → Prop} {ws : List (Write α)}
    (edited : ∀ w ∈ ws, ∀ x, P x ∨ x = w.fresh → name x = w.name → P (w.edit x)) {xs : List α}
    (start : ∀ x ∈ xs, P x) : ∀ x ∈ runAll ws xs, P x := by
  induction ws generalizing xs with
  | nil => exact start
  | cons w ws ih =>
    apply ih fun v member => edited v (List.mem_cons_of_mem w member)
    intro x member
    rcases Write.mem_run member with old | ⟨y, source, named, rfl⟩
    · exact start x old
    · exact edited w List.mem_cons_self y (source.imp_left (start y)) named

section Forms

theorem missing_of_cons {n : String} {x : α} {xs : List α} (missing : has n (x :: xs) = false) :
    Named.name x ≠ n ∧ has n xs = false := by
  unfold has at missing ⊢
  rwa [List.any_cons, Bool.or_eq_false_iff, beq_eq_false_iff_ne] at missing

theorem Write.run_of_missing {xs : List α} (missing : has w.name xs = false) :
    w.run xs = xs ++ [w.edit w.fresh] := by
  induction xs with
  | nil => rfl
  | cons x xs ih =>
    obtain ⟨other, later⟩ := missing_of_cons missing
    have run : w.run (x :: xs) = x :: w.run xs := if_neg other
    rw [run, ih later]
    rfl

theorem Write.run_append_fresh {xs : List α} (missing : has w.name xs = false) :
    w.run (xs ++ [w.fresh]) = xs ++ [w.edit w.fresh] := by
  induction xs with
  | nil => exact if_pos w.name_fresh
  | cons x xs ih =>
    obtain ⟨other, later⟩ := missing_of_cons missing
    have run : w.run (x :: xs ++ [w.fresh]) = x :: w.run (xs ++ [w.fresh]) := if_neg other
    rw [run, ih later]
    rfl

theorem Write.run_of_has {xs : List α} (there : has w.name xs = true) :
    w.run xs = update w.name w.edit xs := by
  induction xs with
  | nil => cases there
  | cons x xs ih =>
    by_cases same : Named.name x = w.name
    · simp [Write.run, update, same]
    · have later : has w.name xs = true := by simpa [has, same] using there
      simp [Write.run, update, same, ih later]

theorem Write.run_eq_ite (w : Write α) (xs : List α) :
    w.run xs = if has w.name xs then update w.name w.edit xs else xs ++ [w.edit w.fresh] := by
  cases there : has w.name xs with
  | true => rw [if_pos rfl, run_of_has there]
  | false => rw [if_neg (by decide), run_of_missing there]

theorem Write.nodup_run (w : Write α) {xs : List α} (distinct : (xs.map Named.name).Nodup) :
    ((w.run xs).map Named.name).Nodup := by
  rw [w.run_eq_ite]
  split
  · rwa [map_name_update w.name_edit]
  · next missing =>
    apply nodup_insertAt none distinct
    rwa [w.name_edit, w.name_fresh, ← has_iff]

theorem nodup_runAll (ws : List (Write α)) {xs : List α} (distinct : (xs.map name).Nodup) :
    ((runAll ws xs).map name).Nodup := by
  induction ws generalizing xs with
  | nil => exact distinct
  | cons w ws ih => exact ih (w.nodup_run distinct)

theorem Write.run_eq_update (w : Write α) (xs : List α) :
    w.run xs = update w.name w.edit (if has w.name xs then xs else xs ++ [w.fresh]) := by
  cases there : has w.name xs with
  | true => rw [if_pos rfl, run_of_has there]
  | false =>
    have ensured : has w.name (xs ++ [w.fresh]) = true := by
      simp [has, w.name_fresh]
    rw [if_neg (by decide), ← run_of_has ensured, run_append_fresh there, run_of_missing there]

theorem update_found {n : String} {xs : List α} {x : α} (found : find? n xs = some x)
    (f : α → α) : update n (fun _ => f x) xs = update n f xs := by
  induction xs with
  | nil => rfl
  | cons y ys ih =>
    by_cases same : Named.name y = n
    · obtain rfl : y = x := by simpa [find?, same] using found
      simp [update, same]
    · have later : find? n ys = some x := by simpa [find?, same] using found
      simp [update, same, ih later]

def Write.item (w : Write α) (xs : List α) : α := w.edit ((find? w.name xs).getD w.fresh)

theorem Write.name_item (w : Write α) (xs : List α) : Named.name (w.item xs) = w.name := by
  unfold Write.item
  rw [w.name_edit]
  cases found : find? w.name xs with
  | none => exact w.name_fresh
  | some x =>
    have named := List.find?_some found
    exact beq_iff_eq.mp named

theorem Write.run_eq_replace (w : Write α) (xs : List α) :
    w.run xs = if has w.name xs then update w.name (fun _ => w.item xs) xs
      else xs ++ [w.item xs] := by
  have there : has w.name xs = (find? w.name xs).isSome := List.isSome_find?.symm
  rw [w.run_eq_ite, there]
  unfold Write.item
  cases found : find? w.name xs with
  | none => rfl
  | some x => exact (update_found found w.edit).symm

end Forms

end Named
end RecordEditing
