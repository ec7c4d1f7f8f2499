import RecordEditing.Container.Descendants

/-!
What the collection of descendants finds: the start, and with every address those of the children
of its record.
-/
namespace RecordEditing
namespace Container

/-- The second address is that of a child of the record at the first. -/
def ChildAt (c : Container) (store : Store) (above below : RecordRef) : Prop :=
  ∃ r children child, recordAt store above = .ok (some r) ∧
    c.childrenOf store r none = .ok children ∧ child ∈ children ∧ child.ref? = some below

variable {c : Container} {store : Store}

theorem childAt_iff_of_missing {ref : RecordRef}
    (missing : recordAt store ref = .ok none) (b : RecordRef) :
    ChildAt c store ref b ↔ b ∈ ([] : List RecordRef) := by
  constructor
  · intro ⟨r, _, _, present, _⟩
    rw [missing] at present
    cases present
  · intro member
    cases member

theorem childAt_iff_of_found {ref : RecordRef} {r : Record} {children : List Record}
    (present : recordAt store ref = .ok (some r))
    (below : c.childrenOf store r none = .ok children) (b : RecordRef) :
    ChildAt c store ref b ↔ b ∈ children.filterMap Record.ref? := by
  rw [List.mem_filterMap]
  constructor
  · intro ⟨s, others, child, found, listed, member, address⟩
    obtain rfl : s = r := by
      rw [present] at found
      exact (Option.some.inj (Except.ok.inj found)).symm
    obtain rfl : others = children := Except.ok.inj (listed.symm.trans below)
    exact ⟨child, member, address⟩
  · intro ⟨child, member, address⟩
    exact ⟨r, children, child, present, below, member, address⟩

theorem mem_of_descend {seen queue found : List RecordRef}
    (h : c.descend store seen queue = .ok found) : ∀ a, a ∈ seen ∨ a ∈ queue → a ∈ found := by
  fun_induction descend c store seen queue with
  | case1 seen =>
    cases h
    intro a member
    simpa using member
  | case2 seen ref queue known ih =>
    intro a member
    apply ih h
    rcases member with before | queued
    · exact Or.inl before
    · rcases List.mem_cons.mp queued with rfl | later
      · exact Or.inl known
      · exact Or.inr later
  | case3 seen ref queue new e failed => cases h
  | case4 seen ref queue new missing ih =>
    intro a member
    apply ih h
    grind
  | case5 seen ref queue new r found e failed => cases h
  | case6 seen ref queue new r found children below ih =>
    intro a member
    apply ih h
    grind

/-- Every address that is met is followed: the addresses of its children are met as well. -/
theorem closed_of_descend {seen queue found : List RecordRef}
    (h : c.descend store seen queue = .ok found) :
    ∀ a ∈ found, a ∉ seen → ∀ b, ChildAt c store a b → b ∈ found := by
  -- What was seen before the call need not be followed in it, hence the restriction to the rest.
  fun_induction descend c store seen queue with
  | case1 seen =>
    cases h
    intro a met unseen
    exact absurd (by simpa using met) unseen
  | case2 seen ref queue known ih => exact ih h
  | case3 seen ref queue new e failed => cases h
  | case4 seen ref queue new missing ih =>
    intro a met unseen b child
    by_cases here : a = ref
    · cases (childAt_iff_of_missing missing b).mp (here ▸ child)
    · exact ih h a met (by simp [here, unseen]) b child
  | case5 seen ref queue new r present e failed => cases h
  | case6 seen ref queue new r present children below ih =>
    intro a met unseen b child
    by_cases here : a = ref
    · have queued := (childAt_iff_of_found present below b).mp (here ▸ child)
      exact mem_of_descend h b (Or.inr (List.mem_append_right _ queued))
    · exact ih h a met (by simp [here, unseen]) b child

theorem descend_found {seen queue : List RecordRef} {ref : RecordRef} {r : Record}
    {children : List Record} (new : ref ∉ seen) (present : recordAt store ref = .ok (some r))
    (below : c.childrenOf store r none = .ok children) :
    c.descend store seen (ref :: queue) =
      c.descend store (ref :: seen) (queue ++ children.filterMap Record.ref?) := by
  rw [descend, dif_neg new]
  split
  · next failed =>
    rw [present] at failed
    cases failed
  · next missing =>
    rw [present] at missing
    cases missing
  · next s found =>
    obtain rfl : r = s := by
      rw [present] at found
      exact Option.some.inj (Except.ok.inj found)
    rw [below]

theorem start_mem_descendants {start : RecordRef} {found : List RecordRef}
    (h : c.descendants store start = .ok found) : start ∈ found :=
  mem_of_descend h start (Or.inr (by simp))

theorem child_mem_descendants {start above below : RecordRef} {found : List RecordRef}
    (h : c.descendants store start = .ok found) (met : above ∈ found)
    (child : ChildAt c store above below) : below ∈ found :=
  closed_of_descend h above met (by simp) below child

end Container
end RecordEditing
