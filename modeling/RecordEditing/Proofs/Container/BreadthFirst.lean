import RecordEditing.Proofs.Container.Descendants

/-!
The collection of descendants is a breadth-first search. What is still queued lies at one distance
from the start or the next; all that is nearer was met before. So the addresses are met in the order
of their distances, in data of any shape.
-/
namespace RecordEditing
namespace Container

/-- The address is reached from the start over so many children. -/
inductive Steps (c : Container) (store : Store) (start : RecordRef) : Nat → RecordRef → Prop where
  | zero : Steps c store start 0 start
  | next {n above below} :
      Steps c store start n above → ChildAt c store above below →
      Steps c store start (n + 1) below

/-- However the second address is reached, the first is reached in no more steps. -/
def NoFarther (c : Container) (store : Store) (start a b : RecordRef) : Prop :=
  ∀ n, Steps c store start n b → ∃ m, m ≤ n ∧ Steps c store start m a

/-- No lookup at the address fails. -/
def Answers (c : Container) (store : Store) (a : RecordRef) : Prop :=
  ∃ present, recordAt store a = .ok present ∧
    ∀ r ∈ present, ∃ children, c.childrenOf store r none = .ok children

/-- The state of the search at a distance: what was seen, the last one first, what is queued at this
distance and what is queued at the next. -/
structure Frontier (c : Container) (store : Store) (start : RecordRef) (d : Nat)
    (seen here next : List RecordRef) : Prop where
  nearer : ∀ m a, m < d → Steps c store start m a → a ∈ seen
  level : ∀ a, Steps c store start d a → a ∈ seen ∨ a ∈ here
  closed : ∀ a ∈ seen, ∀ b, ChildAt c store a b → b ∈ seen ∨ b ∈ here ∨ b ∈ next
  here_steps : ∀ a ∈ here, Steps c store start d a
  next_steps : ∀ a ∈ next, Steps c store start (d + 1) a
  seen_steps : ∀ a ∈ seen, ∃ m, m ≤ d ∧ Steps c store start m a
  distinct : seen.Nodup
  ordered : seen.Pairwise fun b a => NoFarther c store start a b

variable {c : Container} {store : Store} {start ref : RecordRef} {d : Nat}
  {seen here next : List RecordRef}

theorem Frontier.initial (c : Container) (store : Store) (start : RecordRef) :
    Frontier c store start 0 [] [start] [] where
  nearer m a less := absurd less (Nat.not_lt_zero m)
  level a steps := by
    cases steps
    exact Or.inr List.mem_cons_self
  closed a member := absurd member List.not_mem_nil
  here_steps a member := by
    obtain rfl := List.mem_singleton.mp member
    exact .zero
  next_steps a member := absurd member List.not_mem_nil
  seen_steps a member := absurd member List.not_mem_nil
  distinct := .nil
  ordered := .nil

theorem Frontier.advance (front : Frontier c store start d seen [] next) :
    Frontier c store start (d + 1) seen next [] where
  nearer m a less steps := by
    rcases Nat.lt_succ_iff_lt_or_eq.mp less with nearer | rfl
    · exact front.nearer m a nearer steps
    · exact (front.level a steps).resolve_right List.not_mem_nil
  level a steps := by
    cases steps with
    | next before child =>
      have met := (front.level _ before).resolve_right List.not_mem_nil
      rcases front.closed _ met a child with old | none | queued
      · exact Or.inl old
      · cases none
      · exact Or.inr queued
  closed a member b child := by
    rcases front.closed a member b child with old | none | queued
    · exact Or.inl old
    · cases none
    · exact Or.inr (Or.inl queued)
  here_steps := front.next_steps
  next_steps a member := absurd member List.not_mem_nil
  seen_steps a member := by
    obtain ⟨m, le, steps⟩ := front.seen_steps a member
    exact ⟨m, Nat.le_succ_of_le le, steps⟩
  distinct := front.distinct
  ordered := front.ordered

theorem Frontier.pass (front : Frontier c store start d seen (ref :: here) next)
    (known : ref ∈ seen) : Frontier c store start d seen here next where
  nearer := front.nearer
  level a steps := by
    rcases front.level a steps with old | queued
    · exact Or.inl old
    · rcases List.mem_cons.mp queued with rfl | later
      · exact Or.inl known
      · exact Or.inr later
  closed a member b child := by
    rcases front.closed a member b child with old | queued | after
    · exact Or.inl old
    · rcases List.mem_cons.mp queued with rfl | later
      · exact Or.inl known
      · exact Or.inr (Or.inl later)
    · exact Or.inr (Or.inr after)
  here_steps a member := front.here_steps a (List.mem_cons_of_mem ref member)
  next_steps := front.next_steps
  seen_steps := front.seen_steps
  distinct := front.distinct
  ordered := front.ordered

theorem Frontier.meet (front : Frontier c store start d seen (ref :: here) next)
    (new : ref ∉ seen) {below : List RecordRef}
    (children : ∀ b, ChildAt c store ref b ↔ b ∈ below) :
    Frontier c store start d (ref :: seen) here (next ++ below) where
  nearer m a less steps := List.mem_cons_of_mem ref (front.nearer m a less steps)
  level a steps := by
    rcases front.level a steps with old | queued
    · exact Or.inl (List.mem_cons_of_mem ref old)
    · rcases List.mem_cons.mp queued with rfl | later
      · exact Or.inl List.mem_cons_self
      · exact Or.inr later
  closed a member b child := by
    rcases List.mem_cons.mp member with rfl | before
    · exact Or.inr (Or.inr (List.mem_append_right next ((children b).mp child)))
    · rcases front.closed a before b child with old | queued | after
      · exact Or.inl (List.mem_cons_of_mem ref old)
      · rcases List.mem_cons.mp queued with rfl | later
        · exact Or.inl List.mem_cons_self
        · exact Or.inr (Or.inl later)
      · exact Or.inr (Or.inr (List.mem_append_left below after))
  here_steps a member := front.here_steps a (List.mem_cons_of_mem ref member)
  next_steps a member := by
    rcases List.mem_append.mp member with after | child
    · exact front.next_steps a after
    · exact .next (front.here_steps ref List.mem_cons_self) ((children a).mpr child)
  seen_steps a member := by
    rcases List.mem_cons.mp member with rfl | before
    · exact ⟨d, Nat.le_refl d, front.here_steps a List.mem_cons_self⟩
    · exact front.seen_steps a before
  distinct := List.nodup_cons.mpr ⟨new, front.distinct⟩
  ordered := by
    refine .cons ?_ front.ordered
    intro a before n steps
    -- What is nearer than this distance was met already, and this address was not.
    have far : d ≤ n := by
      rcases Nat.lt_or_ge n d with less | far
      · exact absurd (front.nearer n ref less steps) new
      · exact far
    obtain ⟨m, le, reached⟩ := front.seen_steps a before
    exact ⟨m, Nat.le_trans le far, reached⟩

theorem Frontier.first {queue : List RecordRef}
    (front : Frontier c store start d seen here next) (split : ref :: queue = here ++ next) :
    ∃ e rest later, Frontier c store start e seen (ref :: rest) later ∧ queue = rest ++ later := by
  cases here with
  | nil =>
    obtain rfl : ref :: queue = next := split
    exact ⟨d + 1, queue, [], front.advance, (List.append_nil queue).symm⟩
  | cons a rest =>
    obtain ⟨rfl, rfl⟩ := List.cons.inj split
    exact ⟨d, rest, next, front, rfl⟩

theorem Frontier.final {queue found : List RecordRef}
    (run : c.descend store seen queue = .ok found) {here next : List RecordRef}
    (split : queue = here ++ next) (front : Frontier c store start d seen here next) :
    ∃ e, Frontier c store start e found.reverse [] [] := by
  fun_induction descend c store seen queue generalizing d here next with
  | case1 seen =>
    cases run
    obtain ⟨rfl, rfl⟩ := List.append_eq_nil_iff.mp split.symm
    rw [List.reverse_reverse]
    exact ⟨d, front⟩
  | case2 seen ref queue known ih =>
    obtain ⟨e, rest, later, first, rfl⟩ := front.first split
    exact ih run rfl (first.pass known)
  | case3 seen ref queue new e failed => cases run
  | case4 seen ref queue new missing ih =>
    obtain ⟨e, rest, later, first, rfl⟩ := front.first split
    have met := first.meet new (childAt_iff_of_missing missing)
    rw [List.append_nil] at met
    exact ih run rfl met
  | case5 seen ref queue new r present e failed => cases run
  | case6 seen ref queue new r present children below ih =>
    obtain ⟨e, rest, later, first, rfl⟩ := front.first split
    exact ih run (List.append_assoc _ _ _) (first.meet new (childAt_iff_of_found present below))

theorem seen_prefix_of_descend {queue found : List RecordRef}
    (run : c.descend store seen queue = .ok found) : ∃ rest, found = seen.reverse ++ rest := by
  fun_induction descend c store seen queue with
  | case1 seen =>
    cases run
    exact ⟨[], (List.append_nil _).symm⟩
  | case2 seen ref queue known ih => exact ih run
  | case3 seen ref queue new e failed => cases run
  | case4 seen ref queue new missing ih =>
    obtain ⟨rest, rfl⟩ := ih run
    exact ⟨ref :: rest, by simp⟩
  | case5 seen ref queue new r present e failed => cases run
  | case6 seen ref queue new r present children below ih =>
    obtain ⟨rest, rfl⟩ := ih run
    exact ⟨ref :: rest, by simp⟩

theorem answers_of_descend {queue found : List RecordRef}
    (run : c.descend store seen queue = .ok found) :
    ∀ a ∈ found, a ∉ seen → Answers c store a := by
  fun_induction descend c store seen queue with
  | case1 seen =>
    cases run
    intro a met unseen
    exact absurd (List.mem_reverse.mp met) unseen
  | case2 seen ref queue known ih => exact ih run
  | case3 seen ref queue new e failed => cases run
  | case4 seen ref queue new missing ih =>
    intro a met unseen
    by_cases same : a = ref
    · rw [same]
      exact ⟨none, missing, by simp⟩
    · exact ih run a met (by simp [same, unseen])
  | case5 seen ref queue new r present e failed => cases run
  | case6 seen ref queue new r present children below ih =>
    intro a met unseen
    by_cases same : a = ref
    · rw [same]
      refine ⟨some r, present, ?_⟩
      intro s found
      cases found
      exact ⟨children, below⟩
    · exact ih run a met (by simp [same, unseen])

theorem descend_ok {queue : List RecordRef}
    (answers : ∀ a n, Steps c store start n a → Answers c store a)
    (reached : ∀ a ∈ queue, ∃ n, Steps c store start n a) :
    ∃ found, c.descend store seen queue = .ok found := by
  fun_induction descend c store seen queue with
  | case1 seen => exact ⟨seen.reverse, rfl⟩
  | case2 seen ref queue known ih =>
    exact ih fun a member => reached a (List.mem_cons_of_mem ref member)
  | case3 seen ref queue new e failed =>
    obtain ⟨n, steps⟩ := reached ref List.mem_cons_self
    obtain ⟨present, looked, _⟩ := answers ref n steps
    rw [failed] at looked
    cases looked
  | case4 seen ref queue new missing ih =>
    exact ih fun a member => reached a (List.mem_cons_of_mem ref member)
  | case5 seen ref queue new r present e failed =>
    obtain ⟨n, steps⟩ := reached ref List.mem_cons_self
    obtain ⟨other, looked, followed⟩ := answers ref n steps
    obtain rfl : some r = other := Except.ok.inj (present.symm.trans looked)
    obtain ⟨children, below⟩ := followed r rfl
    rw [failed] at below
    cases below
  | case6 seen ref queue new r present children below ih =>
    apply ih
    intro a member
    rcases List.mem_append.mp member with later | child
    · exact reached a (List.mem_cons_of_mem ref later)
    · obtain ⟨n, steps⟩ := reached ref List.mem_cons_self
      exact ⟨n + 1, steps.next ((childAt_iff_of_found present below a).mpr child)⟩

theorem head?_descendants {found : List RecordRef} (run : c.descendants store start = .ok found) :
    found.head? = some start := by
  unfold descendants at run
  rw [descend, dif_neg List.not_mem_nil] at run
  split at run
  · cases run
  · obtain ⟨rest, rfl⟩ := seen_prefix_of_descend run
    rfl
  · split at run
    · cases run
    · obtain ⟨rest, rfl⟩ := seen_prefix_of_descend run
      rfl

theorem mem_descendants_of_steps {found : List RecordRef}
    (run : c.descendants store start = .ok found) {n : Nat} {a : RecordRef}
    (steps : Steps c store start n a) : a ∈ found := by
  induction steps with
  | zero => exact start_mem_descendants run
  | next _ child ih => exact child_mem_descendants run ih child

end Container

/-- The collection succeeds if and only if no lookup below the start fails. It begins with the start,
has no address twice, has exactly those that are reached over children, and has nearer ones first. -/
theorem descendants_breadth_first (c : Container) (store : Store) (start : RecordRef) :
    ((∃ found, c.descendants store start = .ok found) ↔
      ∀ a n, c.Steps store start n a → c.Answers store a) ∧
    ∀ found, c.descendants store start = .ok found →
      found.head? = some start ∧ found.Nodup ∧
      (∀ a, a ∈ found ↔ ∃ n, c.Steps store start n a) ∧
      found.Pairwise (c.NoFarther store start) := by
  constructor
  · constructor
    · intro ⟨found, run⟩ a n steps
      exact Container.answers_of_descend run a (Container.mem_descendants_of_steps run steps)
        List.not_mem_nil
    · intro answers
      apply Container.descend_ok answers
      intro a member
      obtain rfl := List.mem_singleton.mp member
      exact ⟨0, .zero⟩
  · intro found run
    obtain ⟨d, front⟩ := Container.Frontier.final run rfl (.initial c store start)
    have distinct : found.Nodup := (List.pairwise_reverse.mp front.distinct).imp Ne.symm
    refine ⟨Container.head?_descendants run, distinct, ?_,
      List.pairwise_reverse.mp front.ordered⟩
    intro a
    constructor
    · intro met
      obtain ⟨n, _, steps⟩ := front.seen_steps a (List.mem_reverse.mpr met)
      exact ⟨n, steps⟩
    · intro ⟨n, steps⟩
      exact Container.mem_descendants_of_steps run steps

end RecordEditing
