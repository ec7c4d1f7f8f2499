import RecordEditing.Palette.Compile

/-!
Walks through sub-palettes. A field shows below another one if a sub-palette of that one lists it.
To place a field places what walks lead to from it: a walk that comes back to a field may start
there at once, with fewer conditions, so to open every sub-palette once loses nothing.
-/
namespace RecordEditing

section Walks

variable {node label : Type}

/-- A walk along labelled edges, with the labels that it meets. -/
inductive Walk (edge : node → node → label → Prop) : node → List label → node → Prop where
  | here {a} : Walk edge a [] a
  | next {a b c l ls} : edge a b l → Walk edge b ls c → Walk edge a (l :: ls) c

variable {edge : node → node → label → Prop} {a b : node} {ls : List label}

theorem Walk.mono {wider : node → node → label → Prop}
    (wide : ∀ x y l, edge x y l → wider x y l) (walk : Walk edge a ls b) : Walk wider a ls b := by
  induction walk with
  | here => exact .here
  | next first _ ih => exact .next (wide _ _ _ first) ih

def avoiding (edge : node → node → label → Prop) (place : node) (x y : node) (l : label) : Prop :=
  x ≠ place ∧ edge x y l

/-- A walk avoids leaving a place, or is cut down to what follows the last time it leaves it. -/
theorem Walk.cut (place : node) (walk : Walk edge a ls b) :
    (∃ ms, ms ⊆ ls ∧ Walk (avoiding edge place) a ms b) ∨
      ∃ l x ms, edge place x l ∧ l :: ms ⊆ ls ∧ Walk (avoiding edge place) x ms b := by
  induction walk with
  | here => exact Or.inl ⟨[], List.Subset.refl [], .here⟩
  | @next a x c l ls first _ ih =>
    rcases ih with ⟨ms, fewer, rest⟩ | ⟨m, y, ms, leaves, fewer, rest⟩
    · by_cases same : a = place
      · exact Or.inr ⟨l, x, ms, same ▸ first, List.cons_subset_cons l fewer, rest⟩
      · exact Or.inl ⟨l :: ms, List.cons_subset_cons l fewer, .next ⟨same, first⟩ rest⟩
    · exact Or.inr ⟨m, y, ms, leaves, List.subset_cons_of_subset l fewer, rest⟩

theorem Walk.eq_of_avoiding {place : node} (walk : Walk (avoiding edge place) place ls b) :
    place = b ∧ ls = [] := by
  cases walk with
  | here => exact ⟨rfl, rfl⟩
  | next first _ => exact absurd rfl first.1

end Walks

namespace SubPalettes

def fieldsOf (subs : SubPalettes) (owner : String) : List Field :=
  (Entries.find? owner subs).getD []

/-- The second field shows below the first under the condition. -/
def Shows (subs : SubPalettes) (above below : String) (condition : Condition) : Prop :=
  ∃ f ∈ subs.fieldsOf above, f.name = below ∧ f.visible = some condition

def Conditional (subs : SubPalettes) : Prop :=
  ∀ owner, ∀ f ∈ subs.fieldsOf owner, ∃ condition, f.visible = some condition

theorem fieldsOf_erase_self (subs : SubPalettes) (owner : String) :
    fieldsOf (Entries.erase owner subs) owner = [] := by
  unfold fieldsOf
  rw [Entries.find?_erase_self]
  rfl

theorem fieldsOf_erase_of_ne {owner other : String} (ne : owner ≠ other) (subs : SubPalettes) :
    fieldsOf (Entries.erase owner subs) other = subs.fieldsOf other := by
  unfold fieldsOf
  rw [Entries.find?_erase_of_ne ne]

theorem shows_erase {subs : SubPalettes} {owner above below : String} {condition : Condition} :
    Shows (Entries.erase owner subs) above below condition ↔
      avoiding subs.Shows owner above below condition := by
  unfold avoiding Shows
  by_cases same : above = owner
  · rw [same, fieldsOf_erase_self]
    simp
  · rw [fieldsOf_erase_of_ne (Ne.symm same)]
    exact (and_iff_right same).symm

theorem forall_fieldsOf_erase {subs : SubPalettes} {property : Field → Prop}
    (all : ∀ owner, ∀ f ∈ subs.fieldsOf owner, property f) (owner other : String) :
    ∀ f ∈ fieldsOf (Entries.erase owner subs) other, property f := by
  intro f member
  by_cases same : owner = other
  · rw [same, fieldsOf_erase_self] at member
    cases member
  · rw [fieldsOf_erase_of_ne same] at member
    exact all other f member

theorem Conditional.erase {subs : SubPalettes} (conditional : subs.Conditional) (owner : String) :
    Conditional (Entries.erase owner subs) :=
  forall_fieldsOf_erase conditional owner

theorem holdsOr_within (form : FormState) (outer : Option Condition) (condition : Condition) :
    Field.holdsOr form (within outer (some condition)) =
      (Field.holdsOr form outer && condition.holds form) := by
  cases outer with
  | none => exact (Bool.true_and _).symm
  | some o =>
    change (o.holds form && (condition.holds form && true)) = (o.holds form && condition.holds form)
    rw [Bool.and_true]

/-- A field at the end of a walk from another one, visible where that one is and the conditions on
the way hold. -/
structure Behind (subs : SubPalettes) (f : Field) (cs : List Condition) (x : Field) : Prop where
  walk : Walk subs.Shows f.name cs x.name
  visible : ∀ form, x.isVisible form = true ↔
    f.isVisible form = true ∧ ∀ c ∈ cs, c.holds form = true

theorem Behind.of_child {subs : SubPalettes} {f child x : Field} {condition : Condition}
    {cs : List Condition} (listed : child ∈ subs.fieldsOf f.name)
    (given : child.visible = some condition)
    (behind : Behind (Entries.erase f.name subs)
      { child with visible := within f.visible child.visible } cs x) :
    Behind subs f (condition :: cs) x := by
  constructor
  · have rest := behind.walk.mono fun _ _ _ edge => (shows_erase.mp edge).2
    exact .next ⟨child, listed, rfl, given⟩ rest
  · intro form
    have inner := behind.visible form
    simp only [Field.isVisible, given, holdsOr_within, Bool.and_eq_true] at inner ⊢
    rw [inner, and_assoc, List.forall_mem_cons]

theorem behind_of_mem_placements {subs : SubPalettes} (conditional : subs.Conditional)
    {f x : Field} (placed : x ∈ placements subs f) : ∃ cs, Behind subs f cs x := by
  fun_induction placements subs f with
  | case1 subs f missing =>
    obtain rfl := List.mem_singleton.mp placed
    exact ⟨[], .here, by simp⟩
  | case2 subs f children found ih =>
    rcases List.mem_cons.mp placed with rfl | deeper
    · exact ⟨[], .here, by simp⟩
    · obtain ⟨child, member, below⟩ := List.mem_flatMap.mp deeper
      have listed : child ∈ subs.fieldsOf f.name := by
        unfold fieldsOf
        rw [found]
        exact member
      obtain ⟨condition, given⟩ := conditional f.name child listed
      obtain ⟨cs, behind⟩ := ih child (conditional.erase f.name) below
      exact ⟨condition :: cs, behind.of_child listed given⟩

theorem mem_placements_of_walk {subs : SubPalettes} (conditional : subs.Conditional) {f : Field}
    {n : String} {cs : List Condition} (walk : Walk subs.Shows f.name cs n) :
    ∃ x ∈ placements subs f, x.name = n ∧ ∀ form, f.isVisible form = true →
      (∀ c ∈ cs, c.holds form = true) → x.isVisible form = true := by
  fun_induction placements subs f generalizing cs with
  | case1 subs f missing =>
    cases walk with
    | here => exact ⟨f, List.mem_cons_self, rfl, fun _ visible _ => visible⟩
    | next edge _ =>
      obtain ⟨child, listed, _⟩ := edge
      unfold fieldsOf at listed
      rw [missing] at listed
      cases listed
  | case2 subs f children found ih =>
    have erased : ∀ x y l, avoiding subs.Shows f.name x y l →
        Shows (Entries.erase f.name subs) x y l := fun _ _ _ edge => shows_erase.mpr edge
    rcases walk.cut f.name with ⟨ms, _, stays⟩ | ⟨condition, below, ms, edge, fewer, rest⟩
    · obtain ⟨rfl, _⟩ := stays.eq_of_avoiding
      exact ⟨f, List.mem_cons_self, rfl, fun _ visible _ => visible⟩
    · obtain ⟨child, listed, rfl, given⟩ := edge
      have member : child ∈ children := by
        unfold fieldsOf at listed
        rw [found] at listed
        exact listed
      obtain ⟨x, placed, name, visible⟩ := ih child (conditional.erase f.name) (rest.mono erased)
      refine ⟨x, List.mem_cons_of_mem f (List.mem_flatMap.mpr ⟨child, member, placed⟩), name, ?_⟩
      intro form shown holds
      apply visible form
      · simp only [Field.isVisible, given, holdsOr_within, Bool.and_eq_true]
        exact ⟨shown, holds condition (fewer List.mem_cons_self)⟩
      · intro c member
        exact holds c (fewer (List.mem_cons_of_mem condition member))

end SubPalettes
end RecordEditing
