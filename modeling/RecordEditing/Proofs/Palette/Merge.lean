import RecordEditing.Palette.Legend
import RecordEditing.Proofs.Value.Same

/-!
Repeated placements. A field that is placed in a legend again is merged where it stands: it is
visible where one of its placements would be.
-/
namespace RecordEditing
namespace Condition

variable (form : FormState)

theorem valueHolds_congr {a b : Json} (equal : Json.same a b = true) (typed : Bool)
    (v : Option Json) : valueHolds a typed v = valueHolds b typed v := by
  unfold valueHolds
  cases typed with
  | false => exact Json.loose_congr equal (v.getD .null)
  | true => exact Json.same_congr equal (v.getD .null)

mutual

theorem holds_congr {c d : Condition} (equal : same c d = true) : holds form c = holds form d := by
  cases c <;> cases d <;> try cases equal
  · rfl
  · simp only [same, Bool.and_eq_true, beq_iff_eq] at equal
    rw [equal.1, equal.2]
  · simp only [same, Bool.and_eq_true, beq_iff_eq] at equal
    rw [equal.1.1, equal.1.2, equal.2]
  · simp only [same, Bool.and_eq_true, beq_iff_eq] at equal
    rw [equal.1.1, equal.1.2, equal.2]
  · simp only [same, Bool.and_eq_true, beq_iff_eq] at equal
    obtain ⟨⟨⟨rfl, values⟩, rfl⟩, rfl⟩ := equal
    exact valueHolds_congr values _ _
  · simp only [same] at equal
    simp only [holds]
    rw [holds_congr equal]
  · simp only [same, Bool.and_eq_true, beq_iff_eq] at equal
    obtain ⟨rfl, members⟩ := equal
    next j cs ds =>
      cases j with
      | all => exact (holdMembers_congr members).1
      | any => exact (holdMembers_congr members).2

theorem holdMembers_congr {cs ds : List Condition} (equal : sameMembers cs ds = true) :
    allHold form cs = allHold form ds ∧ anyHolds form cs = anyHolds form ds := by
  cases cs with
  | nil =>
    cases ds with
    | nil => exact ⟨rfl, rfl⟩
    | cons d ds => cases equal
  | cons c cs =>
    cases ds with
    | nil => cases equal
    | cons d ds =>
      simp only [sameMembers, Bool.and_eq_true] at equal
      simp only [allHold, anyHolds]
      rw [holds_congr equal.1, (holdMembers_congr equal.2).1, (holdMembers_congr equal.2).2]
      exact ⟨rfl, rfl⟩

end

theorem holds_orElse (c d : Condition) :
    (c.orElse d).holds form = (c.holds form || d.holds form) := by
  -- Alternatives are recognised as known by `same`, not by identity.
  have known : ∀ ms : List Condition, ms.contains d = true → d.holds form = true →
      anyHolds form ms = true := by
    intro ms listed holds
    obtain ⟨m, member, equal⟩ := List.contains_iff_exists_mem_beq.mp listed
    rw [anyHolds_eq_any, List.any_eq_true]
    exact ⟨m, member, (holds_congr form equal).symm.trans holds⟩
  unfold orElse
  split
  · next equal =>
    rw [holds_congr form equal, Bool.or_self]
  · split
    · next ms _ =>
      split
      · next listed =>
        change anyHolds form ms = (anyHolds form ms || d.holds form)
        cases holds : d.holds form with
        | false => rw [Bool.or_false]
        | true => rw [known ms listed holds]; rfl
      · change anyHolds form (ms ++ [d]) = (anyHolds form ms || d.holds form)
        rw [anyHolds_eq_any, anyHolds_eq_any, List.any_append]
        simp only [List.any_cons, List.any_nil, Bool.or_false]
    · change (holds form c || (holds form d || false)) = _
      rw [Bool.or_false]

end Condition

namespace Field

theorem holdsOr_mergeVisible (form : FormState) (a b : Option Condition) :
    holdsOr form (mergeVisible a b) = (holdsOr form a || holdsOr form b) := by
  cases a with
  | none => rfl
  | some c =>
    cases b with
    | none => exact (Bool.or_true _).symm
    | some d => exact Condition.holds_orElse form c d

theorem names_merged (f : Field) (fields : List Field) :
    (Named.update f.name (·.merge f) fields).map Field.name = fields.map Field.name :=
  @Named.map_name_update Field _ f.name (·.merge f) (fun _ => rfl) fields

theorem isVisible_merge (form : FormState) (f other : Field) :
    (f.merge other).isVisible form = (f.isVisible form || other.isVisible form) :=
  holdsOr_mergeVisible form f.visible other.visible

end Field

namespace Legend

/-- The legend shows these placements: each name once, and visible where one of its placements is. -/
structure Shows (l : Legend) (placed : List Field) : Prop where
  distinct : (l.fields.map Field.name).Nodup
  names : ∀ n, n ∈ l.fields.map Field.name ↔ n ∈ placed.map Field.name
  visible : ∀ x ∈ l.fields, ∀ form, x.isVisible form = true ↔
    ∃ p ∈ placed, p.name = x.name ∧ p.isVisible form = true

theorem Shows.empty (name : String) : Shows { name } [] where
  distinct := .nil
  names _ := Iff.rfl
  visible _ member := absurd member List.not_mem_nil

variable {l : Legend} {placed : List Field} {f : Field}

theorem visible_placed_append {name : String} {form : FormState} :
    (∃ p ∈ placed ++ [f], p.name = name ∧ p.isVisible form = true) ↔
      (∃ p ∈ placed, p.name = name ∧ p.isVisible form = true) ∨
        f.name = name ∧ f.isVisible form = true := by
  simp only [List.mem_append, List.mem_singleton, or_and_right, exists_or, exists_eq_left]

theorem Shows.merge (shows : l.Shows placed) (there : f.name ∈ l.fields.map Field.name) :
    Shows { l with fields := Named.update f.name (·.merge f) l.fields } (placed ++ [f]) := by
  have same := f.names_merged l.fields
  constructor
  · exact same ▸ shows.distinct
  · intro n
    rw [same, shows.names n, List.map_append, List.mem_append, List.map_singleton,
      List.mem_singleton]
    constructor
    · exact Or.inl
    · rintro (before | rfl)
      · exact before
      · exact (shows.names f.name).mp there
  · intro x member form
    rw [visible_placed_append]
    rcases (Named.mem_update shows.distinct).mp member with ⟨y, old, named, rfl⟩ | ⟨old, other⟩
    · have name : f.name = y.name := named.symm
      rw [Field.isVisible_merge, Bool.or_eq_true, shows.visible y old form]
      exact or_congr_right (and_iff_right name).symm
    · have name : f.name ≠ x.name := fun same => other same.symm
      rw [shows.visible x old form]
      exact (or_iff_left fun last => name last.1).symm

theorem Shows.append (shows : l.Shows placed) (new : f.name ∉ l.fields.map Field.name) :
    Shows { l with fields := l.fields ++ [f] } (placed ++ [f]) := by
  constructor
  · exact Named.nodup_insertAt none shows.distinct new
  · intro n
    simp only [List.map_append, List.mem_append, shows.names n]
  · intro x member form
    rw [visible_placed_append]
    rcases List.mem_append.mp member with old | last
    · have name : f.name ≠ x.name := by
        intro same
        exact new (List.mem_map.mpr ⟨x, old, same.symm⟩)
      rw [shows.visible x old form]
      exact (or_iff_left fun last => name last.1).symm
    · obtain rfl := List.mem_singleton.mp last
      have unplaced : ¬ ∃ p ∈ placed, p.name = x.name ∧ p.isVisible form = true := by
        intro ⟨p, before, name, _⟩
        exact new ((shows.names x.name).mpr (List.mem_map.mpr ⟨p, before, name⟩))
      rw [or_iff_right unplaced]
      exact (and_iff_right rfl).symm

theorem shows_add (shows : l.Shows placed) (f : Field) : (l.add f).Shows (placed ++ [f]) := by
  unfold add place
  split
  · next there => exact shows.merge (Named.has_iff.mp there)
  · next new => exact shows.append fun there => new (Named.has_iff.mpr there)

theorem shows_addAll (shows : l.Shows placed) (fields : List Field) :
    (fields.foldl add l).Shows (placed ++ fields) := by
  induction fields generalizing l placed with
  | nil => simpa using shows
  | cons f fields ih =>
    have rest := ih (shows_add shows f)
    rwa [List.append_assoc] at rest

theorem name_add (l : Legend) (f : Field) : (l.add f).name = l.name := by
  unfold add place
  split <;> rfl

theorem name_addAll (fields : List Field) (l : Legend) :
    (fields.foldl add l).name = l.name := by
  induction fields generalizing l with
  | nil => rfl
  | cons f fields ih => rw [List.foldl_cons, ih, name_add]

end Legend
end RecordEditing
