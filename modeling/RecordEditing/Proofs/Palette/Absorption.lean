import RecordEditing.Palette.Legend
import RecordEditing.Proofs.Palette.Writes
import RecordEditing.Proofs.Value.Loose

/-!
What a placement leaves behind. A field that took the condition of a placement takes it again
without a change, whatever else it took in between. This needs placements whose condition is no
alternative itself: an alternative among alternatives would be told apart from its own members.
-/
namespace RecordEditing

namespace Condition

mutual

theorem same_refl (c : Condition) : same c c = true := by
  cases c with
  | always => rfl
  | constant v w => simp [same]
  | isSet p typed w => simp [same]
  | isUnset p typed w => simp [same]
  | equals p v typed w =>
    have values : (v == v) = true := Json.same_refl v
    simp [same, values]
  | not c =>
    rw [same]
    exact same_refl c
  | chain j ms =>
    rw [same, sameMembers_refl ms, beq_self_eq_true]
    rfl

theorem sameMembers_refl (cs : List Condition) : sameMembers cs cs = true := by
  cases cs with
  | nil => rfl
  | cons c cs =>
    rw [sameMembers, same_refl c, sameMembers_refl cs]
    rfl

end

mutual

theorem same_comm (c d : Condition) : same c d = same d c := by
  cases c <;> cases d <;> try rfl
  · simp only [same, BEq.comm]
  · simp only [same, BEq.comm]
  · simp only [same, BEq.comm]
  · next p v typed w q u strict x =>
    have values : (v == u) = (u == v) := Json.same_comm v u
    simp only [same, values, BEq.comm]
  · next c d => exact same_comm c d
  · next j ms k ns =>
    have kinds : (j == k) = (k == j) := BEq.comm
    simp only [same]
    rw [kinds, sameMembers_comm ms ns]

theorem sameMembers_comm (cs ds : List Condition) : sameMembers cs ds = sameMembers ds cs := by
  cases cs with
  | nil => cases ds <;> rfl
  | cons c cs =>
    cases ds with
    | nil => rfl
    | cons d ds =>
      simp only [sameMembers]
      rw [same_comm c d, sameMembers_comm cs ds]

end

/-- No choice between alternatives. -/
def Plain (c : Condition) : Prop := ∀ ms, c ≠ .chain .any ms

theorem Plain.of_same {c d : Condition} (equal : same c d = true) (plain : d.Plain) : c.Plain := by
  rintro ms rfl
  cases d <;> try cases equal
  next j ns =>
    simp only [same, Bool.and_eq_true, beq_iff_eq] at equal
    obtain ⟨rfl, _⟩ := equal
    exact plain ns rfl

theorem orElse_of_same {c d : Condition} (equal : same c d = true) : c.orElse d = c :=
  if_pos equal

theorem orElse_of_plain {c d : Condition} (plain : c.Plain) (differ : same c d = false) :
    c.orElse d = .chain .any [c, d] := by
  have other : ¬ (c == d) = true := by
    change ¬ same c d = true
    rw [differ]
    decide
  unfold orElse
  rw [if_neg other]
  cases c <;> try rfl
  next j ms =>
    cases j with
    | all => rfl
    | any => exact absurd rfl (plain ms)

theorem any_orElse {ms : List Condition} {d : Condition}
    (differ : same (.chain .any ms) d = false) :
    (chain .any ms).orElse d = .chain .any (if ms.contains d then ms else ms ++ [d]) := by
  have other : ¬ (chain .any ms == d) = true := by
    change ¬ same (.chain .any ms) d = true
    rw [differ]
    decide
  unfold orElse
  rw [if_neg other]
  change (if ms.contains d = true then chain .any ms else .chain .any (ms ++ [d])) = _
  split <;> rfl

/-- The condition allows for a plain one: it is the same, or has it among its alternatives. -/
inductive Allows (d : Condition) : Condition → Prop where
  | same {c} : same c d = true → Allows d c
  | listed {ms} : ms.contains d = true → Allows d (.chain .any ms)

theorem Allows.orElse_eq {c d : Condition} (allows : Allows d c) : c.orElse d = c := by
  cases allows with
  | same equal => exact orElse_of_same equal
  | @listed ms there =>
    cases equal : Condition.same (.chain .any ms) d with
    | true => exact orElse_of_same equal
    | false => rw [any_orElse equal, if_pos there]

theorem contains_self (ms : List Condition) (d : Condition) : (ms ++ [d]).contains d = true := by
  have equal : (d == d) = true := same_refl d
  simp [equal]

theorem allows_orElse (c d : Condition) : Allows d (c.orElse d) := by
  cases equal : same c d with
  | true =>
    rw [orElse_of_same equal]
    exact .same equal
  | false =>
    by_cases choice : ∃ ms, c = .chain .any ms
    · obtain ⟨ms, rfl⟩ := choice
      rw [any_orElse equal]
      apply Allows.listed
      split
      · assumption
      · exact contains_self ms d
    · rw [orElse_of_plain (fun ms same => choice ⟨ms, same⟩) equal]
      exact .listed (contains_self [c] d)

theorem Allows.orElse {c d : Condition} (plain : d.Plain) (allows : Allows d c) (e : Condition) :
    Allows d (c.orElse e) := by
  cases equal : Condition.same c e with
  | true => rwa [orElse_of_same equal]
  | false =>
    cases allows with
    | same known =>
      have listed : (d == c) = true := (same_comm d c).trans known
      rw [orElse_of_plain (plain.of_same known) equal]
      apply Allows.listed
      simp [listed]
    | @listed ms there =>
      rw [any_orElse equal]
      apply Allows.listed
      split
      · exact there
      · rw [List.contains_append, there, Bool.true_or]

theorem allows_iff {c d : Condition} : Allows d c ↔ c.orElse d = c := by
  constructor
  · exact Allows.orElse_eq
  · intro same
    have allowed := allows_orElse c d
    rwa [same] at allowed

end Condition

namespace Field

open Condition

theorem mergeVisible_again (v d : Option Condition) :
    mergeVisible (mergeVisible v d) d = mergeVisible v d := by
  cases v with
  | none => rfl
  | some c =>
    cases d with
    | none => rfl
    | some d => exact congrArg some (allows_orElse c d).orElse_eq

theorem mergeVisible_absorbs {v d : Option Condition} (plain : ∀ c, d = some c → c.Plain)
    (known : mergeVisible v d = v) (e : Option Condition) :
    mergeVisible (mergeVisible v e) d = mergeVisible v e := by
  cases v with
  | none => rfl
  | some c =>
    cases d with
    | none => cases known
    | some d =>
      cases e with
      | none => rfl
      | some e =>
        have allows : Allows d c := allows_iff.mpr (Option.some.inj known)
        exact congrArg some (allows.orElse (plain d rfl) e).orElse_eq

def Plain (f : Field) : Prop := ∀ c, f.visible = some c → c.Plain

theorem merge_self (f : Field) : f.merge f = f := by
  obtain ⟨name, visible, editable⟩ := f
  cases visible with
  | none => rfl
  | some c =>
    have same : c.orElse c = c := orElse_of_same (same_refl c)
    simp only [merge, mergeVisible, same]

theorem merge_merge (x f : Field) : (x.merge f).merge f = x.merge f :=
  congrArg (fun v => { x with visible := v }) (mergeVisible_again x.visible f.visible)

theorem merge_absorbs {x f : Field} (plain : f.Plain) (known : x.merge f = x) (g : Field) :
    (x.merge g).merge f = x.merge g := by
  have visible : mergeVisible x.visible f.visible = x.visible := congrArg Field.visible known
  exact congrArg (fun v => { x with visible := v }) (mergeVisible_absorbs plain visible g.visible)

variable {fs : List Field}

theorem mergeAll_absorbs {x f : Field} (plain : f.Plain) (known : x.merge f = x) :
    (fs.foldl merge x).merge f = fs.foldl merge x := by
  induction fs generalizing x with
  | nil => exact known
  | cons g fs ih => exact ih (merge_absorbs plain known g)

theorem mergeAll_of_known {x : Field} (known : ∀ f ∈ fs, x.merge f = x) : fs.foldl merge x = x := by
  induction fs with
  | nil => rfl
  | cons f fs ih =>
    rw [List.foldl_cons, known f List.mem_cons_self]
    exact ih fun g member => known g (List.mem_cons_of_mem f member)

theorem known_of_mergeAll (plain : ∀ f ∈ fs, f.Plain) (x : Field) :
    ∀ f ∈ fs, (fs.foldl merge x).merge f = fs.foldl merge x := by
  induction fs generalizing x with
  | nil => intro f member; cases member
  | cons g fs ih =>
    intro f member
    rw [List.foldl_cons]
    rcases List.mem_cons.mp member with rfl | later
    · exact mergeAll_absorbs (plain f member) (merge_merge x f)
    · exact ih (fun h there => plain h (List.mem_cons_of_mem g there)) (x.merge g) f later

theorem mergeAll_again (plain : ∀ f ∈ fs, f.Plain) (x : Field) :
    fs.foldl merge (fs.foldl merge x) = fs.foldl merge x :=
  mergeAll_of_known (known_of_mergeAll plain x)

def placing (f : Field) : Named.Write Field where
  name := f.name
  fresh := f
  edit := (·.merge f)
  name_fresh := rfl
  name_edit _ := rfl

theorem settling_placing (plain : ∀ f ∈ fs, f.Plain) : Named.Settling (fs.map placing) :=
  Named.settling_map placing fun _ selected x =>
    mergeAll_again (fun f member => plain f (selected member)) x

end Field

namespace Legend

theorem add_eq_run (l : Legend) (f : Field) :
    l.add f = { l with fields := f.placing.run l.fields } := by
  have fresh : f.placing.edit f.placing.fresh = f := f.merge_self
  have written : f.placing.run l.fields =
      if Named.has f.name l.fields then Named.update f.name (·.merge f) l.fields
      else l.fields ++ [f] := by
    rw [Named.Write.run_eq_ite, fresh]
    rfl
  unfold add place
  rw [written]
  split <;> rfl

theorem addAll_eq_runAll (fs : List Field) (l : Legend) :
    fs.foldl add l = { l with fields := Named.runAll (fs.map Field.placing) l.fields } := by
  induction fs generalizing l with
  | nil => rfl
  | cons f fs ih =>
    rw [List.foldl_cons, ih, add_eq_run]
    rfl

end Legend
end RecordEditing
