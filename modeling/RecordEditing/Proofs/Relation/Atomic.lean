import RecordEditing.Proofs.Relation.TrueParent
import RecordEditing.Proofs.Relation.Valid
import RecordEditing.Proofs.Relation.Writing

/-!
Records are related to each other all at once or not at all. The setters of a compiled container are
well formed, so nothing fails between two of them; what is checked before the first one leaves the
record alone.
-/
namespace RecordEditing
namespace Setter

def own (s : Setter) : Json := s.value.getD .null

/-- What a setter fills in for a new parent: null for a property that the parent lacks. -/
def ofParent (parent : Record) (s : Setter) : Json :=
  (s.value.or (s.source.bind parent.get?)).getD .null

/-- What a setter fills in for the parent of a sibling: null for a property that the sibling lacks. -/
def ofSibling (sibling : Record) (s : Setter) : Json :=
  (s.value.or (s.target.bind sibling.get?)).getD .null

variable {s : Setter} {a : Assignment}

theorem assignment_cases (h : s.assignment = .ok a) :
    (∃ target source, s = ⟨some target, some source, none⟩ ∧ a = .copy target source) ∨
      ∃ target value, s = ⟨some target, none, some value⟩ ∧ a = .literal target value := by
  obtain ⟨target, source, value⟩ := s
  simp only [assignment] at h
  split at h <;> cases h
  · exact Or.inl ⟨_, _, rfl, rfl⟩
  · exact Or.inr ⟨_, _, rfl, rfl⟩

theorem writes_fromParent (parent : Record) (assigned : ∃ a, s.assignment = .ok a) :
    ∃ target, s.Writes (ParentChild.fromParent parent) target (s.ofParent parent) := by
  obtain ⟨a, h⟩ := assigned
  rcases assignment_cases h with ⟨target, source, rfl, rfl⟩ | ⟨target, value, rfl, rfl⟩
  · exact ⟨target, rfl, _, h, rfl⟩
  · exact ⟨target, rfl, _, h, rfl⟩

theorem writes_fromSibling (sibling : Record) (assigned : ∃ a, s.assignment = .ok a) :
    ∃ target, s.Writes (ParentChild.fromSibling sibling) target (s.ofSibling sibling) := by
  obtain ⟨a, h⟩ := assigned
  rcases assignment_cases h with ⟨target, source, rfl, rfl⟩ | ⟨target, value, rfl, rfl⟩
  · exact ⟨target, rfl, _, h, rfl⟩
  · exact ⟨target, rfl, _, h, rfl⟩

theorem writes_literalOnly {pair : String × Json} (h : s.assignment = .ok a)
    (written : RootCondition.literalOnly a = .ok pair) :
    ∃ target, s.Writes RootCondition.literalOnly target s.own := by
  rcases assignment_cases h with ⟨target, source, rfl, rfl⟩ | ⟨target, value, rfl, rfl⟩
  · cases written
  · exact ⟨target, rfl, _, h, rfl⟩

end Setter

/-- What became of a record that setters were to be written to. If nothing forbids it they are, and
each property has the value of the last setter for it, or is as before if there is none. Otherwise
nothing is written. -/
structure Written.AllOrNothing (w : Written) (allowed : Prop) (setters : List Setter)
    (value : Setter → Json) (before : Record) : Prop where
  accepted : w.result = .ok () ↔ allowed
  failed : ∀ e, w.result = .error e → w.record = before
  written : w.result = .ok () → ∀ property,
    w.record.get? property = ((Setter.last? setters property).map value).or (before.get? property)
  provider : w.record.provider = before.provider

namespace Written

variable {w : Written} {allowed other : Prop} {setters : List Setter} {value : Setter → Json}
  {before : Record}

theorem AllOrNothing.congr (h : w.AllOrNothing allowed setters value before)
    (same : allowed ↔ other) : w.AllOrNothing other setters value before :=
  { h with accepted := h.accepted.trans same }

theorem AllOrNothing.eq_failed (h : w.AllOrNothing allowed setters value before)
    {e : RelationError} (fails : w.result = .error e) : w = .failed before e := by
  have kept := h.failed e fails
  obtain ⟨record, result⟩ := w
  obtain rfl : record = before := kept
  obtain rfl : result = .error e := fails
  rfl

theorem allOrNothing_failed (r : Record) (e : RelationError) :
    (failed r e).AllOrNothing False setters value r where
  accepted := ⟨nofun, False.elim⟩
  failed _ _ := rfl
  written ok := nomatch ok
  provider := rfl

theorem allOrNothing_unchanged (r : Record) : (unchanged r).AllOrNothing True [] value r where
  accepted := ⟨fun _ => trivial, fun _ => rfl⟩
  failed _ fails := nomatch fails
  written _ _ := rfl
  provider := rfl

theorem allOrNothing_writeAll {write : Assignment → Except RelationError (String × Json)}
    (sound : ∀ s ∈ setters, ∃ target, s.Writes write target (value s)) (r : Record) :
    (Setter.writeAll write setters r).AllOrNothing True setters value r := by
  have ok : (Setter.writeAll write setters r).result = .ok () := by
    apply Setter.writeAll_ok
    intro s member
    obtain ⟨target, writes⟩ := sound s member
    obtain ⟨a, assigned, written⟩ := writes.written
    exact ⟨a, _, assigned, written⟩
  have writes : ∀ s ∈ setters, ∃ target value, s.Writes write target value := by
    intro s member
    obtain ⟨target, writes⟩ := sound s member
    exact ⟨target, _, writes⟩
  refine ⟨⟨fun _ => trivial, fun _ => ok⟩, ?_, ?_, Setter.writeAll_provider r⟩
  · intro e fails
    rw [ok] at fails
    cases fails
  · intro _ property
    cases found : Setter.last? setters property with
    | none => exact Setter.get?_writeAll_of_ne writes (Setter.last?_eq_none_iff.mp found) r
    | some s =>
      obtain ⟨member, named⟩ := Setter.last?_eq_some found
      obtain ⟨target, here⟩ := sound s member
      obtain rfl : target = property := Option.some.inj (here.named.symm.trans named)
      exact Setter.get?_writeAll_last writes found here r

theorem allOrNothing_checked {write : Assignment → Except RelationError (String × Json)}
    (sound : ∀ s ∈ setters, ∃ target, s.Writes write target (value s))
    (check : Except RelationError Unit) (r : Record) :
    AllOrNothing (match check with
      | .error e => .failed r e
      | .ok () => Setter.writeAll write setters r) (check = .ok ()) setters value r := by
  cases check with
  | error e => exact (allOrNothing_failed r e).congr (by simp)
  | ok _ => exact (allOrNothing_writeAll sound r).congr (by simp)

end Written

theorem checkProvider_eq_ok {expected : String} {r : Record} :
    checkProvider expected r = .ok () ↔ r.provider = expected := by
  unfold checkProvider
  split
  · next same => simp [same]
  · next other => simp [other]

theorem seq_eq_ok {ε : Type} {first second : Except ε Unit} :
    (first >>= fun _ => second) = .ok () ↔ first = .ok () ∧ second = .ok () := by
  cases first with
  | error e => exact ⟨nofun, fun h => nomatch h.1⟩
  | ok _ => exact ⟨fun h => ⟨rfl, h⟩, fun h => h.2⟩

namespace ParentChild

variable {condition : ParentChild}

theorem requireSetters_of_validate (valid : condition.validate = .ok ()) :
    condition.requireSetters = .ok () :=
  (bind_eq_ok valid).choose_spec.1

theorem allOrNothing_applyTo (valid : condition.validate = .ok ()) (parent child : Record) :
    (condition.applyTo parent child).AllOrNothing
      (parent.provider = condition.source ∧ child.provider = condition.destination)
      condition.setters (·.ofParent parent) child := by
  apply Written.AllOrNothing.congr
  · apply Written.allOrNothing_checked
    intro s member
    exact Setter.writes_fromParent parent (assignment_of_validate valid s member)
  · rw [seq_eq_ok, seq_eq_ok, checkProvider_eq_ok, checkProvider_eq_ok]
    exact and_iff_right (requireSetters_of_validate valid)

theorem allOrNothing_copyFrom (valid : condition.validate = .ok ()) (sibling receiver : Record) :
    (condition.copyFrom sibling receiver).AllOrNothing
      (sibling.provider = condition.destination ∧ receiver.provider = condition.destination)
      condition.setters (·.ofSibling sibling) receiver := by
  apply Written.AllOrNothing.congr
  · apply Written.allOrNothing_checked
    intro s member
    exact Setter.writes_fromSibling sibling (assignment_of_validate valid s member)
  · rw [seq_eq_ok, seq_eq_ok, checkProvider_eq_ok, checkProvider_eq_ok]
    exact and_iff_right (requireSetters_of_validate valid)

end ParentChild

namespace RootCondition

variable {condition : RootCondition}

theorem requireSetters_of_validate (valid : condition.validate = .ok ()) :
    condition.requireSetters = .ok () :=
  (bind_eq_ok valid).choose_spec.1

theorem allOrNothing_applyTo (valid : condition.validate = .ok ()) (r : Record) :
    (condition.applyTo r).AllOrNothing (r.provider = condition.provider) condition.setters
      Setter.own r := by
  apply Written.AllOrNothing.congr
  · apply Written.allOrNothing_checked
    intro s member
    obtain ⟨a, pair, assigned, written⟩ := assignment_of_validate valid s member
    exact Setter.writes_literalOnly assigned written
  · rw [seq_eq_ok, checkProvider_eq_ok]
    exact and_iff_right (requireSetters_of_validate valid)

end RootCondition

namespace Relations

/-- The setters that make a record a root: those of the root condition in a tree. -/
def rootSetters (rs : Relations) (mode : Mode) : List Setter :=
  if mode = .hierarchical then (rs.root.map RootCondition.setters).getD [] else []

/-- The setters that make a record of one provider a child of one of another: those of the first
condition between the two, if there is any structure. -/
def settersBetween (rs : Relations) (mode : Mode) (source destination : String) : List Setter :=
  if mode = .flat then [] else ((rs.between? source destination).map ParentChild.setters).getD []

def Roots (rs : Relations) (mode : Mode) (provider : String) : Prop :=
  mode = .hierarchical → ∃ root, rs.root = some root ∧ root.provider = provider

def Connects (rs : Relations) (mode : Mode) (source destination : String) : Prop :=
  mode ≠ .flat → ∃ condition, rs.between? source destination = some condition

variable {rs : Relations} {mode : Mode}

theorem allOrNothing_setRoot (valid : rs.validate = .ok ()) (mode : Mode) (r : Record) :
    (rs.setRoot mode r).AllOrNothing (rs.Roots mode r.provider) (rs.rootSetters mode) Setter.own
      r := by
  unfold setRoot rootSetters
  split
  · next tree =>
    cases root : rs.root with
    | none => exact (Written.allOrNothing_failed r _).congr (by simp [Roots, tree, root])
    | some condition =>
      have applied := RootCondition.allOrNothing_applyTo (root_of_validate valid condition root) r
      exact applied.congr (by simp [Roots, tree, root, eq_comm])
  · next noTree => exact (Written.allOrNothing_unchanged r).congr (by simp [Roots, noTree])

theorem allOrNothing_setParent (valid : rs.validate = .ok ()) (mode : Mode)
    (parent child : Record) :
    (rs.setParent mode parent child).AllOrNothing
      (rs.Connects mode parent.provider child.provider)
      (rs.settersBetween mode parent.provider child.provider) (·.ofParent parent) child := by
  unfold setParent requireBetween settersBetween
  split
  · next flat => exact (Written.allOrNothing_unchanged child).congr (by simp [Connects, flat])
  · next structured =>
    cases known : rs.between? parent.provider child.provider with
    | none =>
      exact (Written.allOrNothing_failed child _).congr (by simp [Connects, structured, known])
    | some condition =>
      obtain ⟨listed, source, destination⟩ := mem_of_between known
      have applied := ParentChild.allOrNothing_applyTo
        (children_of_validate valid condition listed) parent child
      exact applied.congr (by simp [Connects, structured, known, source, destination])

theorem allOrNothing_setSameParent (valid : rs.validate = .ok ()) {sibling : Record}
    (inner : rs.isRoot mode sibling = false) (provider : String) (receiver : Record) :
    (rs.setSameParent mode provider sibling receiver).AllOrNothing
      (rs.Connects mode provider sibling.provider ∧
        (mode ≠ .flat → receiver.provider = sibling.provider))
      (rs.settersBetween mode provider sibling.provider) (·.ofSibling sibling) receiver := by
  unfold setSameParent requireBetween settersBetween
  rw [inner, if_neg Bool.false_ne_true]
  split
  · next flat => exact (Written.allOrNothing_unchanged receiver).congr (by simp [Connects, flat])
  · next structured =>
    cases known : rs.between? provider sibling.provider with
    | none =>
      exact (Written.allOrNothing_failed receiver _).congr (by simp [Connects, structured, known])
    | some condition =>
      obtain ⟨listed, _, destination⟩ := mem_of_between known
      have copied := ParentChild.allOrNothing_copyFrom
        (children_of_validate valid condition listed) sibling receiver
      exact copied.congr (by simp [Connects, structured, known, destination])

end Relations

/-- In a compiled container a record can be made a root, a child or a sibling if the condition for
the providers exists, whatever its setters. Then the properties that the setters name, and only
they, are written, and the last setter of a property counts. Otherwise the record is left alone. -/
theorem relating_all_or_nothing {config : ContainerConfig} {c : Container}
    (compiled : config.compile = .ok c) (mode : Mode) :
    (∀ r, (c.relations.setRoot mode r).AllOrNothing (c.relations.Roots mode r.provider)
      (c.relations.rootSetters mode) Setter.own r) ∧
    (∀ parent child, (c.relations.setParent mode parent child).AllOrNothing
      (c.relations.Connects mode parent.provider child.provider)
      (c.relations.settersBetween mode parent.provider child.provider) (·.ofParent parent) child) ∧
    ∀ provider sibling receiver,
      (c.relations.isRoot mode sibling = true →
        (c.relations.setSameParent mode provider sibling receiver).AllOrNothing
          (c.relations.Roots mode receiver.provider)
          (c.relations.rootSetters mode) Setter.own receiver) ∧
      (c.relations.isRoot mode sibling = false →
        (c.relations.setSameParent mode provider sibling receiver).AllOrNothing
          (c.relations.Connects mode provider sibling.provider ∧
            (mode ≠ .flat → receiver.provider = sibling.provider))
          (c.relations.settersBetween mode provider sibling.provider) (·.ofSibling sibling)
          receiver) := by
  have valid := ContainerConfig.relations_of_compile compiled
  refine ⟨Relations.allOrNothing_setRoot valid mode, Relations.allOrNothing_setParent valid mode,
    ?_⟩
  intro provider sibling receiver
  constructor
  · intro root
    unfold Relations.setSameParent
    rw [root, if_pos rfl]
    exact Relations.allOrNothing_setRoot valid mode receiver
  · intro inner
    exact Relations.allOrNothing_setSameParent valid inner provider receiver

/-- Notes belong to the chapter that starts where they say. Of the two setters of the link the
second counts. -/
def noteAtStart : ParentChild where
  source := "chapter"
  destination := "note"
  filter := [.link .equals "start" "pid"]
  setters := [{ target := some "pid", source := some Record.idProperty },
    { target := some "heading", source := some "heading" },
    { target := some "pid", source := some "start" }]

def noteConfig : ContainerConfig where
  name := "note"
  basic := { mode := .parented, dataProvider := "note", parentProvider := some "chapter" }
  relations := { children := [noteAtStart] }

/-- The chapter has no heading to be copied. -/
theorem relating_all_or_nothing_note :
    noteConfig.compile = .ok noteConfig.unchecked ∧
      let placed := noteConfig.unchecked.relations.setParent .parented chapter (note 4 true)
      placed.result = .ok () ∧ placed.record.get? "pid" = some (.int 3) ∧
        placed.record.get? "heading" = some .null ∧
        placed.record.get? "shared" = some (.bool true) := by
  have compiled : noteConfig.compile = .ok noteConfig.unchecked :=
    ContainerConfig.compile_of_validate rfl rfl
  have placed := (relating_all_or_nothing compiled .parented).2.1 chapter (note 4 true)
  have ok := placed.accepted.mpr fun _ => ⟨noteAtStart, rfl⟩
  have written := placed.written ok
  refine ⟨compiled, ok, ?_, ?_, ?_⟩
  · rw [written]
    rfl
  · rw [written]
    rfl
  · rw [written]
    rfl

end RecordEditing
