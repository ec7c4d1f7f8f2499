import RecordEditing.Proofs.Paste.Phases
import RecordEditing.Proofs.Relation.Atomic
import RecordEditing.Proofs.Tree.Nodes

/-!
What a request that fails leaves behind. In a compiled container no single write fails halfway: its
setters are well formed, and everything else is checked before the first of them. But the target is
written before the parent named on its own is looked at, and stays written when that parent fails.
-/
namespace RecordEditing
namespace ParentChild

variable {condition : ParentChild} {parent child other : Record}

theorem result_applyTo (valid : condition.validate = .ok ()) (same : other.provider = child.provider) :
    (condition.applyTo parent other).result = (condition.applyTo parent child).result := by
  have checks : checkProvider condition.destination other =
      checkProvider condition.destination child := by
    unfold checkProvider
    rw [same]
  have written : ∀ r, (Setter.writeAll (fromParent parent) condition.setters r).result = .ok () := by
    apply Setter.writeAll_ok
    intro s member
    obtain ⟨a, assigned⟩ := assignment_of_validate valid s member
    cases a with
    | copy target source => exact ⟨_, _, assigned, rfl⟩
    | literal target value => exact ⟨_, _, assigned, rfl⟩
  unfold applyTo
  rw [checks]
  split
  · rfl
  · rw [written other, written child]

end ParentChild

namespace Relations

variable {rs : Relations} {mode : Mode} {parent child other r : Record}

theorem result_setParent (valid : rs.validate = .ok ()) (same : other.provider = child.provider) :
    (rs.setParent mode parent other).result = (rs.setParent mode parent child).result := by
  unfold setParent
  rw [same]
  split
  · rfl
  · cases known : rs.requireBetween parent.provider child.provider with
    | error e => rfl
    | ok condition =>
      have listed := (mem_of_requireBetween known).1
      exact ParentChild.result_applyTo (children_of_validate valid condition listed) same

theorem setParent_provider : (rs.setParent mode parent child).record.provider = child.provider := by
  unfold setParent
  split
  · rfl
  · split
    · exact ParentChild.applyTo_provider
    · rfl

theorem setRoot_provider : (rs.setRoot mode r).record.provider = r.provider := by
  unfold setRoot
  split
  · split
    · exact RootCondition.applyTo_provider
    · rfl
  · rfl

end Relations

namespace Container

variable {c : Container} {store : Store} {clipboard : Clipboard} {q : PasteRequest}
variable {parent r other : Record} {e : RelationError}

theorem result_placeBelow (valid : c.relations.validate = .ok ())
    (same : other.provider = r.provider) :
    (c.placeBelow parent other).result = (c.placeBelow parent r).result :=
  congrArg (Except.map fun _ => _) (Relations.result_setParent valid same)

theorem place_failed (valid : c.relations.validate = .ok ()) {destination : Destination}
    (failed : (c.place r destination).result = .error e) :
    c.place r destination = ⟨r, .error e⟩ := by
  cases destination with
  | unchanged => cases failed
  | root =>
    have written := (Relations.allOrNothing_setRoot valid c.basic.mode r).eq_failed
      (reached_failed failed)
    change reached (c.relations.setRoot c.basic.mode r) .rooted = _
    rw [written]
    rfl
  | below parent =>
    have written := (Relations.allOrNothing_setParent valid c.basic.mode parent r).eq_failed
      (reached_failed failed)
    change reached (c.relations.setParent c.basic.mode parent r) _ = _
    rw [written]
    rfl

theorem placeBelow_failed (valid : c.relations.validate = .ok ())
    (failed : (c.placeBelow parent r).result = .error e) (same : other.provider = r.provider) :
    c.placeBelow parent other = ⟨other, .error e⟩ := by
  have fails : (c.place other (.below parent)).result = .error e :=
    (result_placeBelow valid same).trans failed
  exact place_failed valid fails

theorem place_provider (destination : Destination) :
    (c.place r destination).record.provider = r.provider := by
  cases destination with
  | unchanged => rfl
  | root => exact Relations.setRoot_provider
  | below parent => exact Relations.setParent_provider

/-- The second phase: what the parent named on its own makes of a record that was placed. -/
def override (c : Container) (store : Store) (clipboard : Clipboard) (q : PasteRequest)
    (placed : Pasted) : Pasted :=
  match requestedParent store clipboard q with
  | .error e => ⟨placed.record, .error e⟩
  | .ok none => placed
  | .ok (some parent) => c.placeBelow parent placed.record

theorem paste_eq_override {destination : Destination} {placed : PasteState}
    (resolved : c.requested store clipboard q = .ok destination)
    (written : (c.place r destination).result = .ok placed) :
    c.paste store clipboard q r = c.override store clipboard q (c.place r destination) := by
  unfold paste
  rw [resolved]
  simp only [written]
  rfl

theorem override_failed (valid : c.relations.validate = .ok ()) {placed first : Pasted}
    {state : PasteState} (accepted : placed.result = .ok state)
    (failed : (c.override store clipboard q placed).result = .error e)
    (same : first.record.provider = placed.record.provider) :
    c.override store clipboard q first = ⟨first.record, .error e⟩ := by
  unfold override at failed ⊢
  cases named : requestedParent store clipboard q with
  | error failure =>
    rw [named] at failed
    cases failed
    rfl
  | ok parent =>
    rw [named] at failed
    cases parent with
    | none =>
      simp only [accepted] at failed
      cases failed
    | some parent => exact placeBelow_failed valid failed same

/-- The target of the request alone is accepted, and the record is left where it goes; the parent
of the request alone fails, and with it the request. -/
structure FailedAfterTarget (c : Container) (store : Store) (clipboard : Clipboard)
    (q : PasteRequest) (r : Record) (e : RelationError) : Prop where
  named : ∃ target, q.named = .ok (some target)
  target : ∃ state, c.paste store clipboard { q with parent := none } r =
    ⟨(c.paste store clipboard q r).record, .ok state⟩
  parent : c.paste store clipboard { parent := q.parent } r = ⟨r, .error e⟩

theorem unchanged_or_named {destination : Destination}
    (resolved : c.requested store clipboard q = .ok destination) :
    destination = .unchanged ∨ ∃ target, q.named = .ok (some target) := by
  by_cases flat : c.basic.mode = .flat
  · rw [requested_of_flat flat] at resolved
    exact Or.inl (Except.ok.inj resolved).symm
  · rcases requested_eq_ok flat resolved with ⟨_, stays⟩ | ⟨target, named, _⟩
    · exact Or.inl stays
    · exact Or.inr ⟨target, named⟩

theorem requested_of_parent (parent : Option String) :
    c.requested store clipboard { parent } = .ok .unchanged := by
  unfold requested
  split <;> rfl

theorem failedAfterTarget_of_placed (valid : c.relations.validate = .ok ())
    {destination : Destination} {placed : PasteState} {target : PasteTarget}
    (named : q.named = .ok (some target))
    (resolved : c.requested store clipboard q = .ok destination)
    (written : (c.place r destination).result = .ok placed)
    (failed : (c.override store clipboard q (c.place r destination)).result = .error e) :
    c.FailedAfterTarget store clipboard q r e where
  named := ⟨target, named⟩
  target := by
    -- The parent is only looked at in the second phase, and what it fails on leaves no trace.
    have kept := override_failed valid written failed rfl
    have same : c.requested store clipboard { q with parent := none } = .ok destination := resolved
    have alone : c.paste store clipboard { q with parent := none } r = c.place r destination :=
      paste_eq_override same written
    refine ⟨placed, ?_⟩
    rw [alone, paste_eq_override resolved written, kept, ← written]
  parent := by
    have alone : c.paste store clipboard { parent := q.parent } r =
        c.override store clipboard q (c.place r .unchanged) :=
      paste_eq_override (requested_of_parent q.parent) rfl
    rw [alone]
    exact override_failed valid written failed (place_provider destination).symm

end Container

/-- A request that fails leaves the record as it was, unless it names a target and a parent and
fails by the parent. -/
theorem failed_paste_keeps_record {config : ContainerConfig} {c : Container}
    (compiled : config.compile = .ok c) {store : Store} {clipboard : Clipboard} {q : PasteRequest}
    {r : Record} {e : RelationError} (failed : (c.paste store clipboard q r).result = .error e) :
    (c.paste store clipboard q r).record = r ∨ c.FailedAfterTarget store clipboard q r e := by
  have valid := ContainerConfig.relations_of_compile compiled
  cases resolved : c.requested store clipboard q with
  | error failure =>
    apply Or.inl
    unfold Container.paste
    rw [resolved]
  | ok destination =>
    cases written : (c.place r destination).result with
    | error failure =>
      apply Or.inl
      unfold Container.paste
      rw [resolved]
      simp only [written]
      rw [Container.place_failed valid written]
    | ok placed =>
      have phases := Container.paste_eq_override resolved written
      rw [phases] at failed
      rcases Container.unchanged_or_named resolved with rfl | ⟨target, named⟩
      · apply Or.inl
        rw [phases, Container.override_failed valid written failed rfl]
        rfl
      · exact Or.inr (Container.failedAfterTarget_of_placed valid named resolved written failed)

def missingParent : PasteRequest := { into := some "page::4", parent := some "page::9" }

theorem failed_missingParent :
    ∃ e, (pageContainer.paste (.single pageTable) {} missingParent (page 2 1)).result = .error e := by
  apply eq_error_of_toOption
  decide +kernel

theorem failed_paste_keeps_page :
    (ContainerConfig.tree "page" "pid").compile = .ok pageContainer ∧
      ∃ e, (pageContainer.paste (.single pageTable) {} missingParent (page 2 1)).result =
          .error e ∧
        ((pageContainer.paste (.single pageTable) {} missingParent (page 2 1)).record = page 2 1 ∨
          pageContainer.FailedAfterTarget (.single pageTable) {} missingParent (page 2 1) e) := by
  have compiled : (ContainerConfig.tree "page" "pid").compile = .ok pageContainer :=
    ContainerConfig.compile_tree (by decide) "pid"
  obtain ⟨e, failed⟩ := failed_missingParent
  exact ⟨compiled, e, failed, failed_paste_keeps_record compiled failed⟩

/-- Page 2 is left in page 4. -/
theorem failed_paste_moves_page :
    ¬ ∀ (config : ContainerConfig) (c : Container) (store : Store) (clipboard : Clipboard)
      (q : PasteRequest) (r : Record) (e : RelationError), config.compile = .ok c →
      (c.paste store clipboard q r).result = .error e →
      (c.paste store clipboard q r).record = r := by
  intro never
  have compiled : (ContainerConfig.tree "page" "pid").compile = .ok pageContainer :=
    ContainerConfig.compile_tree (by decide) "pid"
  obtain ⟨e, failed⟩ := failed_missingParent
  have kept := never _ _ _ _ _ _ e compiled failed
  have moved : ((pageContainer.paste (.single pageTable) {} missingParent
      (page 2 1)).record).int? "pid" = some 4 := by decide +kernel
  have stayed : (page 2 1).int? "pid" = some 1 := Record.link_node "page" "pid" 2 1
  rw [kept, stayed] at moved
  cases moved

end RecordEditing
