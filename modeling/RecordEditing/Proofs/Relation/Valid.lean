import RecordEditing.Container.Basic
import RecordEditing.Proofs.Record.Address

/-!
What a definition that could be compiled guarantees: all its setters are well formed, and those of
the root condition write values.
-/
namespace RecordEditing

theorem eq_ok_of_forM {ε α : Type} {check : α → Except ε Unit} {items : List α}
    (h : items.forM check = .ok ()) : ∀ x ∈ items, check x = .ok () := by
  induction items with
  | nil => simp
  | cons y rest ih =>
    obtain ⟨_, here, later⟩ := bind_eq_ok h
    intro x member
    rcases List.mem_cons.mp member with rfl | more
    · exact here
    · exact ih later x more

theorem ParentChild.assignment_of_validate {condition : ParentChild}
    (valid : condition.validate = .ok ()) : ∀ s ∈ condition.setters, ∃ a, s.assignment = .ok a := by
  obtain ⟨_, _, rest⟩ := bind_eq_ok valid
  obtain ⟨_, checked, _⟩ := bind_eq_ok rest
  intro s member
  obtain ⟨a, assigned, _⟩ := map_eq_ok (eq_ok_of_forM checked s member)
  exact ⟨a, assigned⟩

theorem RootCondition.assignment_of_validate {condition : RootCondition}
    (valid : condition.validate = .ok ()) :
    ∀ s ∈ condition.setters, ∃ a pair, s.assignment = .ok a ∧ literalOnly a = .ok pair := by
  obtain ⟨_, _, rest⟩ := bind_eq_ok valid
  simp only at rest
  split at rest
  · cases rest
  · obtain ⟨_, checked, _⟩ := bind_eq_ok rest
    intro s member
    have ok : s.assignment >>= (fun a => (literalOnly a).map fun _ => ()) = .ok () :=
      eq_ok_of_forM checked s member
    obtain ⟨a, assigned, literal⟩ := bind_eq_ok ok
    obtain ⟨pair, written, _⟩ := map_eq_ok literal
    exact ⟨a, pair, assigned, written⟩

namespace Relations

variable {rs : Relations}

theorem root_of_validate (valid : rs.validate = .ok ()) :
    ∀ root, rs.root = some root → root.validate = .ok () := by
  intro root here
  unfold validate at valid
  rw [here] at valid
  obtain ⟨_, checked, _⟩ := bind_eq_ok valid
  exact checked

theorem children_of_validate (valid : rs.validate = .ok ()) :
    ∀ condition ∈ rs.children, condition.validate = .ok () := by
  unfold validate at valid
  cases root : rs.root with
  | none =>
    rw [root] at valid
    exact eq_ok_of_forM valid
  | some condition =>
    rw [root] at valid
    obtain ⟨_, _, checked⟩ := bind_eq_ok valid
    exact eq_ok_of_forM checked

theorem mem_of_between {source destination : String} {condition : ParentChild}
    (h : rs.between? source destination = some condition) :
    condition ∈ rs.children ∧ condition.source = source ∧ condition.destination = destination := by
  have ends := List.find?_some h
  simp only [Bool.and_eq_true, beq_iff_eq] at ends
  exact ⟨List.mem_of_find?_eq_some h, ends⟩

theorem mem_of_requireBetween {source destination : String} {condition : ParentChild}
    (h : rs.requireBetween source destination = .ok condition) :
    condition ∈ rs.children ∧ condition.source = source ∧ condition.destination = destination := by
  unfold requireBetween at h
  split at h
  · next found =>
    cases h
    exact mem_of_between found
  · cases h

end Relations

theorem ContainerConfig.validate_of_compile {config : ContainerConfig} {c : Container}
    (compiled : config.compile = .ok c) :
    config.validate = .ok () ∧ c.basic = config.basic ∧ c.relations = config.relations := by
  unfold compile at compiled
  split at compiled
  · cases compiled
  · next valid =>
    split at compiled
    · cases compiled
    · cases compiled
      exact ⟨valid, rfl, rfl⟩

theorem ContainerConfig.compile_of_validate {config : ContainerConfig}
    (plain : config.palettes = none) (valid : config.validate = .ok ()) :
    config.compile = .ok config.unchecked := by
  unfold compile compilePalettes
  rw [valid, plain]
  rfl

theorem ContainerConfig.relations_of_compile {config : ContainerConfig} {c : Container}
    (compiled : config.compile = .ok c) : c.relations.validate = .ok () := by
  obtain ⟨valid, _, same⟩ := validate_of_compile compiled
  rw [same]
  unfold validate at valid
  split at valid
  · cases valid
  · split at valid
    · cases valid
    · split at valid
      · cases valid
      · cases checked : config.relations.validate with
        | error e =>
          rw [checked] at valid
          cases valid
        | ok _ => rfl

end RecordEditing
