import RecordEditing.Container.Config

/-!
Compiled containers. A definition is compiled only if it can be used: its providers are named, its
relations are valid and its palettes can be read.
-/
namespace RecordEditing

inductive ContainerFault where
  | emptyDataProvider
  | noParentProvider
  | noRootCondition
  | relation (error : RelationError)
  deriving Repr

def ContainerFault.message : ContainerFault → String
  | .emptyDataProvider => "basic.data_provider is empty"
  | .noParentProvider => "parented_list mode needs basic.parent_data_provider"
  | .noRootCondition => "hierarchical mode needs relationships.root"
  | .relation error => error.message

inductive ContainerError where
  | invalid (name : String) (fault : ContainerFault)
  | palette (error : PaletteError)
  deriving Repr

def ContainerError.message : ContainerError → String
  | .invalid name fault => "invalid container `" ++ name ++ "`: " ++ fault.message
  | .palette error => error.message

structure Container where
  name : String
  basic : BasicDefinition
  palettes : PaletteCollection
  relations : Relations
  deriving Repr

namespace ContainerConfig

def validate (c : ContainerConfig) : Except ContainerFault Unit :=
  if c.basic.dataProvider = "" then .error .emptyDataProvider
  else if c.basic.mode = .parented ∧ c.basic.parentProvider = none then .error .noParentProvider
  else if c.basic.mode = .hierarchical ∧ c.relations.root.isNone then .error .noRootCondition
  else c.relations.validate.mapError .relation

def compilePalettes (c : ContainerConfig) : Except PaletteError PaletteCollection :=
  match c.palettes with
  | none => .ok .empty
  | some palettes => do
    let source ← PaletteSource.ofJson palettes c.subpalettes
    return source.compileInto c.selectors .empty

def compile (c : ContainerConfig) : Except ContainerError Container :=
  match c.validate with
  | .error fault => .error (.invalid c.name fault)
  | .ok () =>
    match c.compilePalettes with
    | .error e => .error (.palette e)
    | .ok palettes => .ok ⟨c.name, c.basic, palettes, c.relations⟩

/-- The container as written, neither validated nor with palettes. -/
def unchecked (c : ContainerConfig) : Container := ⟨c.name, c.basic, .empty, c.relations⟩

end ContainerConfig
end RecordEditing
