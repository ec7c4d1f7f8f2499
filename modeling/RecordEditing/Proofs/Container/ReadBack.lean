import RecordEditing.Container.Basic
import RecordEditing.Proofs.Relation.ReadBack

/-!
Definitions of containers read back from the JSON values that they are turned into; how these values
are spelled as text is not treated here. The names under which a field is also known, a null in
place of nothing, fields that nobody knows and defaults that were left out are all gone once a
definition was read; there is one value for each definition.
-/
namespace RecordEditing

namespace BasicDefinition

variable {names : List String} {fs : Fields}

theorem optional?_optionalName {o : Option String}
    (here : Fields.given names fs = [optionalName o]) :
    Fields.optional? names Json.str? fs = some o := by
  unfold Fields.optional?
  rw [here]
  cases o <;> rfl

theorem ofJson?_toJson (b : BasicDefinition) : ofJson? b.toJson = some b := by
  have mode : Mode.ofJson? (.str b.mode.word) = some b.mode := b.mode.ofWord?_word
  unfold ofJson? toJson
  simp only [Fields.ofJson?, Option.bind_eq_bind, Option.bind_some]
  rw [Fields.withDefault?_of_written (j := .str b.mode.word) (by simp), mode,
    Fields.required?_of_given (j := .str b.dataProvider) (by simp),
    optional?_optionalName (o := b.parentProvider) (by simp),
    optional?_optionalName (o := b.rootProvider) (by simp)]
  rfl

end BasicDefinition

namespace ContainerConfig

structure Readable (c : ContainerConfig) : Prop where
  palettes : c.palettes ≠ some .null
  subpalettes : c.subpalettes ≠ some .null
  relations : c.relations.Readable

theorem readable_of_ofJson? {j : Json} {c : ContainerConfig} (read : ofJson? j = some c) :
    c.Readable := by
  obtain ⟨fs, _, rest⟩ := Option.bind_eq_some_iff.mp read
  obtain ⟨name, _, rest⟩ := Option.bind_eq_some_iff.mp rest
  obtain ⟨basic, _, rest⟩ := Option.bind_eq_some_iff.mp rest
  obtain ⟨selectors, _, rest⟩ := Option.bind_eq_some_iff.mp rest
  obtain ⟨palettes, palettesRead, rest⟩ := Option.bind_eq_some_iff.mp rest
  obtain ⟨subpalettes, subpalettesRead, rest⟩ := Option.bind_eq_some_iff.mp rest
  obtain ⟨relations, relationsRead, same⟩ := Option.bind_eq_some_iff.mp rest
  cases same
  refine ⟨Fields.optional?_ne_null palettesRead, Fields.optional?_ne_null subpalettesRead, ?_⟩
  rcases Fields.withDefault?_eq_some relationsRead with rfl | ⟨j, found⟩
  · exact ⟨fun _ none => (Option.not_mem_none _ none).elim, fun _ none => absurd none List.not_mem_nil⟩
  · exact Relations.readable_of_ofJson? found

theorem ofJson?_toJson {c : ContainerConfig} (readable : c.Readable) :
    ofJson? c.toJson = some c := by
  have names : Json.listOf? Json.str? (.arr (c.selectors.map .str)) = some c.selectors :=
    Json.listOf?_map fun _ _ => rfl
  unfold ofJson? toJson
  simp only [Fields.ofJson?, Option.bind_eq_bind, Option.bind_some]
  rw [Fields.required?_of_given (j := .str c.name) (by simp),
    Fields.required?_of_given (j := c.basic.toJson) (by simp), c.basic.ofJson?_toJson,
    Fields.withDefault?_of_given (x := c.selectors) (p := c.selectors.isEmpty)
      (j := .arr (c.selectors.map .str)) (by simp) List.isEmpty_iff.mp fun _ => names,
    Fields.optional?_value (o := c.palettes) (by simp) readable.palettes,
    Fields.optional?_value (o := c.subpalettes) (by simp) readable.subpalettes,
    Fields.withDefault?_of_written (j := c.relations.toJson) (by simp),
    Relations.ofJson?_toJson readable.relations]
  rfl

end ContainerConfig

/-- A definition that was read from any JSON value is read back as it was from the JSON value that
it is turned into. -/
theorem definition_read_back {j : Json} {c : ContainerConfig}
    (read : ContainerConfig.ofJson? j = some c) : ContainerConfig.ofJson? c.toJson = some c :=
  ContainerConfig.ofJson?_toJson (ContainerConfig.readable_of_ofJson? read)

def looselyListed : Json :=
  .obj [("name", .str "content"), ("version", .int 2),
    ("basic", .obj [("data_provider", .str "content"), ("mode", .str "parented"),
      ("parent_data_provider", .str "page"), ("root_data_provider", .null)]),
    ("selectors", .arr []), ("palettes", .null),
    ("relationships", .obj [("root", .null), ("children", .arr [
      .obj [("source", .str "page"), ("destination", .str "content"), ("inverse", .arr []),
        ("filter", .arr [.obj [("operation", .str "and"), ("children", .arr [
          .obj [("operation", .str "=="), ("local", .str "id"), ("remote", .str "pid"),
            ("children", .arr [])],
          .obj [("operation", .str "like"), ("property", .str "type"), ("value", .str "t%")]])]]),
        ("setters", .arr [.obj [("property", .str "pid"), ("from_field", .str "id")],
          .obj [("to_field", .str "type"), ("from_field", .null), ("value", .str "text")]])]])])]

def listedContent : ContainerConfig where
  name := "content"
  basic := { mode := .parented, dataProvider := "content", parentProvider := some "page" }
  relations := { children := [{
    source := "page"
    destination := "content"
    inverse := some []
    filter := [.mk .all {} [.link .equals "id" "pid",
      .mk (.compare .like) { property := some "type", value := some (.str "t%") } []]]
    setters := [{ target := some "pid", source := some "id" },
      { target := some "type", value := some (.str "text") }] }] }

theorem definition_read_back_content :
    ContainerConfig.ofJson? looselyListed = some listedContent ∧
      ContainerConfig.ofJson? listedContent.toJson = some listedContent := by
  have read : ContainerConfig.ofJson? looselyListed = some listedContent := by rfl
  exact ⟨read, definition_read_back read⟩

end RecordEditing
