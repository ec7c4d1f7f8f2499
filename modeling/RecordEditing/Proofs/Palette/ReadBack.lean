import RecordEditing.Palette.Basic
import RecordEditing.Proofs.Json.Fields
import RecordEditing.Proofs.Palette.Score

/-!
Palettes read back from the JSON values that they are turned into; how these values are spelled as
text is not treated here. What goes without saying in the value of a condition, weight 1 and loose
comparison, is what its reader takes for granted.
-/
namespace RecordEditing

theorem Conjunction.ofWord?_word (j : Conjunction) : ofWord? j.word = some j := by
  cases j <;> rfl

namespace Condition

variable {fs : Fields} {typed : Bool} {w : UInt32}

theorem weightOf?_written (here : Fields.given ["weight"] fs = if w = 1 then [] else [.int w.toNat]) :
    weightOf? fs = some w :=
  Fields.withDefault?_of_given here id fun _ => Json.word?_word w

theorem typedOf?_written
    (here : Fields.given ["strict"] fs = if typed then [.bool true] else []) :
    typedOf? fs = some typed := by
  unfold typedOf? Fields.withDefault?
  rw [here]
  cases typed <;> rfl

theorem kind_tagged (nested : Bool) (kind : String) (other : Fields.given ["type"] fs = []) :
    Fields.required? ["type"] (Fields.kind? kinds nested) (("type", .str kind) :: fs) =
      some kind :=
  Fields.required?_of_given (j := .str kind) (by simp [other])

theorem read?_leaf {nested : Bool} {kind : String} (other : Fields.given ["type"] fs = [])
    (not : kind ≠ "not") (chain : kind ≠ "chain") :
    read? nested (tagged kind fs) = leaf? kind (("type", .str kind) :: fs) := by
  rw [tagged, read?, kind_tagged nested kind other]
  split
  · next same => exact absurd (Option.some.inj same) not
  · next same => exact absurd (Option.some.inj same) chain
  · next same =>
    obtain rfl := Option.some.inj same
    rfl
  · next none => cases none

def propertyMembers (p : String) (between : Fields) (typed : Bool) (w : UInt32) : Fields :=
  ("property", .str p) :: (between ++ (typedMember typed ++ weightMember w))

theorem readings_propertyMembers (kind p : String) {between : Fields} (typed : Bool) (w : UInt32)
    (apart : ∀ name ∈ ["type", "property", "strict", "weight"], Fields.given [name] between = []) :
    Fields.given ["type"] (propertyMembers p between typed w) = [] ∧
      propertyOf? (("type", .str kind) :: propertyMembers p between typed w) = some p ∧
      typedOf? (("type", .str kind) :: propertyMembers p between typed w) = some typed ∧
      weightOf? (("type", .str kind) :: propertyMembers p between typed w) = some w := by
  simp only [List.forall_mem_cons] at apart
  obtain ⟨type, property, strict, weight, _⟩ := apart
  refine ⟨?_, Fields.required?_of_given (j := .str p) ?_, typedOf?_written ?_, weightOf?_written ?_⟩
  · simp [propertyMembers, typedMember, weightMember, type]
  · simp [propertyMembers, typedMember, weightMember, property]
  · simp [propertyMembers, typedMember, weightMember, strict]
  · simp [propertyMembers, typedMember, weightMember, weight]

theorem read?_onProperty {nested : Bool} {kind p : String} {make : String → Bool → UInt32 → Condition}
    (not : kind ≠ "not") (chain : kind ≠ "chain")
    (reader : ∀ fs, leaf? kind fs = (propertyOf? fs).bind fun p =>
      (typedOf? fs).bind fun typed => (weightOf? fs).bind fun w => some (make p typed w)) :
    read? nested (onProperty kind p typed w) = some (make p typed w) := by
  obtain ⟨type, property, strict, weight⟩ :=
    readings_propertyMembers kind p typed w fun _ _ => Fields.given_nil _
  change read? nested (tagged kind (propertyMembers p [] typed w)) = _
  rw [read?_leaf type not chain, reader, property, strict, weight]
  rfl

theorem read?_equals {nested : Bool} {p : String} {v : Json} :
    read? nested (toJson (.equals p v typed w)) = some (.equals p v typed w) := by
  have apart : ∀ name ∈ ["type", "property", "strict", "weight"],
      Fields.given [name] [("value", v)] = [] := by simp
  obtain ⟨type, property, strict, weight⟩ :=
    readings_propertyMembers "property_value" p typed w apart
  have value : Fields.required? ["value"] some
      (("type", .str "property_value") :: propertyMembers p [("value", v)] typed w) = some v :=
    Fields.required?_of_given (j := v) (by simp [propertyMembers, typedMember, weightMember])
  rw [toJson]
  change read? nested (tagged "property_value" (propertyMembers p [("value", v)] typed w)) = _
  rw [read?_leaf type (by decide) (by decide)]
  simp only [leaf?, value, property, strict, weight]
  rfl

theorem readItems?_toItems {ms : List Condition}
    (each : ∀ m ∈ ms, read? true m.toJson = some m) : readItems? (toItems ms) = some ms := by
  induction ms with
  | nil => rfl
  | cons m ms ih =>
    obtain ⟨here, later⟩ := List.forall_mem_cons.mp each
    rw [toItems, readItems?, here, ih later]
    rfl

theorem read?_toJson (c : Condition) (nested : Bool) : read? nested c.toJson = some c := by
  induction c using Condition.induction generalizing nested with
  | always =>
    rw [toJson, read?_leaf rfl (by decide) (by decide)]
    rfl
  | constant v w =>
    have value : Fields.required? ["value"] Json.bool?
        (("type", .str "boolean") :: ("value", .bool v) :: weightMember w) = some v :=
      Fields.required?_of_given (j := .bool v) (by simp [weightMember])
    have weight : weightOf? (("type", .str "boolean") :: ("value", .bool v) :: weightMember w) =
        some w := weightOf?_written (by simp [weightMember])
    rw [toJson, read?_leaf (by simp [weightMember]) (by decide) (by decide)]
    simp only [leaf?, value, weight]
    rfl
  | isSet p typed w => exact read?_onProperty (by decide) (by decide) fun _ => rfl
  | isUnset p typed w => exact read?_onProperty (by decide) (by decide) fun _ => rfl
  | equals p v typed w => exact read?_equals
  | not c ih =>
    rw [toJson, tagged, read?, kind_tagged nested "not" (by simp)]
    simp [innerOf?, ih true]
  | chain j ms ih =>
    have members := readItems?_toItems fun m member => ih m member true
    have conjunction : conjunctionOf? [("type", .str "chain"), ("conjunction", .str j.word),
        ("conditions", .arr (toItems ms))] = some j :=
      (Fields.withDefault?_of_written (j := .str j.word) (by simp)).trans j.ofWord?_word
    rw [toJson, tagged, read?, kind_tagged nested "chain" (by simp)]
    simp [membersOf?, members, conjunction]

theorem ofJson?_toJson (c : Condition) : ofJson? c.toJson = some c := read?_toJson c false

theorem toJson_ne_null (c : Condition) : c.toJson ≠ .null := by
  cases c <;> simp [toJson, tagged, onProperty]

end Condition

theorem Field.ofJson?_toJson (f : Field) : ofJson? f.toJson = some f := by
  unfold ofJson? toJson
  simp only [Fields.ofJson?, Option.bind_eq_bind, Option.bind_some]
  rw [Fields.required?_of_given (j := .str f.name) (by simp [conditionMember]),
    Fields.optional?_of_given Condition.toJson (o := f.visible) (by simp [conditionMember])
      (fun c _ => c.toJson_ne_null) (fun c _ => c.ofJson?_toJson),
    Fields.optional?_of_given Condition.toJson (o := f.editable) (by simp [conditionMember])
      (fun c _ => c.toJson_ne_null) (fun c _ => c.ofJson?_toJson)]
  rfl

theorem Legend.ofJson?_toJson (l : Legend) : ofJson? l.toJson = some l := by
  unfold ofJson? toJson
  simp only [Fields.ofJson?, Option.bind_eq_bind, Option.bind_some]
  rw [Fields.required?_of_given (j := .str l.name) (by simp),
    Fields.withDefault?_of_written (j := .arr (l.fields.map Field.toJson)) (by simp),
    Json.listOf?_map fun f _ => f.ofJson?_toJson,
    Fields.withDefault?_of_written (j := .bool l.isOpen) (by simp)]
  rfl

theorem Palette.ofJson?_toJson (p : Palette) : ofJson? p.toJson = some p := by
  unfold ofJson? toJson
  simp only [Fields.ofJson?, Option.bind_eq_bind, Option.bind_some]
  rw [Fields.required?_of_given (j := .str p.name) (by simp),
    Fields.required?_of_given (j := p.condition.toJson) (by simp), p.condition.ofJson?_toJson,
    Fields.withDefault?_of_written (j := .arr (p.legends.map Legend.toJson)) (by simp),
    Json.listOf?_map fun l _ => l.ofJson?_toJson]
  rfl

/-- Every collection of palettes is read back as it was from the JSON value that it is turned into,
whatever conditions its palettes and fields have. -/
theorem palettes_read_back (c : PaletteCollection) :
    PaletteCollection.ofJson? c.toJson = some c := by
  unfold PaletteCollection.ofJson? PaletteCollection.toJson
  simp only [Fields.ofJson?, Option.bind_eq_bind, Option.bind_some]
  rw [Fields.required?_of_given (j := .arr (c.palettes.map Palette.toJson)) (by simp),
    Json.listOf?_map fun p _ => p.ofJson?_toJson]
  rfl

end RecordEditing
