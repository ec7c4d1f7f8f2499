import RecordEditing.Proofs.Json.Fields
import RecordEditing.Relation.Definition

/-!
Relations read back from their written form. A null that was read counts as absent, so that no part
of what was read is null, and parts that are not null are written and read as they are.
-/
namespace RecordEditing

def LeafParts.Readable (p : LeafParts) : Prop :=
  p.searchedValue ≠ some .null ∧ p.value ≠ some .null

inductive TemplateRule.Readable : TemplateRule → Prop where
  | mk {op parts children} : parts.Readable → (∀ t ∈ children, TemplateRule.Readable t) →
      TemplateRule.Readable (.mk op parts children)

def Setter.Readable (s : Setter) : Prop := s.value ≠ some .null

structure RootCondition.Readable (c : RootCondition) : Prop where
  filter : ∀ t ∈ c.filter, t.Readable
  setters : ∀ s ∈ c.setters, s.Readable

structure ParentChild.Readable (c : ParentChild) : Prop where
  filter : ∀ t ∈ c.filter, t.Readable
  inverse : ∀ template ∈ c.inverse, ∀ t ∈ template, t.Readable
  setters : ∀ s ∈ c.setters, s.Readable

structure Relations.Readable (rs : Relations) : Prop where
  root : ∀ c ∈ rs.root, c.Readable
  children : ∀ c ∈ rs.children, c.Readable

theorem TemplateOperation.ofSymbol?_symbol (op : TemplateOperation) :
    ofSymbol? op.symbol = some op := by
  cases op with
  | compare op => cases op <;> rfl
  | _ => rfl

theorem Mode.ofWord?_word (m : Mode) : ofWord? m.word = some m := by
  cases m <;> rfl

namespace TemplateRule

variable {fs : Fields} {op : TemplateOperation} {p : LeafParts} {children : List TemplateRule}

theorem toItems_eq_map (ts : List TemplateRule) : toItems ts = ts.map toJson := by
  induction ts with
  | nil => rfl
  | cons t ts ih => rw [toItems, ih, List.map_cons]

theorem ofItems?_eq_mapM (js : List Json) : ofItems? js = js.mapM ofJson? := by
  induction js with
  | nil => rfl
  | cons j js ih => rw [ofItems?, List.mapM_cons, ih]

theorem childrenOf?_eq (ms : Fields) :
    childrenOf? ms = Fields.withDefault? ["children"] [] listOfJson? ms := by
  induction ms with
  | nil => rfl
  | cons m ms ih =>
    obtain ⟨name, j⟩ := m
    unfold childrenOf?
    by_cases named : name = "children"
    · have here : Fields.given ["children"] ((name, j) :: ms) =
          j :: Fields.given ["children"] ms := by simp [named]
      unfold Fields.withDefault?
      rw [if_pos named, here]
      cases Fields.given ["children"] ms with
      | nil =>
        cases j with
        | arr items => exact ofItems?_eq_mapM items
        | _ => rfl
      | cons other more => rfl
    · have elsewhere : Fields.given ["children"] ((name, j) :: ms) =
          Fields.given ["children"] ms := by simp [named]
      rw [if_neg named, ih]
      unfold Fields.withDefault?
      rw [elsewhere]

theorem withChildren?_eq_some {found : List TemplateRule}
    (read : withChildren? fs found = some (.mk op p children)) :
    partsOf? fs = some p ∧ found = children := by
  obtain ⟨operation, _, rest⟩ := Option.bind_eq_some_iff.mp read
  obtain ⟨parts, partsRead, same⟩ := Option.bind_eq_some_iff.mp rest
  cases same
  exact ⟨partsRead, rfl⟩

theorem ofJson?_eq_some {j : Json} (read : ofJson? j = some (.mk op p children)) :
    (∃ fs, partsOf? fs = some p) ∧ ∀ t ∈ children, ∃ j, ofJson? j = some t := by
  unfold ofJson? at read
  split at read
  · next ms =>
    obtain ⟨found, childrenRead, rest⟩ := Option.bind_eq_some_iff.mp read
    obtain ⟨parts, rfl⟩ := withChildren?_eq_some rest
    refine ⟨⟨ms, parts⟩, ?_⟩
    rw [childrenOf?_eq] at childrenRead
    exact Fields.forall_of_list (fun j t found => ⟨j, found⟩) childrenRead
  · next o k s sv q v items =>
    obtain ⟨found, childrenRead, rest⟩ := Option.bind_eq_some_iff.mp read
    obtain ⟨parts, rfl⟩ := withChildren?_eq_some rest
    rw [ofItems?_eq_mapM] at childrenRead
    exact ⟨⟨_, parts⟩, Json.forall_of_listOf? (j := .arr items) (fun j t found => ⟨j, found⟩)
      childrenRead⟩
  · split at read
    · obtain ⟨parts, rfl⟩ := withChildren?_eq_some read
      exact ⟨⟨_, parts⟩, fun t member => absurd member List.not_mem_nil⟩
    · cases read
  · cases read

theorem readable_of_partsOf? (read : partsOf? fs = some p) : p.Readable := by
  obtain ⟨known, _, rest⟩ := Option.bind_eq_some_iff.mp read
  obtain ⟨searched, _, rest⟩ := Option.bind_eq_some_iff.mp rest
  obtain ⟨searchedValue, searchedRead, rest⟩ := Option.bind_eq_some_iff.mp rest
  obtain ⟨property, _, rest⟩ := Option.bind_eq_some_iff.mp rest
  obtain ⟨value, valueRead, same⟩ := Option.bind_eq_some_iff.mp rest
  cases same
  exact ⟨Fields.optional?_ne_null searchedRead, Fields.optional?_ne_null valueRead⟩

theorem readable_of_ofJson? {j : Json} {t : TemplateRule} (read : ofJson? j = some t) :
    t.Readable := by
  cases t with
  | mk op p children =>
    obtain ⟨⟨fs, parts⟩, each⟩ := ofJson?_eq_some read
    refine .mk (readable_of_partsOf? parts) fun t member => ?_
    obtain ⟨j, found⟩ := each t member
    exact readable_of_ofJson? found
termination_by t

def childrenMember (children : List TemplateRule) : Fields :=
  if children = [] then [] else [("children", .arr (children.map toJson))]

theorem toJson_eq (op : TemplateOperation) (p : LeafParts) (children : List TemplateRule) :
    toJson (.mk op p children) =
      .obj (operationMember op ++ (partMembers p ++ childrenMember children)) := by
  rw [toJson, toItems_eq_map, List.append_assoc]
  cases children <;> rfl

theorem operationOf?_written
    (here : Fields.given ["operation"] fs =
      if op = .compare .equals then [] else [.str op.symbol]) : operationOf? fs = some op :=
  Fields.withDefault?_of_given here id fun _ => op.ofSymbol?_symbol

theorem partsOf?_written (readable : p.Readable)
    (known : Fields.given ["local"] fs = (p.known.map Json.str).toList)
    (searched : Fields.given ["remote"] fs = (p.searched.map Json.str).toList)
    (searchedValue : Fields.given ["remote_value"] fs = p.searchedValue.toList)
    (property : Fields.given ["property"] fs = (p.property.map Json.str).toList)
    (value : Fields.given ["value"] fs = p.value.toList) : partsOf? fs = some p := by
  unfold partsOf?
  rw [Fields.optional?_str known, Fields.optional?_str searched,
    Fields.optional?_value searchedValue readable.1, Fields.optional?_str property,
    Fields.optional?_value value readable.2]
  rfl

theorem childrenOf?_written
    (here : Fields.given ["children"] fs =
      if children = [] then [] else [.arr (children.map toJson)])
    (back : ∀ t ∈ children, ofJson? t.toJson = some t) : childrenOf? fs = some children := by
  rw [childrenOf?_eq]
  exact Fields.withDefault?_of_given here id fun _ => Json.listOf?_map back

theorem ofJson?_toJson {t : TemplateRule} (readable : t.Readable) : ofJson? t.toJson = some t := by
  induction readable with
  | @mk op p children parts _ ih =>
    rw [toJson_eq, ofJson?, childrenOf?_written ?_ ih]
    · change withChildren? _ children = _
      unfold withChildren?
      rw [operationOf?_written ?_, partsOf?_written parts]
      · rfl
      all_goals simp [operationMember, partMembers, childrenMember]
    · simp [operationMember, partMembers, childrenMember]

theorem listOfJson?_toItems {ts : List TemplateRule} (readable : ∀ t ∈ ts, t.Readable) :
    listOfJson? (.arr (toItems ts)) = some ts := by
  rw [toItems_eq_map]
  exact Json.listOf?_map fun t member => ofJson?_toJson (readable t member)

end TemplateRule

namespace Setter

theorem readable_of_ofJson? {j : Json} {s : Setter} (read : ofJson? j = some s) : s.Readable := by
  obtain ⟨fs, _, rest⟩ := Option.bind_eq_some_iff.mp read
  obtain ⟨target, _, rest⟩ := Option.bind_eq_some_iff.mp rest
  obtain ⟨source, _, rest⟩ := Option.bind_eq_some_iff.mp rest
  obtain ⟨value, valueRead, same⟩ := Option.bind_eq_some_iff.mp rest
  cases same
  exact Fields.optional?_ne_null valueRead

theorem ofJson?_toJson {s : Setter} (readable : s.Readable) : ofJson? s.toJson = some s := by
  unfold ofJson? toJson
  simp only [Fields.ofJson?, Option.bind_eq_bind, Option.bind_some]
  rw [Fields.optional?_str (o := s.target) (by simp), Fields.optional?_str (o := s.source) (by simp),
    Fields.optional?_value (o := s.value) (by simp) readable]
  rfl

theorem listOf?_map {ss : List Setter} (readable : ∀ s ∈ ss, s.Readable) :
    Json.listOf? ofJson? (.arr (ss.map toJson)) = some ss :=
  Json.listOf?_map fun s member => ofJson?_toJson (readable s member)

end Setter

namespace RootCondition

theorem readable_of_ofJson? {j : Json} {c : RootCondition} (read : ofJson? j = some c) :
    c.Readable := by
  obtain ⟨fs, _, rest⟩ := Option.bind_eq_some_iff.mp read
  obtain ⟨provider, _, rest⟩ := Option.bind_eq_some_iff.mp rest
  obtain ⟨filter, filterRead, rest⟩ := Option.bind_eq_some_iff.mp rest
  obtain ⟨setters, settersRead, same⟩ := Option.bind_eq_some_iff.mp rest
  cases same
  exact ⟨Fields.forall_of_list (fun _ _ => TemplateRule.readable_of_ofJson?) filterRead,
    Fields.forall_of_list (fun _ _ => Setter.readable_of_ofJson?) settersRead⟩

theorem ofJson?_toJson {c : RootCondition} (readable : c.Readable) :
    ofJson? c.toJson = some c := by
  unfold ofJson? toJson
  simp only [Fields.ofJson?, Option.bind_eq_bind, Option.bind_some]
  rw [Fields.required?_of_given (j := .str c.provider) (by simp),
    Fields.withDefault?_of_written (j := .arr (TemplateRule.toItems c.filter)) (by simp),
    TemplateRule.listOfJson?_toItems readable.filter,
    Fields.withDefault?_of_written (j := .arr (c.setters.map Setter.toJson)) (by simp),
    Setter.listOf?_map readable.setters]
  rfl

end RootCondition

namespace ParentChild

theorem readable_of_ofJson? {j : Json} {c : ParentChild} (read : ofJson? j = some c) :
    c.Readable := by
  obtain ⟨fs, _, rest⟩ := Option.bind_eq_some_iff.mp read
  obtain ⟨source, _, rest⟩ := Option.bind_eq_some_iff.mp rest
  obtain ⟨destination, _, rest⟩ := Option.bind_eq_some_iff.mp rest
  obtain ⟨filter, filterRead, rest⟩ := Option.bind_eq_some_iff.mp rest
  obtain ⟨inverse, inverseRead, rest⟩ := Option.bind_eq_some_iff.mp rest
  obtain ⟨setters, settersRead, same⟩ := Option.bind_eq_some_iff.mp rest
  cases same
  refine ⟨Fields.forall_of_list (fun _ _ => TemplateRule.readable_of_ofJson?) filterRead,
    Fields.forall_of_optional (fun _ _ => ?_) inverseRead,
    Fields.forall_of_list (fun _ _ => Setter.readable_of_ofJson?) settersRead⟩
  exact Json.forall_of_listOf? fun _ _ => TemplateRule.readable_of_ofJson?

theorem ofJson?_toJson {c : ParentChild} (readable : c.Readable) : ofJson? c.toJson = some c := by
  unfold ofJson? toJson
  simp only [Fields.ofJson?, Option.bind_eq_bind, Option.bind_some]
  rw [Fields.required?_of_given (j := .str c.source) (by simp),
    Fields.required?_of_given (j := .str c.destination) (by simp),
    Fields.withDefault?_of_written (j := .arr (TemplateRule.toItems c.filter)) (by simp),
    TemplateRule.listOfJson?_toItems readable.filter,
    Fields.optional?_of_given (fun ts => .arr (TemplateRule.toItems ts)) (o := c.inverse)
      (by simp) (fun _ _ => Json.noConfusion)
      (fun ts given => TemplateRule.listOfJson?_toItems (readable.inverse ts given)),
    Fields.withDefault?_of_written (j := .arr (c.setters.map Setter.toJson)) (by simp),
    Setter.listOf?_map readable.setters]
  rfl

end ParentChild

namespace Relations

theorem readable_of_ofJson? {j : Json} {rs : Relations} (read : ofJson? j = some rs) :
    rs.Readable := by
  obtain ⟨fs, _, rest⟩ := Option.bind_eq_some_iff.mp read
  obtain ⟨root, rootRead, rest⟩ := Option.bind_eq_some_iff.mp rest
  obtain ⟨children, childrenRead, same⟩ := Option.bind_eq_some_iff.mp rest
  cases same
  exact ⟨Fields.forall_of_optional (fun _ _ => RootCondition.readable_of_ofJson?) rootRead,
    Fields.forall_of_list (fun _ _ => ParentChild.readable_of_ofJson?) childrenRead⟩

theorem ofJson?_toJson {rs : Relations} (readable : rs.Readable) : ofJson? rs.toJson = some rs := by
  unfold ofJson? toJson
  simp only [Fields.ofJson?, Option.bind_eq_bind, Option.bind_some]
  rw [Fields.optional?_of_given RootCondition.toJson (o := rs.root) (by simp)
      (fun _ _ => Json.noConfusion)
      (fun c given => RootCondition.ofJson?_toJson (readable.root c given)),
    Fields.withDefault?_of_written (j := .arr (rs.children.map ParentChild.toJson)) (by simp),
    Json.listOf?_map fun c member => ParentChild.ofJson?_toJson (readable.children c member)]
  rfl

end Relations
end RecordEditing
