import RecordEditing.Clipboard.Session
import RecordEditing.Proofs.Clipboard.Runs
import RecordEditing.Proofs.Json.Restores
import RecordEditing.Proofs.Record.ReadBack

/-!
Saved clipboards. A clipboard that is saved in a session is loaded as it was, or else, if one of its
addresses cannot be read back, as an empty one.
-/
namespace RecordEditing

theorem RecordRef.restores_text (ref : RecordRef) :
    Restores (ofText? ref.text) ref ref.Readable := by
  intro other
  rw [← ofText_text_eq_ok_iff]
  unfold ofText?
  cases ofText ref.text <;> simp [Except.toOption]

namespace ClipboardItem

theorem ofJson?_model {word : String} {action : ClipboardAction} {make : RecordRef → ClipboardItem}
    (named : ClipboardAction.ofWord? word = some action)
    (reader : ∀ fs, ofFields? fs action = (Fields.required? ["model"] RecordRef.ofJson? fs).map make)
    (ref : RecordRef) : ofJson? (.obj [("action", .str word), ("model", ref.toJson)]) =
      (RecordRef.ofText? ref.text).map make := by
  simp [ofJson?, Fields.required?, Fields.given, Json.str?, named, reader, RecordRef.toJson,
    RecordRef.ofJson?]

theorem ofJson?_create (provider : String) (parent : Option RecordRef) :
    ofJson? (toJson (.create provider parent)) = match parent with
      | none => some (.create provider none)
      | some ref => (RecordRef.ofText? ref.text).map fun ref => .create provider (some ref) := by
  cases parent with
  | none =>
    simp [ofJson?, toJson, ofFields?, ClipboardAction.ofWord?, Json.str?, Fields.required?,
      Fields.given, Fields.optionalMember, Fields.optional?]
  | some ref =>
    cases read : RecordRef.ofText? ref.text <;>
      simp [ofJson?, toJson, ofFields?, ClipboardAction.ofWord?, Json.str?, Fields.required?,
        Fields.given, Fields.optionalMember, Fields.optional?, RecordRef.toJson, RecordRef.ofJson?,
        read]

theorem restores_toJson (item : ClipboardItem) :
    Restores (ofJson? item.toJson) item (∀ ref ∈ item.refs, ref.Readable) := by
  cases item with
  | cut ref =>
    rw [toJson, ofJson?_model rfl fun _ => rfl]
    exact (ref.restores_text.map cut).congr (by simp [refs, ref?, parent?])
  | copy ref =>
    rw [toJson, ofJson?_model rfl fun _ => rfl]
    exact (ref.restores_text.map copy).congr (by simp [refs, ref?, parent?])
  | deepCopy ref =>
    rw [toJson, ofJson?_model rfl fun _ => rfl]
    exact (ref.restores_text.map deepCopy).congr (by simp [refs, ref?, parent?])
  | create provider parent =>
    rw [ofJson?_create]
    cases parent with
    | none => exact (Restores.of_some _).congr (by simp [refs, ref?, parent?])
    | some ref =>
      refine (ref.restores_text.map fun ref => create provider (some ref)).congr ?_
      simp [refs, ref?, parent?]

end ClipboardItem

namespace Clipboard

def refs (c : Clipboard) : List RecordRef :=
  c.items.flatMap ClipboardItem.refs ++ (c.circular ++ c.cutSubtrees.flatMap fun e => e.1 :: e.2)

structure Ordered (c : Clipboard) : Prop where
  circular : RefSet.Sorted c.circular
  cuts : Entries.Sorted c.cutSubtrees
  subtrees : ∀ e ∈ c.cutSubtrees, RefSet.Sorted e.2

theorem restores_optional {α : Type} {read : Json → Option (List α)} {xs : List α}
    {readable : α → Prop} {name : String} {fs : Fields} {j : Json}
    (given : Fields.given [name] fs = if xs.isEmpty then [] else [j])
    (restores : Restores (read j) xs (∀ x ∈ xs, readable x)) :
    Restores (Fields.withDefault? [name] [] read fs) xs (∀ x ∈ xs, readable x) := by
  unfold Fields.withDefault?
  rw [given]
  cases xs with
  | nil => exact (Restores.of_some []).congr (by simp)
  | cons x xs => exact restores

theorem restores_refsJson {set : List RecordRef} (sorted : RefSet.Sorted set) :
    Restores (refsOf? (refsJson set)) set (∀ ref ∈ set, ref.Readable) := by
  have items : Restores ((set.map RecordRef.toJson).mapM RecordRef.ofJson?) set
      (∀ ref ∈ set, ref.Readable) :=
    Restores.mapM RecordRef.toJson RecordRef.ofJson? fun ref _ => ref.restores_text
  have whole := items.map RefSet.ofList
  rw [RefSet.ofList_of_sorted sorted] at whole
  exact whole

theorem restores_cutSubtrees {c : Clipboard} (ordered : c.Ordered) :
    Restores (subtreesOf? (.obj (c.cutSubtrees.map fun e => (e.1.text, refsJson e.2))))
      c.cutSubtrees (∀ e ∈ c.cutSubtrees, ∀ ref ∈ e.1 :: e.2, ref.Readable) := by
  let writeEntry (e : RecordRef × List RecordRef) : String × Json := (e.1.text, refsJson e.2)
  let readEntry (entry : String × Json) : Option (RecordRef × List RecordRef) :=
    (RecordRef.ofText? entry.1).bind fun ref => (refsOf? entry.2).bind fun refs => some (ref, refs)
  have each : ∀ e ∈ c.cutSubtrees, Restores (readEntry (writeEntry e)) e
      (∀ ref ∈ e.1 :: e.2, ref.Readable) := by
    intro e member
    have subtree := restores_refsJson (ordered.subtrees e member)
    have whole := e.1.restores_text.bind
      (fun ref => (refsOf? (refsJson e.2)).bind fun refs => some (ref, refs))
      (subtree.bind (fun refs => some (e.1, refs)) (Restores.of_some e))
    exact whole.congr (by rw [and_true, List.forall_mem_cons])
  have entries := (Restores.mapM writeEntry readEntry each).map Entries.ofList
  rw [Entries.ofList_of_sorted ordered.cuts, Option.map_eq_bind] at entries
  exact entries

def members (c : Clipboard) : Fields :=
  ("items", .arr (c.items.map ClipboardItem.toJson)) ::
    (setMember "circular" c.circular.isEmpty (refsJson c.circular) ++
      setMember "cut_subtrees" c.cutSubtrees.isEmpty
        (.obj (c.cutSubtrees.map fun e => (e.1.text, refsJson e.2))))

theorem toJson_eq_members (c : Clipboard) : c.toJson = .obj c.members := rfl

theorem given_members (c : Clipboard) :
    Fields.given ["items"] c.members = [.arr (c.items.map ClipboardItem.toJson)] ∧
      Fields.given ["circular"] c.members =
        (if c.circular.isEmpty then [] else [refsJson c.circular]) ∧
      Fields.given ["cut_subtrees"] c.members = (if c.cutSubtrees.isEmpty then []
        else [.obj (c.cutSubtrees.map fun e => (e.1.text, refsJson e.2))]) := by
  unfold members setMember
  cases c.circular.isEmpty <;> cases c.cutSubtrees.isEmpty <;> simp [Fields.given]

theorem restores_toJson {c : Clipboard} (ordered : c.Ordered) :
    Restores (ofJson? c.toJson) c (∀ ref ∈ c.refs, ref.Readable) := by
  obtain ⟨itemsGiven, circularGiven, cutsGiven⟩ := c.given_members
  have items : Restores
      (Fields.withDefault? ["items"] [] (Json.listOf? ClipboardItem.ofJson?) c.members)
      c.items (∀ item ∈ c.items, ∀ ref ∈ item.refs, ref.Readable) := by
    unfold Fields.withDefault?
    rw [itemsGiven]
    exact Restores.mapM ClipboardItem.toJson ClipboardItem.ofJson? fun item _ => item.restores_toJson
  have circular := restores_optional circularGiven (restores_refsJson ordered.circular)
  have cuts := restores_optional cutsGiven (restores_cutSubtrees ordered)
  have whole := items.bind
    (fun items => (Fields.withDefault? ["circular"] [] refsOf? c.members).bind fun circular =>
      (Fields.withDefault? ["cut_subtrees"] [] subtreesOf? c.members).bind fun cuts =>
        some (Clipboard.mk items circular cuts))
    (circular.bind _ (cuts.bind _ (Restores.of_some c)))
  rw [toJson_eq_members]
  refine whole.congr ?_
  simp only [and_true, refs, List.forall_mem_append, List.forall_mem_flatMap]

theorem Ordered.step {c : Clipboard} (ordered : c.Ordered) (s : ClipboardStep) :
    (c.step s).Ordered := by
  refine ⟨?_, sorted_step ordered.cuts, ?_⟩
  · cases s with
    | setCircular refs => exact RefSet.sorted_ofList refs
    | clear => exact List.Pairwise.nil
    | _ =>
      rw [circular_step (by simp) (by simp)]
      exact ordered.circular
  · intro e member
    rcases mem_cutSubtrees_of_step member with old | ⟨_, subtree, _, rfl⟩
    · exact ordered.subtrees e old
    · exact RefSet.sorted_ofList subtree

theorem sorted_of_refsOf? {j : Json} {refs : List RecordRef} (read : refsOf? j = some refs) :
    RefSet.Sorted refs := by
  obtain ⟨items, _, rfl⟩ := Option.map_eq_some_iff.mp read
  exact RefSet.sorted_ofList items

theorem sorted_of_subtreesOf? {j : Json} {m : List (RecordRef × List RecordRef)}
    (read : subtreesOf? j = some m) : Entries.Sorted m ∧ ∀ e ∈ m, RefSet.Sorted e.2 := by
  obtain ⟨ms, _, rest⟩ := Option.bind_eq_some_iff.mp read
  obtain ⟨entries, each, same⟩ := Option.bind_eq_some_iff.mp rest
  cases same
  refine ⟨Entries.sorted_ofList entries, ?_⟩
  intro e member
  obtain ⟨written, _, found⟩ := exists_of_mapM each e (Entries.mem_of_mem_ofList member)
  obtain ⟨ref, _, more⟩ := Option.bind_eq_some_iff.mp found
  obtain ⟨refs, subtree, pair⟩ := Option.bind_eq_some_iff.mp more
  cases pair
  exact sorted_of_refsOf? subtree

theorem ordered_empty : Ordered {} where
  circular := List.Pairwise.nil
  cuts := List.Pairwise.nil
  subtrees _ member := absurd member List.not_mem_nil

theorem ordered_of_ofJson? {j : Json} {c : Clipboard} (read : ofJson? j = some c) : c.Ordered := by
  obtain ⟨fs, _, rest⟩ := Option.bind_eq_some_iff.mp read
  obtain ⟨items, _, rest⟩ := Option.bind_eq_some_iff.mp rest
  obtain ⟨circular, circularRead, rest⟩ := Option.bind_eq_some_iff.mp rest
  obtain ⟨cuts, cutsRead, same⟩ := Option.bind_eq_some_iff.mp rest
  cases same
  have cutsOrdered : Entries.Sorted cuts ∧ ∀ e ∈ cuts, RefSet.Sorted e.2 := by
    rcases Fields.withDefault?_eq_some cutsRead with rfl | ⟨_, written⟩
    · exact ⟨List.Pairwise.nil, fun e member => absurd member List.not_mem_nil⟩
    · exact sorted_of_subtreesOf? written
  refine ⟨?_, cutsOrdered.1, cutsOrdered.2⟩
  rcases Fields.withDefault?_eq_some circularRead with rfl | ⟨_, written⟩
  · exact List.Pairwise.nil
  · exact sorted_of_refsOf? written

theorem ordered_load (s : Session) : (load s).Ordered := by
  unfold load
  cases read : (s.get? sessionKey).bind ofJson? with
  | none => exact ordered_empty
  | some c =>
    obtain ⟨j, _, found⟩ := Option.bind_eq_some_iff.mp read
    exact ordered_of_ofJson? found

/-- A clipboard that was loaded from a session, whatever this holds, and then changed. -/
def resumed (before : Session) (steps : List ClipboardStep) : Clipboard :=
  steps.foldl step (load before)

theorem ordered_resumed (before : Session) (steps : List ClipboardStep) :
    (resumed before steps).Ordered := by
  unfold resumed
  exact List.foldlRecOn steps _ (ordered_load before) fun c ordered s _ => ordered.step s

theorem load_save {c : Clipboard} (ordered : c.Ordered) (s : Session) :
    (∀ ref ∈ c.refs, ref.Readable) ∧ load (c.save s) = c ∨
      ¬ (∀ ref ∈ c.refs, ref.Readable) ∧ load (c.save s) = {} := by
  have stored : (c.save s).get? sessionKey = some c.toJson := Entries.find?_insert_self _ _ _
  unfold load
  rw [stored]
  exact (restores_toJson ordered).getD_eq {}

end Clipboard

/-- A clipboard that is saved and loaded again is the same, or else it is empty; it is the same if
and only if every address on it is readable. -/
theorem saved_clipboard_same_or_empty (before session : Session) (steps : List ClipboardStep) :
    let c := Clipboard.resumed before steps
    (Clipboard.load (c.save session) = c ∨ Clipboard.load (c.save session) = {}) ∧
      (Clipboard.load (c.save session) = c ↔
        ∀ ref ∈ c.refs, ref.id.Valid ∧ ref.provider ≠ "" ∧ RecordRef.Unmarked ref.provider.toList) := by
  intro c
  rcases Clipboard.load_save (Clipboard.ordered_resumed before steps) session with
    ⟨readable, same⟩ | ⟨unreadable, empty⟩
  · exact ⟨Or.inl same, iff_of_true same readable⟩
  · refine ⟨Or.inr empty, fun same => ?_, fun readable => absurd readable unreadable⟩
    -- Nothing on an empty clipboard is unreadable.
    have nothing : c = {} := same.symm.trans empty
    rw [nothing]
    exact fun ref member => absurd member List.not_mem_nil

/-- One name that ends in a colon is enough to lose all entries. -/
example : Clipboard.load ((Clipboard.run [.push (.copy ⟨"page", .int 1⟩),
    .push (.create "page" (some ⟨"book:", .int 1⟩))]).save {}) = {} := by decide +kernel

end RecordEditing
