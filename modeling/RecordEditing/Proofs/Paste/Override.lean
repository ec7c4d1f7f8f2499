import RecordEditing.Proofs.Paste.Failure

/-!
Requests that name a target as well as a parent. The record is written to the target first and below
the parent last, with the setters of two conditions. What the setters of the parent leave out stays
as the target left it, so the parent overrides the target only as far as its setters reach.
-/
namespace RecordEditing
namespace Container

variable {c : Container} {store : Store} {clipboard : Clipboard} {q : PasteRequest}
  {parent r other : Record} {property : String}

def settersTo (c : Container) (r : Record) : Destination → List Setter
  | .unchanged => []
  | .root => c.relations.rootSetters c.basic.mode
  | .below parent => c.relations.settersBetween c.basic.mode parent.provider r.provider

theorem get?_placeBelow (valid : c.relations.validate = .ok ()) {state : PasteState}
    (accepted : (c.placeBelow parent r).result = .ok state) (property : String) :
    (c.placeBelow parent r).record.get? property =
      ((Setter.last? (c.settersTo r (.below parent)) property).map (·.ofParent parent)).or
        (r.get? property) :=
  (Relations.allOrNothing_setParent valid c.basic.mode parent r).written
    (reached_eq_ok accepted).1 property

theorem get?_place_of_ne (valid : c.relations.validate = .ok ()) {destination : Destination}
    {placed : PasteState} (accepted : (c.place r destination).result = .ok placed)
    (absent : Setter.last? (c.settersTo r destination) property = none) :
    (c.place r destination).record.get? property = r.get? property := by
  cases destination with
  | unchanged => rfl
  | root =>
    have written := (Relations.allOrNothing_setRoot valid c.basic.mode r).written
      (reached_eq_ok accepted).1 property
    change Setter.last? (c.relations.rootSetters c.basic.mode) property = none at absent
    rw [absent] at written
    exact written
  | below parent =>
    have written := get?_placeBelow valid accepted property
    rw [absent] at written
    exact written

theorem requestedParent_ne_none {text : String} (named : q.parent = some text)
    (given : text ≠ "") : requestedParent store clipboard q ≠ .ok none := by
  intro unnamed
  have read := requestedParent_eq_none unnamed
  unfold PasteRequest.ref? at read
  rw [named] at read
  simp only [given, ↓reduceIte] at read
  split at read <;> cases read

theorem paste_eq_placeBelow {text : String} {state : PasteState} (named : q.parent = some text)
    (given : text ≠ "") (accepted : (c.paste store clipboard q r).result = .ok state) :
    ∃ destination placed parent, requestedParent store clipboard q = .ok (some parent) ∧
      (c.place r destination).result = .ok placed ∧
      c.paste store clipboard q r = c.placeBelow parent (c.place r destination).record ∧
      c.paste store clipboard { q with parent := none } r = c.place r destination ∧
      c.paste store clipboard { parent := q.parent } r = c.placeBelow parent r := by
  obtain ⟨destination, resolved, ⟨placed, written⟩, phase⟩ := paste_eq_ok accepted
  rcases phase with ⟨unnamed, _⟩ | ⟨parent, found, both⟩
  · exact absurd unnamed (requestedParent_ne_none named given)
  · have target : c.requested store clipboard { q with parent := none } = .ok destination :=
      resolved
    have first : c.paste store clipboard { q with parent := none } r = c.place r destination :=
      paste_eq_override target written
    have second : c.paste store clipboard { parent := q.parent } r =
        c.override store clipboard q (c.place r .unchanged) :=
      paste_eq_override (requested_of_parent q.parent) rfl
    refine ⟨destination, placed, parent, found, written, both, first, second.trans ?_⟩
    unfold override
    rw [found]
    rfl

/-- What two writes one after the other leave behind. The second one, whose setters are given, says
what the properties are that these setters name, and the first one what the others are. -/
structure Overridden (setters : List Setter) (r both first second : Record) : Prop where
  named : ∀ p, Setter.last? setters p ≠ none → both.get? p = second.get? p
  others : ∀ p, Setter.last? setters p = none →
    both.get? p = first.get? p ∧ second.get? p = r.get? p

theorem Overridden.same_iff {setters : List Setter} {both first second : Record}
    (h : Overridden setters r both first second) :
    (∀ p, both.get? p = second.get? p) ↔
      ∀ p, Setter.last? setters p = none → first.get? p = r.get? p := by
  constructor
  · intro same p absent
    obtain ⟨kept, untouched⟩ := h.others p absent
    rw [← kept, same p, untouched]
  · intro untouched p
    by_cases absent : Setter.last? setters p = none
    · obtain ⟨kept, alone⟩ := h.others p absent
      rw [kept, untouched p absent, alone]
    · exact h.named p absent

theorem overridden_of_placeBelow (valid : c.relations.validate = .ok ()) {state : PasteState}
    (kept : other.provider = r.provider)
    (accepted : (c.placeBelow parent other).result = .ok state) :
    Overridden (c.settersTo r (.below parent)) r (c.placeBelow parent other).record other
      (c.placeBelow parent r).record := by
  have again := (result_placeBelow valid kept.symm).trans accepted
  have twice := get?_placeBelow valid accepted
  have once := get?_placeBelow valid again
  have same : c.settersTo other (.below parent) = c.settersTo r (.below parent) := by
    unfold settersTo
    rw [kept]
  rw [same] at twice
  constructor
  · intro p written
    obtain ⟨s, last⟩ := Option.ne_none_iff_exists'.mp written
    rw [twice p, once p, last]
    rfl
  · intro p absent
    rw [twice p, once p, absent]
    exact ⟨rfl, rfl⟩

theorem get?_place_of_covered (valid : c.relations.validate = .ok ()) {destination : Destination}
    {placed : PasteState} (accepted : (c.place r destination).result = .ok placed)
    {setters : List Setter}
    (covered : ∀ s ∈ c.settersTo r destination, s.target ∈ setters.map Setter.target)
    (absent : Setter.last? setters property = none) :
    (c.place r destination).record.get? property = r.get? property := by
  apply get?_place_of_ne valid accepted
  rw [Setter.last?_eq_none_iff] at absent ⊢
  intro named
  obtain ⟨s, member, target⟩ := List.mem_map.mp named
  exact absent (target ▸ covered s member)

end Container

/-- A request that names a parent ends as the parent alone does. The record has the same value in
each property that the setters of the parent name; the others are left as the target leaves them. So
nothing of the target survives if and only if it changed none of these. In particular nothing does
if the setters of the parent name all that the other setters for such records do. -/
theorem named_parent_overrides_iff {config : ContainerConfig} {c : Container}
    (compiled : config.compile = .ok c) {store : Store} {clipboard : Clipboard} {q : PasteRequest}
    {r : Record} {state : PasteState} {text : String} (named : q.parent = some text)
    (given : text ≠ "") (accepted : (c.paste store clipboard q r).result = .ok state) :
    let both := (c.paste store clipboard q r).record
    let target := c.paste store clipboard { q with parent := none } r
    let alone := c.paste store clipboard { parent := q.parent } r
    (∃ placed, target.result = .ok placed) ∧ alone.result = .ok state ∧
      ∃ parent, Container.requestedParent store clipboard q = .ok (some parent) ∧
        state = .related parent.ref? ∧
        let setters := c.settersTo r (.below parent)
        Container.Overridden setters r both target.record alone.record ∧
        ((∀ p, both.get? p = alone.record.get? p) ↔
          ∀ p, Setter.last? setters p = none → target.record.get? p = r.get? p) ∧
        ((∀ destination, ∀ s ∈ c.settersTo r destination,
            s.target ∈ setters.map Setter.target) →
          ∀ p, both.get? p = alone.record.get? p) := by
  have valid := ContainerConfig.relations_of_compile compiled
  obtain ⟨destination, placed, parent, found, written, both, target, alone⟩ :=
    Container.paste_eq_placeBelow named given accepted
  rw [both] at accepted
  have kept : (c.place r destination).record.provider = r.provider :=
    Container.place_provider destination
  have overridden := Container.overridden_of_placeBelow valid kept accepted
  have ends := (Container.reached_eq_ok accepted).2
  have again := (Container.result_placeBelow valid kept.symm).trans accepted
  rw [both, target, alone]
  refine ⟨⟨placed, written⟩, again, parent, found, ends, overridden, overridden.same_iff, ?_⟩
  intro covered
  apply overridden.same_iff.mpr
  intro p absent
  exact Container.get?_place_of_covered valid written (covered destination) absent

/-- Content is below an article or below a page, with a link for either. -/
def linkedBelow (source link : String) : ParentChild where
  source
  destination := "content"
  filter := [.link .equals Record.idProperty link]
  setters := [{ target := some link, source := some Record.idProperty }]

def linkedConfig : ContainerConfig where
  name := "content"
  basic := { mode := .hierarchical, dataProvider := "content" }
  relations := {
    root := (Relations.tree "page" "pid").root
    children := [linkedBelow "article" "aid", linkedBelow "page" "pid"] }

def linkedStore : Store := ⟨[.nodes "article" "aid" [(1, 0)], .nodes "page" "pid" [(2, 0)]]⟩

def twoParents : PasteRequest := { into := some "article::1", parent := some "page::2" }

def unlinked : Record := (Record.empty "content").set Record.idProperty (.int 10)

theorem compile_linkedConfig : linkedConfig.compile = .ok linkedConfig.unchecked :=
  ContainerConfig.compile_of_validate rfl (by rfl)

theorem paste_twoParents :
    (linkedConfig.unchecked.paste linkedStore {} twoParents unlinked).result =
      .ok (.related (some (pageRef 2))) := by
  have run : ((linkedConfig.unchecked.paste linkedStore {} twoParents
      unlinked).result).toOption.map id = some (.related (some (pageRef 2))) := by decide +kernel
  obtain ⟨_, accepted, rfl⟩ := eq_ok_of_toOption run
  exact accepted

/-- The link to the page is as the page alone writes it, and the one to the article is left. -/
theorem named_parent_overrides_iff_content :
    let both := linkedConfig.unchecked.paste linkedStore {} twoParents unlinked
    let target := linkedConfig.unchecked.paste linkedStore {} { twoParents with parent := none }
      unlinked
    let alone := linkedConfig.unchecked.paste linkedStore {} { parent := twoParents.parent }
      unlinked
    linkedConfig.compile = .ok linkedConfig.unchecked ∧ twoParents.parent = some "page::2" ∧
      both.result = .ok (.related (some (pageRef 2))) ∧ alone.result = both.result ∧
      (∃ parent, Container.requestedParent linkedStore {} twoParents = .ok (some parent) ∧
        Container.Overridden (linkedConfig.unchecked.settersTo unlinked (.below parent)) unlinked
          both.record target.record alone.record) ∧
      both.record.int? "pid" = some 2 ∧ both.record.int? "aid" = some 1 ∧
      alone.record.get? "aid" = none := by
  have named : twoParents.parent = some "page::2" := rfl
  obtain ⟨_, again, parent, found, _, overridden, _⟩ :=
    named_parent_overrides_iff compile_linkedConfig named (by decide) paste_twoParents
  exact ⟨compile_linkedConfig, named, paste_twoParents, again.trans paste_twoParents.symm,
    ⟨parent, found, overridden⟩, by decide +kernel, by decide +kernel, by decide +kernel⟩

/-- The content is below page 2 and in article 1 as well. -/
theorem target_survives_parent :
    ¬ ∀ (config : ContainerConfig) (c : Container) (store : Store) (clipboard : Clipboard)
      (q : PasteRequest) (r : Record) (text : String) (first second : PasteState),
      config.compile = .ok c → c.basic.mode ≠ .flat → q.parent = some text → text ≠ "" →
      (c.paste store clipboard q r).result = .ok first →
      (c.paste store clipboard { parent := q.parent } r).result = .ok second →
      first = second ∧ ∀ p, (c.paste store clipboard q r).record.get? p =
        (c.paste store clipboard { parent := q.parent } r).record.get? p := by
  intro always
  have run : ((linkedConfig.unchecked.paste linkedStore {} { parent := twoParents.parent }
      unlinked).result).toOption.map id = some (.related (some (pageRef 2))) := by decide +kernel
  obtain ⟨_, accepted, rfl⟩ := eq_ok_of_toOption run
  obtain ⟨_, same⟩ := always _ _ _ _ _ _ "page::2" _ _ compile_linkedConfig (by decide) rfl
    (by decide) paste_twoParents accepted
  have left : ((linkedConfig.unchecked.paste linkedStore {} twoParents unlinked).record.get?
      "aid").isSome = true := by decide +kernel
  have absent : (linkedConfig.unchecked.paste linkedStore {} { parent := twoParents.parent }
      unlinked).record.get? "aid" = none := by decide +kernel
  rw [same "aid", absent] at left
  cases left

end RecordEditing
