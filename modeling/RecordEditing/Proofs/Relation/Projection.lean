import RecordEditing.Proofs.Relation.Inverse

/-!
What a filter reads. A rule compares no other properties than those it lists, and the rules that a
condition becomes for a parent list exactly the properties that the condition needs. So a provider
may leave out all other properties of its records.
-/
namespace RecordEditing

/-- For each of the properties both records have the same value, or both have none. -/
def Record.AgreeOn (names : List String) (r s : Record) : Prop :=
  ∀ p ∈ names, r.get? p = s.get? p

variable {r s : Record}

theorem Record.agreeOn_append {names others : List String} :
    AgreeOn (names ++ others) r s ↔ AgreeOn names r s ∧ AgreeOn others r s :=
  List.forall_mem_append

theorem Record.agreeOn_firstSeen {names : List String} :
    AgreeOn (firstSeen names) r s ↔ AgreeOn names r s := by
  simp only [AgreeOn, mem_firstSeen]

namespace FilterRule

mutual

theorem holds_congr (rule : FilterRule) (agree : Record.AgreeOn rule.reads r s) :
    rule.holds r = rule.holds s := by
  cases rule with
  | all rules => exact (hold_congr rules agree).1
  | any rules => exact (hold_congr rules agree).2
  | equals p v => simp only [holds, agree p (List.mem_singleton.mpr rfl)]
  | greater p v => simp only [holds, agree p (List.mem_singleton.mpr rfl)]
  | less p v => simp only [holds, agree p (List.mem_singleton.mpr rfl)]
  | oneOf p vs => simp only [holds, agree p (List.mem_singleton.mpr rfl)]
  | like p pattern => simp only [holds, agree p (List.mem_singleton.mpr rfl)]

theorem hold_congr (rules : List FilterRule) (agree : Record.AgreeOn (readsOf rules) r s) :
    allHold r rules = allHold s rules ∧ anyHolds r rules = anyHolds s rules := by
  cases rules with
  | nil => exact ⟨rfl, rfl⟩
  | cons rule rules =>
    obtain ⟨first, later⟩ := Record.agreeOn_append.mp agree
    obtain ⟨all, any⟩ := hold_congr rules later
    simp only [allHold, anyHolds, holds_congr rule first, all, any, and_self]

end

theorem reads_compare (op : Operator) (p : String) (v : Json) : (compare op p v).reads = [p] := by
  cases op <;> rfl

theorem mem_readsOf {p : String} {rules : List FilterRule} :
    p ∈ readsOf rules ↔ ∃ rule ∈ rules, p ∈ rule.properties := by
  induction rules with
  | nil => simp [readsOf]
  | cons rule rules ih => simp [readsOf, properties, mem_firstSeen, ih]

end FilterRule

namespace TemplateRule

mutual

theorem holdsBetween_congr (known : Record) (t : TemplateRule)
    (agree : Record.AgreeOn (reads t) r s) : holdsBetween known r t = holdsBetween known s t := by
  cases t with
  | mk operation parts children =>
    cases operation with
    | compare op =>
      simp only [holdsBetween]
      cases found : parts.leaf? with
      | none => rfl
      | some l =>
        have here : r.get? (searchedOf l) = s.get? (searchedOf l) :=
          agree _ (by simp [reads, found])
        cases l with
        | link k p => exact congrArg (op.holds · _) here
        | literal p v => exact congrArg (op.holds · v) here
    | all => exact (holdBetween_congr known children agree).1
    | any => exact (holdBetween_congr known children agree).2

theorem holdBetween_congr (known : Record) (ts : List TemplateRule)
    (agree : Record.AgreeOn (readsOf ts) r s) :
    allHoldBetween known r ts = allHoldBetween known s ts ∧
      anyHoldsBetween known r ts = anyHoldsBetween known s ts := by
  cases ts with
  | nil => exact ⟨rfl, rfl⟩
  | cons t ts =>
    obtain ⟨first, later⟩ := Record.agreeOn_append.mp agree
    obtain ⟨all, any⟩ := holdBetween_congr known ts later
    simp only [allHoldBetween, anyHoldsBetween, holdsBetween_congr known t first, all, any, and_self]

end

theorem reads_instantiateLeaf {known : Option Record} {op : Operator} {l : Leaf} {rule : FilterRule}
    (built : instantiateLeaf known op l = .ok rule) : rule.reads = [searchedOf l] := by
  cases l with
  | link k p =>
    cases known with
    | none => cases built
    | some r =>
      cases built
      exact FilterRule.reads_compare op p _
  | literal p v =>
    cases built
    exact FilterRule.reads_compare op p v

mutual

theorem reads_instantiate {known : Option Record} (t : TemplateRule) {rule : FilterRule}
    (built : instantiate known t = .ok rule) : rule.reads = reads t := by
  cases t with
  | mk operation parts children =>
    cases operation with
    | compare op =>
      simp only [instantiate] at built
      cases found : parts.leaf? with
      | none => simp [found] at built
      | some l =>
        simp only [found] at built
        rw [reads_instantiateLeaf built, reads, found]
        rfl
    | all =>
      simp only [instantiate] at built
      split at built
      · cases built
      · obtain ⟨rules, items, rfl⟩ := map_eq_ok built
        exact readsOf_instantiateItems children items
    | any =>
      simp only [instantiate] at built
      split at built
      · cases built
      · obtain ⟨rules, items, rfl⟩ := map_eq_ok built
        exact readsOf_instantiateItems children items

theorem readsOf_instantiateItems {known : Option Record} (ts : List TemplateRule)
    {rules : List FilterRule} (built : instantiateItems known ts = .ok rules) :
    FilterRule.readsOf rules = readsOf ts := by
  cases ts with
  | nil =>
    cases built
    rfl
  | cons t ts =>
    obtain ⟨rule, rest, first, later, rfl⟩ := instantiateItems_cons built
    rw [FilterRule.readsOf, readsOf, reads_instantiate t first, readsOf_instantiateItems ts later]

end

end TemplateRule

namespace ParentChild

variable {c : ParentChild} {parent : Record}

theorem relates_congr (same : r.provider = s.provider)
    (agree : Record.AgreeOn c.neededProperties r s) : c.relates parent r = c.relates parent s := by
  have read := Record.agreeOn_firstSeen.mp agree
  unfold relates
  rw [same, (TemplateRule.holdBetween_congr parent c.filter read).1]

theorem mem_neededProperties {filter : List FilterRule} (built : c.childFilter parent = .ok filter)
    {p : String} : p ∈ c.neededProperties ↔ ∃ rule ∈ filter, p ∈ rule.properties := by
  unfold neededProperties
  rw [mem_firstSeen, ← TemplateRule.readsOf_instantiateItems c.filter built,
    FilterRule.mem_readsOf]

end ParentChild

/-- Records that agree on the properties a rule lists satisfy it alike. Children of one provider
that agree on the properties a condition needs have the same parents by it, and these properties are
those that the filter for the children of a parent lists. -/
theorem listed_properties_suffice :
    (∀ (rule : FilterRule) (r s : Record), r.AgreeOn rule.properties s →
      rule.holds r = rule.holds s) ∧
    ∀ (c : ParentChild) (parent : Record),
      (∀ child other : Record, child.provider = other.provider →
        child.AgreeOn c.neededProperties other →
        c.relates parent child = c.relates parent other) ∧
      ∀ filter, c.childFilter parent = .ok filter →
        ∀ p, (∃ rule ∈ filter, p ∈ rule.properties) ↔ p ∈ c.neededProperties := by
  constructor
  · intro rule r s agree
    exact rule.holds_congr (Record.agreeOn_firstSeen.mp agree)
  · intro c parent
    constructor
    · intro child other same agree
      exact ParentChild.relates_congr same agree
    · intro filter built p
      exact (ParentChild.mem_neededProperties built).symm

def markedNotes : ParentChild where
  source := "chapter"
  destination := "note"
  filter := [.link .equals Record.idProperty "pid",
    .mk .any {} [.mk (.compare .equals) { property := some "shared", value := some (.bool true) } [],
      .mk (.compare .like) { known := some "title", value := some (.str "app%") } []]]

def firstChapter : Record := ⟨"chapter", [("id", .int 1), ("title", .str "Signs")]⟩

def wholeNote : Record :=
  ⟨"note", [("id", .int 7), ("pid", .int 1), ("text", .str "a, b"), ("title", .str "Appendix")]⟩

def fetchedNote : Record := ⟨"note", [("pid", .int 1), ("title", .str "Appendix")]⟩

theorem listed_properties_suffice_note :
    fetchedNote.provider = wholeNote.provider ∧
      fetchedNote.AgreeOn markedNotes.neededProperties wholeNote ∧
      markedNotes.relates firstChapter fetchedNote = true ∧
      markedNotes.relates firstChapter wholeNote = true ∧
      ∃ filter, markedNotes.childFilter firstChapter = .ok filter ∧
        (∀ p, (∃ rule ∈ filter, p ∈ rule.properties) ↔ p ∈ markedNotes.neededProperties) ∧
        fetchedNote.AgreeOn (FilterRule.all filter).properties wholeNote ∧
        (FilterRule.all filter).holds fetchedNote = (FilterRule.all filter).holds wholeNote := by
  obtain ⟨alike, related⟩ := listed_properties_suffice
  obtain ⟨congr, listed⟩ := related markedNotes firstChapter
  have agree : fetchedNote.AgreeOn ["pid", "shared", "title"] wholeNote := by
    simp only [Record.AgreeOn, List.forall_mem_cons]
    exact ⟨rfl, rfl, rfl, nofun⟩
  have fetched : markedNotes.relates firstChapter fetchedNote = true := by decide +kernel
  exact ⟨rfl, agree, fetched, (congr fetchedNote wholeNote rfl agree).symm.trans fetched, _, rfl,
    listed _ rfl, agree, alike _ fetchedNote wholeNote agree⟩

end RecordEditing
