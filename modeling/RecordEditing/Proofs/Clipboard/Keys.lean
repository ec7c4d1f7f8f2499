import RecordEditing.Proofs.Clipboard.Runs
import RecordEditing.Proofs.History
import RecordEditing.Proofs.Record.ReadBack

/-!
Keys of clipboard items. A key joins its parts by marks as they are, so a colon beside a mark can be
the last of the name before it or the first of the name after it. But for this the key tells items
apart, and an item stays on the clipboard until it is removed.
-/
namespace RecordEditing

/-- Where a name without the mark follows a mark, the mark can only be shifted by one colon. -/
theorem shifted_mark {name other m : List Char} (unmarked : RecordRef.Unmarked name)
    (same : ':' :: ':' :: name = m ++ ':' :: ':' :: other) :
    m = [] ∧ name = other ∨ m = [':'] ∧ name = ':' :: other := by
  rcases m with _ | ⟨a, _ | ⟨b, m⟩⟩
  · exact Or.inl ⟨rfl, by simpa using same⟩
  · obtain ⟨rfl, rest⟩ := List.cons_eq_cons.mp same
    exact Or.inr ⟨rfl, (List.cons_eq_cons.mp rest).2⟩
  · have inside := (List.cons_eq_cons.mp (List.cons_eq_cons.mp same).2).2
    exact absurd ⟨m, other, by simpa using inside.symm⟩ unmarked.1

theorem joined_eq_iff {p q a b : List Char} (first : RecordRef.Unmarked a)
    (second : RecordRef.Unmarked b) : p ++ ':' :: ':' :: a = q ++ ':' :: ':' :: b ↔
      p = q ∧ a = b ∨ q = p ++ [':'] ∧ a = ':' :: b ∨ p = q ++ [':'] ∧ b = ':' :: a := by
  constructor
  · intro same
    rcases List.append_eq_append_iff.mp same with ⟨m, rfl, later⟩ | ⟨m, rfl, later⟩
    · rcases shifted_mark first later with ⟨rfl, names⟩ | ⟨rfl, names⟩
      · exact Or.inl ⟨(List.append_nil p).symm, names⟩
      · exact Or.inr (Or.inl ⟨rfl, names⟩)
    · rcases shifted_mark second later with ⟨rfl, names⟩ | ⟨rfl, names⟩
      · exact Or.inl ⟨List.append_nil q, names.symm⟩
      · exact Or.inr (Or.inr ⟨rfl, names⟩)
  · rintro (⟨rfl, rfl⟩ | ⟨rfl, rfl⟩ | ⟨rfl, rfl⟩) <;> simp

namespace RecordRef

theorem chars_snoc (ref : RecordRef) : ∃ front c, ref.chars = front ++ [c] ∧ c ≠ ':' := by
  obtain ⟨provider, id⟩ := ref
  cases id with
  | int i =>
    obtain ⟨front, c, split⟩ :=
      (List.eq_nil_or_concat (Number.intText i)).resolve_left (Number.intText_ne_nil i)
    refine ⟨provider.toList ++ ':' :: ':' :: front, c, by simp [chars, idChars, split], ?_⟩
    rintro rfl
    have colon : ':' ∈ Number.intText i := by simp [split]
    exact Number.not_mem_intText (by decide) (by decide) i colon
  | text s =>
    refine ⟨provider.toList ++ ':' :: ':' :: '"' :: s.toList.flatMap Json.escaped, '"', ?_, by decide⟩
    simp [chars, idChars, Json.literal]

end RecordRef

namespace ClipboardItem

def subject : ClipboardItem → List Char
  | .create provider parent =>
    provider.toList ++ ':' :: ':' :: (parent.map RecordRef.chars).getD []
  | .cut ref => ref.chars
  | .copy ref => ref.chars
  | .deepCopy ref => ref.chars

theorem toList_key (item : ClipboardItem) :
    item.key.toList = item.action.word.toList ++ ':' :: ':' :: item.subject := by
  cases item with
  | create provider parent =>
    cases parent <;> simp [key, action, ClipboardAction.word, subject, RecordRef.text]
  | _ => simp [key, action, ClipboardAction.word, subject, RecordRef.text]

theorem word_injective {a b : ClipboardAction} (same : a.word = b.word) : a = b := by
  have back : ∀ action : ClipboardAction, ClipboardAction.ofWord? action.word = some action := by
    intro action
    cases action <;> rfl
  have read := congrArg ClipboardAction.ofWord? same
  rw [back, back] at read
  exact Option.some.inj read

theorem key_eq_iff_subject {a b : ClipboardItem} :
    a.key = b.key ↔ a.action = b.action ∧ a.subject = b.subject := by
  have unmarked : ∀ action : ClipboardAction, RecordRef.Unmarked action.word.toList := by
    intro action
    cases action <;> decide +kernel
  constructor
  · intro same
    have chars := congrArg (fun k => RecordRef.splitMark k.toList) same
    simp only [toList_key, RecordRef.splitMark_of_unmarked (unmarked _)] at chars
    obtain ⟨words, subjects⟩ := Prod.mk.inj (Option.some.inj chars)
    exact ⟨word_injective (String.toList_injective words), subjects⟩
  · rintro ⟨actions, subjects⟩
    apply String.toList_injective
    rw [toList_key, toList_key, actions, subjects]

/-- All addresses that the item mentions were read from texts. -/
def Addressed (item : ClipboardItem) : Prop :=
  ∀ ref ∈ item.refs, ∃ text, RecordRef.ofText text = .ok ref

/-- The same creation but for one colon, which ends the name of the provider or begins the name in
the address of the parent. -/
inductive Confusable : ClipboardItem → ClipboardItem → Prop
  | left (provider name : String) (id : RecordId) :
      Confusable (.create (provider ++ ":") (some ⟨name, id⟩))
        (.create provider (some ⟨":" ++ name, id⟩))
  | right (provider name : String) (id : RecordId) :
      Confusable (.create provider (some ⟨":" ++ name, id⟩))
        (.create (provider ++ ":") (some ⟨name, id⟩))

theorem key_eq_of_confusable {a b : ClipboardItem} (confusable : Confusable a b) :
    a.key = b.key := by
  apply key_eq_iff_subject.mpr
  cases confusable <;> simp [action, subject, RecordRef.chars]

theorem ne_of_confusable {a b : ClipboardItem} (confusable : Confusable a b) : a ≠ b := by
  have longer : ∀ provider : String, provider ++ ":" ≠ provider := by
    intro provider same
    have lengths := congrArg String.length same
    simp at lengths
  cases confusable with
  | left provider name id => exact fun same => longer provider (create.inj same).1
  | right provider name id => exact fun same => longer provider (create.inj same).1.symm

theorem subject_ne_of_parent (p q : String) (ref : RecordRef) :
    subject (.create p none) ≠ subject (.create q (some ref)) := by
  intro same
  obtain ⟨front, c, chars, ne⟩ := ref.chars_snoc
  have ends : (p.toList ++ [':']) ++ [':'] = (q.toList ++ ':' :: ':' :: front) ++ [c] := by
    simpa [subject, chars] using same
  exact ne (List.singleton_inj.mp (List.append_inj' ends rfl).2).symm

theorem confusable_of_subject {p q : String} {r s : RecordRef}
    (first : RecordRef.Unmarked r.provider.toList) (second : RecordRef.Unmarked s.provider.toList)
    (same : subject (.create p (some r)) = subject (.create q (some s))) :
    create p (some r) = .create q (some s) ∨
      Confusable (.create p (some r)) (.create q (some s)) := by
  obtain ⟨a, i⟩ := r
  obtain ⟨b, j⟩ := s
  -- The provider, the mark and the parent's name together are a name before the last mark.
  have whole : (⟨p ++ "::" ++ a, i⟩ : RecordRef).text = (⟨q ++ "::" ++ b, j⟩ : RecordRef).text := by
    apply String.toList_injective
    simpa [subject, RecordRef.text, RecordRef.chars] using same
  obtain ⟨names, rfl⟩ := RecordRef.mk.inj (RecordRef.text_injective whole)
  have chars : p.toList ++ ':' :: ':' :: a.toList = q.toList ++ ':' :: ':' :: b.toList := by
    simpa using congrArg String.toList names
  rcases (joined_eq_iff first second).mp chars with ⟨hp, ha⟩ | ⟨hq, ha⟩ | ⟨hp, hb⟩
  · obtain rfl := String.toList_injective hp
    obtain rfl := String.toList_injective ha
    exact Or.inl rfl
  · obtain rfl : q = p ++ ":" := String.toList_injective (by simpa using hq)
    obtain rfl : a = ":" ++ b := String.toList_injective (by simpa using ha)
    exact Or.inr (.right p b i)
  · obtain rfl : p = q ++ ":" := String.toList_injective (by simpa using hp)
    obtain rfl : b = ":" ++ a := String.toList_injective (by simpa using hb)
    exact Or.inr (.left q a i)

theorem unmarked_of_addressed {p : String} {ref : RecordRef}
    (addressed : Addressed (.create p (some ref))) : RecordRef.Unmarked ref.provider.toList := by
  obtain ⟨text, read⟩ := addressed ref (by simp [refs, ref?, parent?])
  exact (RecordRef.unmarked_of_ofText read).2

theorem create_of_subject {p q : String} {r s : Option RecordRef}
    (first : Addressed (.create p r)) (second : Addressed (.create q s))
    (same : subject (.create p r) = subject (.create q s)) :
    create p r = .create q s ∨ Confusable (.create p r) (.create q s) := by
  cases r with
  | none =>
    cases s with
    | none =>
      have providers : p.toList = q.toList := List.append_cancel_right same
      exact Or.inl (congrArg (create · none) (String.toList_injective providers))
    | some s => exact absurd same (subject_ne_of_parent p q s)
  | some r =>
    cases s with
    | none => exact absurd same.symm (subject_ne_of_parent q p r)
    | some s =>
      exact confusable_of_subject (unmarked_of_addressed first) (unmarked_of_addressed second) same

theorem key_eq_iff {a b : ClipboardItem} (first : a.Addressed) (second : b.Addressed) :
    a.key = b.key ↔ a = b ∨ a.Confusable b := by
  constructor
  · intro same
    obtain ⟨actions, subjects⟩ := key_eq_iff_subject.mp same
    have apart : ∀ r s : RecordRef, r.chars = s.chars → r = s := fun r s chars =>
      RecordRef.text_injective (congrArg String.ofList chars)
    cases a with
    | create p parent =>
      cases b with
      | create q other => exact create_of_subject first second subjects
      | _ => cases actions
    | cut r =>
      cases b with
      | cut s => exact Or.inl (congrArg cut (apart r s subjects))
      | _ => cases actions
    | copy r =>
      cases b with
      | copy s => exact Or.inl (congrArg copy (apart r s subjects))
      | _ => cases actions
    | deepCopy r =>
      cases b with
      | deepCopy s => exact Or.inl (congrArg deepCopy (apart r s subjects))
      | _ => cases actions
  · rintro (rfl | confusable)
    · rfl
    · exact key_eq_of_confusable confusable

end ClipboardItem

namespace ClipboardStep

def pushed? : ClipboardStep → Option ClipboardItem
  | .push item => some item
  | .pushCut ref _ => some (.cut ref)
  | _ => none

/-- The step is to remove the item: itself, its record, its key or everything. -/
def Removes (item : ClipboardItem) : ClipboardStep → Prop
  | .remove other => item = other
  | .removeRef ref => item.ref? = some ref
  | .removeKey key => item.key = key
  | .clear => True
  | _ => False

/-- The step neither removes the item nor puts another one in its place. -/
def Spares (item : ClipboardItem) (s : ClipboardStep) : Prop :=
  ¬ s.Removes item ∧ ∀ other, s.pushed? = some other → other.key = item.key → other = item

end ClipboardStep

namespace Clipboard

theorem mem_pushItem {item other : ClipboardItem} {items : List ClipboardItem}
    (distinct : (items.map ClipboardItem.key).Nodup) :
    item ∈ pushItem other items ↔ item = other ∨ item ∈ items ∧ item.key ≠ other.key := by
  induction items with
  | nil => simp [pushItem]
  | cons i is ih =>
    obtain ⟨new, rest⟩ := List.nodup_cons.mp distinct
    by_cases same : i.key = other.key
    · have later : item ∈ is → item.key ≠ other.key := by
        intro member again
        exact new (List.mem_map.mpr ⟨item, member, again.trans same.symm⟩)
      simp only [pushItem, same, ↓reduceIte, List.mem_cons]
      grind
    · simp only [pushItem, same, ↓reduceIte, List.mem_cons, ih rest]
      grind

theorem mem_items_step {c : Clipboard} (distinct : (c.items.map ClipboardItem.key).Nodup)
    {s : ClipboardStep} {item : ClipboardItem} :
    item ∈ (c.step s).items ↔ s.pushed? = some item ∨ item ∈ c.items ∧ s.Spares item := by
  cases s with
  | push other =>
    change item ∈ pushItem other c.items ↔ _
    rw [mem_pushItem distinct]
    simp only [ClipboardStep.pushed?, ClipboardStep.Spares, ClipboardStep.Removes]
    grind
  | pushCut ref subtree =>
    change item ∈ pushItem (.cut ref) c.items ↔ _
    rw [mem_pushItem distinct]
    simp only [ClipboardStep.pushed?, ClipboardStep.Spares, ClipboardStep.Removes]
    grind
  | remove other =>
    change item ∈ c.items.filter _ ↔ _
    simp [ClipboardStep.pushed?, ClipboardStep.Spares, ClipboardStep.Removes]
  | removeRef ref =>
    change item ∈ c.items.filter _ ↔ _
    simp [ClipboardStep.pushed?, ClipboardStep.Spares, ClipboardStep.Removes]
  | removeKey key =>
    change item ∈ (c.removeKey key).1.items ↔ _
    rw [items_removeKey, mem_eraseP_key distinct]
    simp [ClipboardStep.pushed?, ClipboardStep.Spares, ClipboardStep.Removes]
  | setCircular refs =>
    change item ∈ c.items ↔ _
    simp [ClipboardStep.pushed?, ClipboardStep.Spares, ClipboardStep.Removes]
  | clear =>
    change item ∈ [] ↔ _
    simp [ClipboardStep.pushed?, ClipboardStep.Spares, ClipboardStep.Removes]

theorem mem_items_run (steps : List ClipboardStep) (item : ClipboardItem) :
    item ∈ (run steps).items ↔
      Since (fun s => s.pushed? = some item) (fun s => s.Spares item) steps := by
  induction steps using List.reverseRecOn with
  | nil => exact iff_of_false List.not_mem_nil not_since_nil
  | append_singleton steps s ih =>
    rw [run_snoc, mem_items_step (tracks_run steps).keys, since_snoc, ih]

end Clipboard

open Clipboard in
/-- No item is twice on the clipboard, and an item that was pushed stays until it is removed or a
confusable one is pushed. Of items whose addresses were read only confusable ones share a key. -/
theorem item_stays_unless_confused {steps : List ClipboardStep}
    (read : ∀ s ∈ steps, ∀ item, s.pushed? = some item → item.Addressed) :
    (run steps).items.Nodup ∧
      (∀ item, item ∈ (run steps).items ↔ Since (fun s => s.pushed? = some item)
        (fun s => ¬ s.Removes item ∧ ∀ other, s.pushed? = some other → ¬ other.Confusable item)
        steps) ∧
      ∀ a b : ClipboardItem, a.Addressed → b.Addressed → (a.key = b.key ↔ a = b ∨ a.Confusable b) := by
  have distinct : (run steps).items.Nodup := by
    refine List.Pairwise.of_map ClipboardItem.key ?_ (tracks_run steps).keys
    exact fun a b apart same => apart (congrArg ClipboardItem.key same)
  refine ⟨distinct, ?_, fun a b => ClipboardItem.key_eq_iff⟩
  intro item
  rw [mem_items_run]
  by_cases pushed : ∃ s ∈ steps, s.pushed? = some item
  · obtain ⟨s, member, here⟩ := pushed
    apply since_congr
    intro t among
    apply and_congr_right'
    refine forall₂_congr fun other there => ?_
    rw [ClipboardItem.key_eq_iff (read t among other there) (read s member item here)]
    constructor
    · intro only confusable
      exact ClipboardItem.ne_of_confusable confusable (only (Or.inr confusable))
    · rintro apart (same | confusable)
      · exact same
      · exact absurd confusable apart
  · exact iff_of_false (fun since => pushed since.exists) fun since => pushed since.exists

def pageBelow : ClipboardItem := .create "page" (some ⟨":book", .int 1⟩)

def pageColonBelow : ClipboardItem := .create "page:" (some ⟨"book", .int 1⟩)

theorem addressed_pageBelow : pageBelow.Addressed :=
  List.forall_mem_singleton.mpr ⟨":book::1", rfl⟩

theorem addressed_pageColonBelow : pageColonBelow.Addressed :=
  List.forall_mem_singleton.mpr ⟨"book::1", rfl⟩

/-- A cut between two creations that are confusable, and the removal of a key that is not there. -/
def pageSteps : List ClipboardStep :=
  [.push pageBelow, .pushCut ⟨"page", .int 1⟩ [⟨"page", .int 1⟩], .push pageColonBelow,
    .removeKey "copy::page::1"]

theorem item_stays_page :
    (∀ s ∈ pageSteps, ∀ item, s.pushed? = some item → item.Addressed) ∧
      (Clipboard.run pageSteps).items.Nodup ∧
      ClipboardItem.cut ⟨"page", .int 1⟩ ∈ (Clipboard.run pageSteps).items := by
  have read : ∀ s ∈ pageSteps, ∀ item, s.pushed? = some item → item.Addressed := by
    simp only [pageSteps, List.forall_mem_cons, ClipboardStep.pushed?, Option.some.injEq,
      forall_eq', reduceCtorEq, false_implies, implies_true, and_true, List.not_mem_nil]
    exact ⟨addressed_pageBelow, List.forall_mem_singleton.mpr ⟨"page::1", rfl⟩,
      addressed_pageColonBelow⟩
  obtain ⟨distinct, stays, _⟩ := item_stays_unless_confused read
  refine ⟨read, distinct, (stays _).mpr ⟨[.push pageBelow], _, _, rfl, rfl, ?_⟩⟩
  simp only [List.forall_mem_cons, ClipboardStep.Removes, ClipboardStep.pushed?, Option.some.injEq,
    forall_eq', reduceCtorEq, false_implies, implies_true, and_true, List.not_mem_nil]
  refine ⟨⟨id, fun confusable => ?_⟩, by decide +kernel⟩
  exact absurd (ClipboardItem.key_eq_of_confusable confusable) (by decide +kernel)

/-- The second creation takes the place of the first one, and to remove it by its key removes the
first one where only that is there. -/
theorem creations_confused : pageBelow.Addressed ∧ pageColonBelow.Addressed ∧
    pageBelow ≠ pageColonBelow ∧ pageBelow.key = pageColonBelow.key ∧
    (Clipboard.run [.push pageBelow, .push pageColonBelow]).items = [pageColonBelow] ∧
    (Clipboard.run [.push pageBelow, .removeKey pageColonBelow.key]).items = [] := by
  refine ⟨addressed_pageBelow, addressed_pageColonBelow, ?_, ?_, ?_, ?_⟩ <;> decide +kernel

end RecordEditing
