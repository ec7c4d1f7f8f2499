import Mathlib.Data.List.Induction
import RecordEditing.Clipboard.Basic
import RecordEditing.Proofs.Record.Sorted
import RecordEditing.Proofs.Record.Written

/-!
Runs of a clipboard. Whatever was done to it, an address is circular if and only if it was marked
last and the marks were not cleared since, or it lies in the subtree of a cut that is pending.
-/
namespace RecordEditing

inductive ClipboardStep where
  | push (item : ClipboardItem)
  | pushCut (ref : RecordRef) (subtree : List RecordRef)
  | remove (item : ClipboardItem)
  | removeRef (ref : RecordRef)
  | removeKey (key : String)
  | setCircular (refs : List RecordRef)
  | clear

def ClipboardItem.refs (item : ClipboardItem) : List RecordRef :=
  item.ref?.toList ++ item.parent?.toList

def ClipboardStep.removals (cut : RecordRef) : List ClipboardStep :=
  [.remove (.cut cut), .removeRef cut, .removeKey (ClipboardItem.cut cut).key]

namespace Clipboard

def step (c : Clipboard) : ClipboardStep → Clipboard
  | .push item => c.push item
  | .pushCut ref subtree => c.pushCut ref subtree
  | .remove item => (c.remove item).1
  | .removeRef ref => (c.removeRef ref).1
  | .removeKey key => (c.removeKey key).1
  | .setCircular refs => c.setCircular refs
  | .clear => c.clear

def run (steps : List ClipboardStep) : Clipboard := steps.foldl step {}

/-- The address was marked when addresses were last marked, and no clearing followed. -/
def Marked (steps : List ClipboardStep) (ref : RecordRef) : Prop :=
  ∃ before refs after, steps = before ++ .setCircular refs :: after ∧
    (∀ s ∈ after, s ≠ .clear ∧ ∀ others, s ≠ .setCircular others) ∧ ref ∈ refs

/-- The subtree was given when the record was last cut, and the cut has stayed since then. -/
def Pending (steps : List ClipboardStep) (cut : RecordRef) (subtree : List RecordRef) : Prop :=
  ∃ before after, steps = before ++ .pushCut cut subtree :: after ∧
    (∀ other, .pushCut cut other ∉ after) ∧
    ∀ part, part <+: after →
      ClipboardItem.cut cut ∈ (run (before ++ .pushCut cut subtree :: part)).items

section Histories

variable {steps : List ClipboardStep} {s : ClipboardStep}

theorem run_snoc : run (steps ++ [s]) = (run steps).step s := by
  unfold run
  rw [List.foldl_append]
  rfl

theorem split_of_snoc {x : ClipboardStep} {before after : List ClipboardStep}
    (split : steps ++ [s] = before ++ x :: after) :
    after = [] ∧ steps = before ∧ s = x ∨
      ∃ rest, after = rest ++ [s] ∧ steps = before ++ x :: rest := by
  rcases List.eq_nil_or_concat after with rfl | ⟨rest, last, rfl⟩
  · obtain ⟨first, final⟩ := List.append_inj' split rfl
    exact Or.inl ⟨rfl, first, List.singleton_inj.mp final⟩
  · have regrouped : steps ++ [s] = (before ++ x :: rest) ++ [last] := by simpa using split
    obtain ⟨first, final⟩ := List.append_inj' regrouped rfl
    obtain rfl := List.singleton_inj.mp final
    exact Or.inr ⟨rest, by simp, first⟩

theorem marked_snoc {ref : RecordRef} :
    Marked (steps ++ [s]) ref ↔ (∃ refs, s = .setCircular refs ∧ ref ∈ refs) ∨
      Marked steps ref ∧ s ≠ .clear ∧ ∀ others, s ≠ .setCircular others := by
  constructor
  · rintro ⟨before, refs, after, split, quiet, member⟩
    rcases split_of_snoc split with ⟨_, _, rfl⟩ | ⟨rest, rfl, rfl⟩
    · exact Or.inl ⟨refs, rfl, member⟩
    · rw [List.forall_mem_append, List.forall_mem_singleton] at quiet
      exact Or.inr ⟨⟨before, refs, rest, rfl, quiet.1, member⟩, quiet.2⟩
  · rintro (⟨refs, rfl, member⟩ | ⟨⟨before, refs, after, rfl, quiet, member⟩, last⟩)
    · exact ⟨steps, refs, [], rfl, by simp, member⟩
    · refine ⟨before, refs, after ++ [s], by simp, ?_, member⟩
      rw [List.forall_mem_append, List.forall_mem_singleton]
      exact ⟨quiet, last⟩

theorem pending_snoc {cut : RecordRef} {subtree : List RecordRef} :
    Pending (steps ++ [s]) cut subtree ↔ ClipboardItem.cut cut ∈ (run (steps ++ [s])).items ∧
      (s = .pushCut cut subtree ∨ Pending steps cut subtree ∧ ∀ other, s ≠ .pushCut cut other) := by
  constructor
  · rintro ⟨before, after, split, latest, stayed⟩
    have present := stayed after (List.prefix_refl after)
    rw [← split] at present
    refine ⟨present, ?_⟩
    rcases split_of_snoc split with ⟨_, _, rfl⟩ | ⟨rest, rfl, rfl⟩
    · exact Or.inl rfl
    · refine Or.inr ⟨⟨before, rest, rfl, ?_, ?_⟩, ?_⟩
      · exact fun other member => latest other (List.mem_append_left _ member)
      · exact fun part initial => stayed part (initial.trans (List.prefix_append rest [s]))
      · rintro other rfl
        exact latest other (List.mem_append_right _ (List.mem_singleton_self _))
  · rintro ⟨present, rfl | ⟨⟨before, after, rfl, latest, stayed⟩, last⟩⟩
    · refine ⟨steps, [], rfl, fun _ => List.not_mem_nil, ?_⟩
      intro part initial
      rw [List.prefix_nil.mp initial]
      exact present
    · refine ⟨before, after ++ [s], by simp, ?_, ?_⟩
      · intro other member
        rcases List.mem_append.mp member with earlier | final
        · exact latest other earlier
        · exact last other (List.mem_singleton.mp final).symm
      · intro part initial
        rcases List.prefix_concat_iff.mp initial with rfl | earlier
        · simpa using present
        · exact stayed part earlier

theorem Pending.present {cut : RecordRef} {subtree : List RecordRef}
    (pending : Pending steps cut subtree) : ClipboardItem.cut cut ∈ (run steps).items := by
  obtain ⟨before, after, rfl, _, stayed⟩ := pending
  exact stayed after (List.prefix_refl after)

end Histories

section Items

theorem eq_cut_of_key {item : ClipboardItem} {ref : RecordRef}
    (same : item.key = (ClipboardItem.cut ref).key) : item = .cut ref := by
  have chars := congrArg String.toList same
  cases item with
  | cut other =>
    have texts : other.text = ref.text := by simpa [ClipboardItem.key] using same
    rw [RecordRef.text_injective texts]
  | copy other => simp [ClipboardItem.key] at chars
  | deepCopy other => simp [ClipboardItem.key] at chars
  | create provider parent => simp [ClipboardItem.key] at chars

theorem mem_pushItem_self (item : ClipboardItem) (items : List ClipboardItem) :
    item ∈ pushItem item items := by
  induction items with
  | nil => exact List.mem_singleton_self item
  | cons i is ih =>
    simp only [pushItem]
    split
    · exact List.mem_cons_self
    · exact List.mem_cons_of_mem i ih

theorem cut_mem_pushItem {ref : RecordRef} {item : ClipboardItem} {items : List ClipboardItem}
    (member : ClipboardItem.cut ref ∈ items) : ClipboardItem.cut ref ∈ pushItem item items := by
  induction items with
  | nil => cases member
  | cons i is ih =>
    simp only [pushItem]
    rcases List.mem_cons.mp member with rfl | later
    · split
      · next same =>
        rw [eq_cut_of_key same.symm]
        exact List.mem_cons_self
      · exact List.mem_cons_self
    · split
      · exact List.mem_cons_of_mem item later
      · exact List.mem_cons_of_mem i (ih later)

theorem keys_pushItem (item : ClipboardItem) (items : List ClipboardItem) :
    (pushItem item items).map ClipboardItem.key =
      if item.key ∈ items.map ClipboardItem.key then items.map ClipboardItem.key
      else items.map ClipboardItem.key ++ [item.key] := by
  induction items with
  | nil => rfl
  | cons i is ih =>
    by_cases same : i.key = item.key
    · simp [pushItem, same]
    · simp only [pushItem, same, ↓reduceIte, List.map_cons, ih, List.mem_cons, Ne.symm same,
        false_or]
      split <;> rfl

theorem nodup_keys_pushItem {item : ClipboardItem} {items : List ClipboardItem}
    (distinct : (items.map ClipboardItem.key).Nodup) :
    ((pushItem item items).map ClipboardItem.key).Nodup := by
  rw [keys_pushItem]
  split
  · exact distinct
  · next new => exact List.nodup_append.mpr ⟨distinct, List.pairwise_singleton _ _, by
      rintro key old _ last rfl
      exact new (List.mem_singleton.mp last ▸ old)⟩

end Items

theorem mem_prune {c : Clipboard} {entry : RecordRef × List RecordRef} :
    entry ∈ c.prune.cutSubtrees ↔ entry ∈ c.cutSubtrees ∧ ClipboardItem.cut entry.1 ∈ c.items := by
  simp [prune, List.mem_filter]

theorem removeKey_cases (c : Clipboard) (key : String) :
    (∀ item ∈ c.items, item.key ≠ key) ∧ (c.removeKey key).1 = c ∨
      (c.removeKey key).1 = prune { c with items := c.items.eraseP (·.key == key) } := by
  unfold removeKey
  split
  · next missing => exact Or.inl ⟨by simpa using missing, rfl⟩
  · exact Or.inr rfl

theorem items_removeKey (c : Clipboard) (key : String) :
    (c.removeKey key).1.items = c.items.eraseP (·.key == key) := by
  rcases removeKey_cases c key with ⟨missing, same⟩ | removed
  · rw [same, List.eraseP_of_forall_not (by simpa using missing)]
  · rw [removed]
    rfl

structure Tracks (steps : List ClipboardStep) (c : Clipboard) : Prop where
  keys : (c.items.map ClipboardItem.key).Nodup
  sorted : Entries.Sorted c.cutSubtrees
  marked : ∀ ref, ref ∈ c.circular ↔ Marked steps ref
  pending : ∀ cut refs, (cut, refs) ∈ c.cutSubtrees ↔
    ∃ subtree, Pending steps cut subtree ∧ refs = RefSet.ofList subtree

variable {c : Clipboard} {s : ClipboardStep}

theorem mem_cutSubtrees_step (present : ∀ e ∈ c.cutSubtrees, ClipboardItem.cut e.1 ∈ c.items)
    (other : ∀ cut subtree, s ≠ .pushCut cut subtree) {entry : RecordRef × List RecordRef} :
    entry ∈ (c.step s).cutSubtrees ↔
      entry ∈ c.cutSubtrees ∧ ClipboardItem.cut entry.1 ∈ (c.step s).items := by
  cases s with
  | push item => exact ⟨fun member => ⟨member, cut_mem_pushItem (present entry member)⟩, And.left⟩
  | pushCut ref subtree => exact absurd rfl (other ref subtree)
  | remove item => exact mem_prune
  | removeRef ref => exact mem_prune
  | removeKey key =>
    change entry ∈ (c.removeKey key).1.cutSubtrees ↔
      entry ∈ c.cutSubtrees ∧ ClipboardItem.cut entry.1 ∈ (c.removeKey key).1.items
    rcases removeKey_cases c key with ⟨_, same⟩ | removed
    · rw [same]
      exact ⟨fun member => ⟨member, present entry member⟩, And.left⟩
    · rw [removed]
      exact mem_prune
  | setCircular refs => exact ⟨fun member => ⟨member, present entry member⟩, And.left⟩
  | clear =>
    exact ⟨fun member => absurd member List.not_mem_nil, fun kept => absurd kept.2 List.not_mem_nil⟩

theorem mem_cutSubtrees_of_step {entry : RecordRef × List RecordRef}
    (member : entry ∈ (c.step s).cutSubtrees) : entry ∈ c.cutSubtrees ∨
      ∃ ref subtree, s = .pushCut ref subtree ∧ entry = (ref, RefSet.ofList subtree) := by
  cases s with
  | push item => exact Or.inl member
  | pushCut ref subtree =>
    rcases Entries.mem_of_mem_insert member with new | old
    · exact Or.inr ⟨ref, subtree, rfl, new⟩
    · exact Or.inl old
  | remove item => exact Or.inl (mem_prune.mp member).1
  | removeRef ref => exact Or.inl (mem_prune.mp member).1
  | removeKey key =>
    change entry ∈ (c.removeKey key).1.cutSubtrees at member
    rcases removeKey_cases c key with ⟨_, same⟩ | removed
    · rw [same] at member
      exact Or.inl member
    · rw [removed] at member
      exact Or.inl (mem_prune.mp member).1
  | setCircular refs => exact Or.inl member
  | clear => exact absurd member List.not_mem_nil

theorem nodup_keys_step (distinct : (c.items.map ClipboardItem.key).Nodup) :
    ((c.step s).items.map ClipboardItem.key).Nodup := by
  cases s with
  | push item => exact nodup_keys_pushItem distinct
  | pushCut ref subtree => exact nodup_keys_pushItem distinct
  | remove item => exact distinct.sublist (List.filter_sublist.map _)
  | removeRef ref => exact distinct.sublist (List.filter_sublist.map _)
  | removeKey key =>
    change ((c.removeKey key).1.items.map ClipboardItem.key).Nodup
    rw [items_removeKey]
    exact distinct.sublist (List.eraseP_sublist.map _)
  | setCircular refs => exact distinct
  | clear => exact List.nodup_nil

theorem sorted_step (sorted : Entries.Sorted c.cutSubtrees) :
    Entries.Sorted (c.step s).cutSubtrees := by
  cases s with
  | push item => exact sorted
  | pushCut ref subtree => exact Entries.sorted_insert sorted
  | remove item => exact sorted.filter _
  | removeRef ref => exact sorted.filter _
  | removeKey key =>
    change Entries.Sorted (c.removeKey key).1.cutSubtrees
    rcases removeKey_cases c key with ⟨_, same⟩ | removed
    · rw [same]
      exact sorted
    · rw [removed]
      exact sorted.filter _
  | setCircular refs => exact sorted
  | clear => exact List.Pairwise.nil

theorem circular_step (unset : ∀ refs, s ≠ .setCircular refs) (uncleared : s ≠ .clear) :
    (c.step s).circular = c.circular := by
  cases s with
  | setCircular refs => exact absurd rfl (unset refs)
  | clear => exact absurd rfl uncleared
  | removeKey key =>
    change (c.removeKey key).1.circular = c.circular
    rcases removeKey_cases c key with ⟨_, same⟩ | removed
    · rw [same]
    · rw [removed]
      rfl
  | _ => rfl

theorem mem_circular_step {ref : RecordRef} :
    ref ∈ (c.step s).circular ↔ (∃ refs, s = .setCircular refs ∧ ref ∈ refs) ∨
      ref ∈ c.circular ∧ s ≠ .clear ∧ ∀ others, s ≠ .setCircular others := by
  by_cases set : ∃ refs, s = .setCircular refs
  · obtain ⟨refs, rfl⟩ := set
    change ref ∈ RefSet.ofList refs ↔ _
    simp [RefSet.mem_ofList]
  · have unset : ∀ refs, s ≠ .setCircular refs := fun refs same => set ⟨refs, same⟩
    by_cases cleared : s = .clear
    · subst cleared
      change ref ∈ [] ↔ _
      simp
    · rw [circular_step unset cleared]
      simp [unset, cleared]

variable {steps : List ClipboardStep}

theorem Tracks.present (tracks : Tracks steps c) (same : c = run steps) :
    ∀ e ∈ c.cutSubtrees, ClipboardItem.cut e.1 ∈ c.items := by
  intro e member
  obtain ⟨subtree, pending, _⟩ := (tracks.pending e.1 e.2).mp member
  rw [same]
  exact pending.present

theorem Tracks.pending_pushCut (tracks : Tracks steps (run steps)) (ref : RecordRef)
    (subtree : List RecordRef) (cut : RecordRef) (refs : List RecordRef) :
    (cut, refs) ∈ (run (steps ++ [.pushCut ref subtree])).cutSubtrees ↔
      ∃ given, Pending (steps ++ [.pushCut ref subtree]) cut given ∧ refs = RefSet.ofList given := by
  have items : (run (steps ++ [.pushCut ref subtree])).items =
      pushItem (.cut ref) (run steps).items := by
    rw [run_snoc]
    rfl
  have entries : (run (steps ++ [.pushCut ref subtree])).cutSubtrees =
      Entries.insert ref (RefSet.ofList subtree) (run steps).cutSubtrees := by
    rw [run_snoc]
    rfl
  simp only [pending_snoc]
  rw [entries, items, Entries.mem_insert tracks.sorted, tracks.pending]
  constructor
  · rintro (⟨rfl, rfl⟩ | ⟨other, given, pending, rfl⟩)
    · exact ⟨subtree, ⟨mem_pushItem_self _ _, Or.inl rfl⟩, rfl⟩
    · refine ⟨given, ⟨cut_mem_pushItem pending.present, Or.inr ⟨pending, ?_⟩⟩, rfl⟩
      rintro _ ⟨⟩
      exact other rfl
  · rintro ⟨given, ⟨_, same | ⟨pending, other⟩⟩, rfl⟩
    · cases same
      exact Or.inl ⟨rfl, rfl⟩
    · refine Or.inr ⟨?_, given, pending, rfl⟩
      rintro rfl
      exact other subtree rfl

theorem Tracks.pending_other (tracks : Tracks steps (run steps))
    (other : ∀ cut subtree, s ≠ .pushCut cut subtree) (cut : RecordRef) (refs : List RecordRef) :
    (cut, refs) ∈ (run (steps ++ [s])).cutSubtrees ↔
      ∃ given, Pending (steps ++ [s]) cut given ∧ refs = RefSet.ofList given := by
  have step := @mem_cutSubtrees_step _ _ (tracks.present rfl) other (cut, refs)
  rw [← run_snoc] at step
  simp only [pending_snoc]
  rw [step, tracks.pending]
  constructor
  · rintro ⟨⟨given, pending, rfl⟩, stays⟩
    exact ⟨given, ⟨stays, Or.inr ⟨pending, other cut⟩⟩, rfl⟩
  · rintro ⟨given, ⟨stays, same | ⟨pending, _⟩⟩, rfl⟩
    · exact absurd same (other cut given)
    · exact ⟨⟨given, pending, rfl⟩, stays⟩

theorem Tracks.step (tracks : Tracks steps (run steps)) (s : ClipboardStep) :
    Tracks (steps ++ [s]) (run (steps ++ [s])) := by
  constructor
  · rw [run_snoc]
    exact nodup_keys_step tracks.keys
  · rw [run_snoc]
    exact sorted_step tracks.sorted
  · intro ref
    rw [run_snoc, mem_circular_step, marked_snoc, tracks.marked]
  · cases s with
    | pushCut ref subtree => exact tracks.pending_pushCut ref subtree
    | _ => exact tracks.pending_other fun _ _ => by rintro ⟨⟩

theorem Tracks.initial : Tracks [] (run []) := by
  constructor
  · exact List.nodup_nil
  · exact List.Pairwise.nil
  · intro ref
    refine ⟨fun member => absurd member List.not_mem_nil, ?_⟩
    rintro ⟨before, _, after, split, _⟩
    simp at split
  · intro cut refs
    refine ⟨fun member => absurd member List.not_mem_nil, ?_⟩
    rintro ⟨_, ⟨before, after, split, _⟩, _⟩
    simp at split

theorem tracks_run (steps : List ClipboardStep) : Tracks steps (run steps) := by
  induction steps using List.reverseRecOn with
  | nil => exact .initial
  | append_singleton steps s ih => exact ih.step s

theorem isCircular_iff {ref : RecordRef} :
    c.isCircular ref = true ↔ ref ∈ c.circular ∨ ∃ e ∈ c.cutSubtrees, ref ∈ e.2 := by
  simp [isCircular]

theorem mem_circularRefs {ref : RecordRef} :
    ref ∈ c.circularRefs ↔ ref ∈ c.circular ∨ ∃ e ∈ c.cutSubtrees, ref ∈ e.2 := by
  unfold circularRefs
  generalize c.circular = refs
  induction c.cutSubtrees generalizing refs with
  | nil => simp
  | cons e es ih =>
    rw [List.foldl_cons, ih, RefSet.mem_union]
    simp only [List.mem_cons, exists_eq_or_imp, or_assoc]

theorem isCircular_run (steps : List ClipboardStep) (ref : RecordRef) :
    (run steps).isCircular ref = true ↔
      Marked steps ref ∨ ∃ cut subtree, Pending steps cut subtree ∧ ref ∈ subtree := by
  have tracks := tracks_run steps
  rw [isCircular_iff, tracks.marked]
  apply or_congr_right
  constructor
  · rintro ⟨⟨cut, refs⟩, member, within⟩
    obtain ⟨subtree, pending, rfl⟩ := (tracks.pending cut refs).mp member
    exact ⟨cut, subtree, pending, RefSet.mem_ofList.mp within⟩
  · intro ⟨cut, subtree, pending, within⟩
    exact ⟨_, (tracks.pending cut _).mpr ⟨subtree, pending, rfl⟩, RefSet.mem_ofList.mpr within⟩

theorem mem_eraseP_key {items : List ClipboardItem} {key : String}
    (distinct : (items.map ClipboardItem.key).Nodup) {item : ClipboardItem} :
    item ∈ items.eraseP (·.key == key) ↔ item ∈ items ∧ item.key ≠ key := by
  induction items with
  | nil => simp
  | cons i is ih =>
    obtain ⟨new, rest⟩ := List.nodup_cons.mp distinct
    by_cases same : i.key = key
    · have later : item ∈ is → item.key ≠ key := by
        intro member again
        exact new (List.mem_map.mpr ⟨item, member, again.trans same.symm⟩)
      rw [List.eraseP_cons_of_pos (by simpa using same), List.mem_cons]
      constructor
      · exact fun member => ⟨Or.inr member, later member⟩
      · rintro ⟨rfl | member, other⟩
        · exact absurd same other
        · exact member
    · rw [List.eraseP_cons_of_neg (by simpa using same), List.mem_cons, List.mem_cons, ih rest,
        or_and_right]
      apply or_congr_left
      constructor
      · rintro rfl
        exact ⟨rfl, same⟩
      · exact And.left

theorem cut_mem_removal (distinct : (c.items.map ClipboardItem.key).Nodup) {cut : RecordRef}
    (removal : s ∈ ClipboardStep.removals cut) (other : RecordRef) :
    ClipboardItem.cut other ∈ (c.step s).items ↔
      ClipboardItem.cut other ∈ c.items ∧ other ≠ cut := by
  simp only [ClipboardStep.removals, List.mem_cons, List.not_mem_nil, or_false] at removal
  rcases removal with rfl | rfl | rfl
  · change _ ∈ c.items.filter _ ↔ _
    simp [List.mem_filter]
  · change _ ∈ c.items.filter _ ↔ _
    simp [List.mem_filter, ClipboardItem.ref?]
  · change _ ∈ (c.removeKey _).1.items ↔ _
    rw [items_removeKey, mem_eraseP_key distinct]
    apply and_congr_right'
    constructor
    · rintro apart rfl
      exact apart rfl
    · intro apart same
      exact apart (ClipboardItem.cut.inj (eq_cut_of_key same))

theorem isCircular_removal {cut : RecordRef} (removal : s ∈ ClipboardStep.removals cut)
    (steps : List ClipboardStep) (ref : RecordRef) :
    (run (steps ++ [s])).isCircular ref = true ↔ Marked steps ref ∨
      ∃ other subtree, other ≠ cut ∧ Pending steps other subtree ∧ ref ∈ subtree := by
  have plain : (∀ refs, s ≠ .setCircular refs) ∧ s ≠ .clear ∧
      ∀ ref subtree, s ≠ .pushCut ref subtree := by
    simp only [ClipboardStep.removals, List.mem_cons, List.not_mem_nil, or_false] at removal
    rcases removal with rfl | rfl | rfl <;> simp
  have marks : Marked (steps ++ [s]) ref ↔ Marked steps ref := by
    rw [marked_snoc]
    simp [plain]
  have cuts : ∀ other subtree, Pending (steps ++ [s]) other subtree ↔
      other ≠ cut ∧ Pending steps other subtree := by
    intro other subtree
    rw [pending_snoc, run_snoc, cut_mem_removal (tracks_run steps).keys removal]
    constructor
    · rintro ⟨⟨_, apart⟩, same | ⟨pending, _⟩⟩
      · exact absurd same (plain.2.2 other subtree)
      · exact ⟨apart, pending⟩
    · rintro ⟨apart, pending⟩
      exact ⟨⟨pending.present, apart⟩, Or.inr ⟨pending, plain.2.2 other⟩⟩
  rw [isCircular_run, marks]
  simp only [cuts, and_assoc]

end Clipboard

open Clipboard in
/-- After any run the circular addresses are those marked last, unless that was cleared, and the
subtrees that pending cuts were given last. To remove a cut in any way releases its subtree only. -/
theorem circular_iff_marked_or_pending (steps : List ClipboardStep) (ref : RecordRef) :
    ((run steps).isCircular ref = true ↔ ref ∈ (run steps).circularRefs) ∧
      ((run steps).isCircular ref = true ↔
        Marked steps ref ∨ ∃ cut subtree, Pending steps cut subtree ∧ ref ∈ subtree) ∧
      ∀ cut, ∀ removal ∈ ClipboardStep.removals cut,
        ((run (steps ++ [removal])).isCircular ref = true ↔ Marked steps ref ∨
          ∃ other subtree, other ≠ cut ∧ Pending steps other subtree ∧ ref ∈ subtree) := by
  refine ⟨?_, isCircular_run steps ref, ?_⟩
  · rw [isCircular_iff, mem_circularRefs]
  · intro cut removal member
    exact isCircular_removal member steps ref

/-- What one of two overlapping cuts releases the other may still hold. -/
example : (Clipboard.run [.pushCut ⟨"page", .int 1⟩ [⟨"page", .int 1⟩, ⟨"page", .int 2⟩],
    .pushCut ⟨"page", .int 2⟩ [⟨"page", .int 2⟩], .removeRef ⟨"page", .int 1⟩]).circularRefs =
    [⟨"page", .int 2⟩] := by decide +kernel

end RecordEditing
