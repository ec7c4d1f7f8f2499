import Mathlib.Order.Defs.Unbundled
import RecordEditing.Entries
import RecordEditing.Record.RefSet

/-!
Addresses are in a strict total order. An association list that is sorted by key holds each key once
and stays sorted when an entry is written, and so does a sorted set of addresses; what is sorted
already comes out as it is when it is sorted.
-/
namespace RecordEditing

namespace RecordId

theorem int_lt_int {i j : Int} : int i < int j ↔ i < j := decide_eq_true_iff

theorem text_lt_text {s t : String} : text s < text t ↔ s < t := decide_eq_true_iff

theorem int_lt_text (i : Int) (s : String) : int i < text s := rfl

theorem not_text_lt_int (s : String) (i : Int) : ¬ text s < int i := Bool.false_ne_true

theorem lt_irrefl (a : RecordId) : ¬ a < a := by
  cases a with
  | int i => exact fun less => Int.lt_irrefl i (int_lt_int.mp less)
  | text s => exact fun less => String.lt_irrefl s (text_lt_text.mp less)

theorem lt_trans {a b c : RecordId} (first : a < b) (second : b < c) : a < c := by
  cases a with
  | int i =>
    cases c with
    | text u => exact int_lt_text i u
    | int k =>
      cases b with
      | int j => exact int_lt_int.mpr (Int.lt_trans (int_lt_int.mp first) (int_lt_int.mp second))
      | text t => exact absurd second (not_text_lt_int t k)
  | text s =>
    cases b with
    | int j => exact absurd first (not_text_lt_int s j)
    | text t =>
      cases c with
      | int k => exact absurd second (not_text_lt_int t k)
      | text u =>
        exact text_lt_text.mpr (String.lt_trans (text_lt_text.mp first) (text_lt_text.mp second))

theorem eq_of_not_lt {a b : RecordId} (left : ¬ a < b) (right : ¬ b < a) : a = b := by
  cases a with
  | int i =>
    cases b with
    | int j =>
      rw [int_lt_int] at left right
      exact congrArg int (by omega)
    | text t => exact absurd (int_lt_text i t) left
  | text s =>
    cases b with
    | int j => exact absurd (int_lt_text j s) right
    | text t =>
      rw [text_lt_text, String.not_lt] at left right
      exact congrArg text (String.le_antisymm right left)

end RecordId

namespace RecordRef

theorem lt_iff {a b : RecordRef} :
    a < b ↔ a.provider < b.provider ∨ a.provider = b.provider ∧ a.id < b.id := by
  change before a b = true ↔ _
  simp [before]

theorem lt_irrefl (a : RecordRef) : ¬ a < a := by
  intro less
  rcases lt_iff.mp less with less | ⟨_, less⟩
  · exact String.lt_irrefl _ less
  · exact RecordId.lt_irrefl _ less

theorem lt_trans {a b c : RecordRef} (first : a < b) (second : b < c) : a < c := by
  rw [lt_iff] at *
  rcases first with less | ⟨same, less⟩ <;> rcases second with below | ⟨equal, below⟩
  · exact Or.inl (String.lt_trans less below)
  · exact Or.inl (equal ▸ less)
  · exact Or.inl (same ▸ below)
  · exact Or.inr ⟨same.trans equal, RecordId.lt_trans less below⟩

theorem eq_of_not_lt {a b : RecordRef} (left : ¬ a < b) (right : ¬ b < a) : a = b := by
  rw [lt_iff, not_or, String.not_lt] at left right
  have providers : a.provider = b.provider := String.le_antisymm right.1 left.1
  have ids : a.id = b.id := by
    apply RecordId.eq_of_not_lt
    · exact fun less => left.2 ⟨providers, less⟩
    · exact fun less => right.2 ⟨providers.symm, less⟩
  cases a
  cases b
  rw [mk.injEq]
  exact ⟨providers, ids⟩

instance : IsStrictTotalOrder RecordRef (· < ·) where
  irrefl := lt_irrefl
  trans _ _ _ := lt_trans
  trichotomous _ _ := eq_of_not_lt

end RecordRef

instance strictTotalOrder_string : IsStrictTotalOrder String (· < ·) where
  irrefl := String.lt_irrefl
  trans _ _ _ := String.lt_trans
  trichotomous _ _ left right := String.le_antisymm (String.not_lt.mp right) (String.not_lt.mp left)

namespace Entries

variable {κ α : Type} [LT κ]

def Sorted (m : List (κ × α)) : Prop := m.Pairwise fun e f => e.1 < f.1

variable [IsStrictTotalOrder κ (· < ·)]

theorem ne_of_lt_of_mem {key k : κ} {v : α} {m : List (κ × α)} (before : ∀ e ∈ m, key < e.1)
    (member : (k, v) ∈ m) : k ≠ key := by
  rintro rfl
  exact irrefl_of (· < ·) k (before (k, v) member)

variable [DecidableEq κ] [DecidableLT κ]

theorem mem_insert {key k : κ} {value v : α} {m : List (κ × α)} (sorted : Sorted m) :
    (k, v) ∈ insert key value m ↔ k = key ∧ v = value ∨ k ≠ key ∧ (k, v) ∈ m := by
  induction m with
  | nil => simp [insert]
  | cons e m ih =>
    obtain ⟨j, w⟩ := e
    obtain ⟨first, rest⟩ := List.pairwise_cons.mp sorted
    by_cases same : j = key
    · subst same
      have later : (k, v) ∈ m → k ≠ j := ne_of_lt_of_mem first
      simp only [insert, ↓reduceIte, List.mem_cons, Prod.mk.injEq]
      grind
    · by_cases less : key < j
      · have before : ∀ e ∈ (j, w) :: m, key < e.1 :=
          List.forall_mem_cons.mpr ⟨less, fun e member => trans_of (· < ·) less (first e member)⟩
        have later : (k, v) ∈ (j, w) :: m → k ≠ key := ne_of_lt_of_mem before
        simp only [insert, same, less, ↓reduceIte]
        rw [List.mem_cons, Prod.mk.injEq]
        grind
      · have other : k = j → k ≠ key := fun here there => same (here.symm.trans there)
        simp only [insert, same, less, ↓reduceIte, List.mem_cons, ih rest, Prod.mk.injEq]
        grind

theorem sorted_insert {key : κ} {value : α} {m : List (κ × α)} (sorted : Sorted m) :
    Sorted (insert key value m) := by
  induction m with
  | nil => exact List.pairwise_singleton _ _
  | cons e m ih =>
    obtain ⟨j, w⟩ := e
    obtain ⟨first, rest⟩ := List.pairwise_cons.mp sorted
    by_cases same : j = key
    · subst same
      simp only [insert, ↓reduceIte]
      exact List.pairwise_cons.mpr ⟨first, rest⟩
    · by_cases less : key < j
      · simp only [insert, same, less, ↓reduceIte]
        refine List.pairwise_cons.mpr ⟨?_, sorted⟩
        exact List.forall_mem_cons.mpr ⟨less, fun e member => trans_of (· < ·) less (first e member)⟩
      · simp only [insert, same, less, ↓reduceIte]
        refine List.pairwise_cons.mpr ⟨?_, ih rest⟩
        rintro ⟨k, v⟩ member
        rcases (mem_insert rest).mp member with ⟨rfl, _⟩ | ⟨_, old⟩
        · exact (trichotomous_of (· < ·) j k).resolve_right fun other => other.elim same less
        · exact first (k, v) old

/-- Entries under different keys can be written in either order, also to a list that is not sorted:
each goes to the first place where its key is not after the one there. -/
theorem insert_comm {first second : κ} (ne : first ≠ second) (v w : α) (m : List (κ × α)) :
    insert second w (insert first v m) = insert first v (insert second w m) := by
  have total : first < second ∨ second < first := by
    rcases trichotomous_of (· < ·) first second with less | same | less
    · exact Or.inl less
    · exact absurd same ne
    · exact Or.inr less
  have asymm : ∀ {a b : κ}, a < b → ¬ b < a := fun less => asymm_of (· < ·) less
  have trans : ∀ {a b c : κ}, a < b → b < c → a < c := trans_of (· < ·)
  induction m with
  | nil => rcases total with less | less <;> simp [insert, ne, ne.symm, less, asymm less]
  | cons e m ih =>
    obtain ⟨k, u⟩ := e
    -- Whatever stands first is one of the two keys, after one of them, or before both.
    grind [insert]

theorem insert_of_last {key : κ} {value : α} {m : List (κ × α)} (last : ∀ e ∈ m, e.1 < key) :
    insert key value m = m ++ [(key, value)] := by
  induction m with
  | nil => rfl
  | cons e m ih =>
    obtain ⟨k, v⟩ := e
    obtain ⟨less, later⟩ := List.forall_mem_cons.mp last
    have other : k ≠ key := fun same => irrefl_of (· < ·) key (same ▸ less)
    have notBefore : ¬ key < k := fun before => irrefl_of (· < ·) k (trans_of (· < ·) less before)
    simp only [insert, other, notBefore, ↓reduceIte]
    rw [ih later, List.cons_append]

theorem foldl_insert_of_sorted {front m : List (κ × α)} (sorted : Sorted (front ++ m)) :
    m.foldl (fun m e => insert e.1 e.2 m) front = front ++ m := by
  induction m generalizing front with
  | nil => simp
  | cons e m ih =>
    have last : ∀ f ∈ front, f.1 < e.1 := by
      intro f member
      exact (List.pairwise_append.mp sorted).2.2 f member e List.mem_cons_self
    rw [List.append_cons] at sorted ⊢
    rw [List.foldl_cons, insert_of_last last]
    exact ih sorted

theorem ofList_of_sorted {m : List (κ × α)} (sorted : Sorted m) : ofList m = m :=
  foldl_insert_of_sorted sorted

theorem foldl_insert_spec (entries : List (κ × α)) {m : List (κ × α)} (sorted : Sorted m) :
    Sorted (entries.foldl (fun m e => insert e.1 e.2 m) m) ∧
      ∀ e ∈ entries.foldl (fun m e => insert e.1 e.2 m) m, e ∈ m ∨ e ∈ entries := by
  induction entries generalizing m with
  | nil => exact ⟨sorted, fun e member => Or.inl member⟩
  | cons f entries ih =>
    obtain ⟨ordered, only⟩ := ih (sorted_insert sorted)
    refine ⟨ordered, ?_⟩
    intro e member
    rcases only e member with inserted | later
    · rcases (mem_insert sorted).mp inserted with ⟨key, value⟩ | ⟨_, old⟩
      · exact Or.inr (by simp [Prod.ext key value])
      · exact Or.inl old
    · exact Or.inr (List.mem_cons_of_mem f later)

theorem sorted_ofList (entries : List (κ × α)) : Sorted (ofList entries) :=
  (foldl_insert_spec entries List.Pairwise.nil).1

theorem mem_of_mem_ofList {entries : List (κ × α)} {e : κ × α} (member : e ∈ ofList entries) :
    e ∈ entries :=
  ((foldl_insert_spec entries List.Pairwise.nil).2 e member).resolve_left List.not_mem_nil

end Entries

namespace RefSet

def Sorted (set : List RecordRef) : Prop := set.Pairwise (· < ·)

theorem sorted_insert {ref : RecordRef} {set : List RecordRef} (sorted : Sorted set) :
    Sorted (insert ref set) := by
  induction set with
  | nil => exact List.pairwise_singleton _ _
  | cons r rs ih =>
    obtain ⟨first, rest⟩ := List.pairwise_cons.mp sorted
    by_cases same : r = ref
    · simpa only [insert, same, ↓reduceIte] using sorted
    · by_cases less : ref < r
      · simp only [insert, same, less, ↓reduceIte]
        refine List.pairwise_cons.mpr ⟨?_, sorted⟩
        exact List.forall_mem_cons.mpr ⟨less, fun s member => RecordRef.lt_trans less (first s member)⟩
      · simp only [insert, same, less, ↓reduceIte]
        refine List.pairwise_cons.mpr ⟨?_, ih rest⟩
        intro s member
        rcases mem_insert.mp member with rfl | old
        · exact Classical.byContradiction fun later => same (RecordRef.eq_of_not_lt later less)
        · exact first s old

theorem sorted_ofList (refs : List RecordRef) : Sorted (ofList refs) := by
  unfold ofList union
  refine List.foldlRecOn refs _ List.Pairwise.nil ?_
  intro set sorted ref _
  exact sorted_insert sorted

theorem insert_of_last {ref : RecordRef} {set : List RecordRef} (last : ∀ r ∈ set, r < ref) :
    insert ref set = set ++ [ref] := by
  induction set with
  | nil => rfl
  | cons r rs ih =>
    obtain ⟨less, later⟩ := List.forall_mem_cons.mp last
    have other : r ≠ ref := fun same => RecordRef.lt_irrefl ref (same ▸ less)
    have notBefore : ¬ ref < r := fun before => RecordRef.lt_irrefl r (RecordRef.lt_trans less before)
    simp only [insert, other, notBefore, ↓reduceIte]
    rw [ih later, List.cons_append]

theorem union_of_sorted {set refs : List RecordRef} (sorted : Sorted (set ++ refs)) :
    union set refs = set ++ refs := by
  induction refs generalizing set with
  | nil => simp [union]
  | cons r rs ih =>
    have last : ∀ s ∈ set, s < r := by
      intro s member
      exact (List.pairwise_append.mp sorted).2.2 s member r List.mem_cons_self
    rw [List.append_cons] at sorted ⊢
    rw [← ih sorted, ← insert_of_last last]
    rfl

theorem ofList_of_sorted {set : List RecordRef} (sorted : Sorted set) : ofList set = set :=
  union_of_sorted sorted

end RefSet
end RecordEditing
