import Mathlib.Data.List.Nodup
import RecordEditing.Numeric.Binary64
import RecordEditing.Record.Basic

/-!
Records that hang on each other. Every record has an integer id, and its link, some other property,
holds the id of the record above it, or 0 at the top. A tree is a list of records whose chains of
links all end at the top. Hanging a record elsewhere keeps a tree a tree as long as the new place
is not below the record itself.
-/
namespace RecordEditing

def Record.int? (r : Record) (name : String) : Option Int :=
  match r.get? name with
  | some (.num (.int i)) => some i
  | _ => none

theorem Record.int?_eq_some {r : Record} {name : String} {i : Int} :
    r.int? name = some i ↔ r.get? name = some (.int i) := by
  unfold Record.int?
  split
  · next j holds => simp [holds, Json.int]
  · next other =>
    simp only [reduceCtorEq, false_iff]
    intro holds
    exact other i holds

def LinksTo (link : String) (r parent : Record) : Prop :=
  ∃ i, r.int? link = some i ∧ parent.int? Record.idProperty = some i

/-- The chain of links of a record ends at the top. -/
inductive Rooted (link : String) (records : List Record) : Record → Prop where
  | top {r : Record} (zero : r.int? link = some 0) : Rooted link records r
  | up {r parent : Record} (stored : parent ∈ records) (linked : LinksTo link r parent)
      (rest : Rooted link records parent) : Rooted link records r

/-- The record itself or one whose chain of links passes it. -/
inductive AtOrBelow (link : String) (records : List Record) (r : Record) : Record → Prop where
  | self : AtOrBelow link records r r
  | up {s parent : Record} (stored : parent ∈ records) (linked : LinksTo link s parent)
      (rest : AtOrBelow link records r parent) : AtOrBelow link records r s

section Rehanging

variable {link : String} {front back : List Record} {r moved : Record}

theorem mem_replaced {s : Record} (stored : s ∈ front ++ r :: back) (other : s ≠ r) :
    s ∈ front ++ moved :: back := by
  simp only [List.mem_append, List.mem_cons] at stored ⊢
  rcases stored with before | same | behind
  · exact Or.inl before
  · exact absurd same other
  · exact Or.inr (Or.inr behind)

theorem Rooted.of_apart {s : Record} (rooted : Rooted link (front ++ r :: back) s)
    (apart : ¬ AtOrBelow link (front ++ r :: back) r s) :
    Rooted link (front ++ moved :: back) s := by
  -- Being apart from r goes up the chain, so no link on it leads to r.
  induction rooted with
  | top zero => exact .top zero
  | @up s parent stored linked rest ih =>
    have parentApart : ¬ AtOrBelow link (front ++ r :: back) r parent := by
      intro passes
      exact apart (.up stored linked passes)
    have other : parent ≠ r := by
      intro same
      exact parentApart (same ▸ .self)
    exact .up (mem_replaced stored other) linked (ih parentApart)

theorem Rooted.of_moved {s : Record} (rooted : Rooted link (front ++ r :: back) s)
    (sameId : moved.int? Record.idProperty = r.int? Record.idProperty)
    (place : Rooted link (front ++ moved :: back) moved) (other : s ≠ r) :
    Rooted link (front ++ moved :: back) s := by
  have here : moved ∈ front ++ moved :: back := by simp
  induction rooted with
  | top zero => exact .top zero
  | @up s parent stored linked rest ih =>
    by_cases same : parent = r
    · obtain ⟨i, up, id⟩ := linked
      refine .up here ⟨i, up, ?_⟩ place
      rw [sameId, ← same]
      exact id
    · exact .up (mem_replaced stored same) linked (ih same)

/-- A tree stays a tree when one of its records is made a root or is hung below a record that is
neither the record itself nor below it. -/
theorem all_rooted_of_rehang (tree : ∀ s ∈ front ++ r :: back, Rooted link (front ++ r :: back) s)
    (distinct : ∀ s ∈ front ++ back, s ≠ r)
    (sameId : moved.int? Record.idProperty = r.int? Record.idProperty)
    (place : moved.int? link = some 0 ∨ ∃ parent ∈ front ++ r :: back,
      LinksTo link moved parent ∧ ¬ AtOrBelow link (front ++ r :: back) r parent) :
    ∀ s ∈ front ++ moved :: back, Rooted link (front ++ moved :: back) s := by
  have movedRooted : Rooted link (front ++ moved :: back) moved := by
    rcases place with zero | ⟨parent, stored, linked, apart⟩
    · exact .top zero
    · have other : parent ≠ r := by
        intro same
        exact apart (same ▸ .self)
      exact .up (mem_replaced stored other) linked ((tree parent stored).of_apart apart)
  intro s stored
  have cases : s = moved ∨ s ∈ front ++ back := by
    simp only [List.mem_append, List.mem_cons] at stored ⊢
    rcases stored with before | same | behind
    · exact Or.inr (Or.inl before)
    · exact Or.inl same
    · exact Or.inr (Or.inr behind)
  rcases cases with rfl | kept
  · exact movedRooted
  · have old : s ∈ front ++ r :: back := by
      simp only [List.mem_append, List.mem_cons] at kept ⊢
      rcases kept with before | behind
      · exact Or.inl before
      · exact Or.inr (Or.inr behind)
    exact (tree s old).of_moved sameId movedRooted (distinct s kept)

end Rehanging

/-- The integers that records are linked by: distinct ids other than 0, and links, both small enough
to be compared exactly. -/
structure Linked (link : String) (records : List Record) : Prop where
  ids : ∀ r ∈ records,
    ∃ i, r.int? Record.idProperty = some i ∧ i ≠ 0 ∧ i.natAbs ≤ Binary64.binade
  links : ∀ r ∈ records, ∃ i, r.int? link = some i ∧ i.natAbs ≤ Binary64.binade
  distinct : (records.map (·.int? Record.idProperty)).Nodup

theorem Linked.eq_of_id {link : String} {records : List Record} (linked : Linked link records)
    {r s : Record} (left : r ∈ records) (right : s ∈ records)
    (same : r.int? Record.idProperty = s.int? Record.idProperty) : r = s :=
  List.inj_on_of_nodup_map linked.distinct left right same

theorem Linked.parent_unique {link : String} {records : List Record}
    (linked : Linked link records) {r p s : Record} (left : p ∈ records) (right : s ∈ records)
    (first : LinksTo link r p) (second : LinksTo link r s) : p = s := by
  obtain ⟨i, up, id⟩ := first
  obtain ⟨j, links, holds⟩ := second
  have same : i = j := Option.some.inj (up.symm.trans links)
  exact linked.eq_of_id left right (by rw [id, holds, same])

theorem Linked.ne_of_split {link : String} {front back : List Record} {r : Record}
    (linked : Linked link (front ++ r :: back)) : ∀ s ∈ front ++ back, s ≠ r := by
  have distinct := linked.distinct
  rw [List.map_append, List.map_cons, List.nodup_middle, List.nodup_cons, ← List.map_append]
    at distinct
  rintro s member rfl
  exact distinct.1 (List.mem_map_of_mem member)

end RecordEditing
