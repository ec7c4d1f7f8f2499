import RecordEditing.Clipboard.Item
import RecordEditing.Entries
import RecordEditing.Record.RefSet

/-!
The clipboard: what is to be pasted, and the circular addresses, under or beside which nothing may
be pasted. These are the addresses that were marked and the subtrees of all cuts that are pending;
a subtree goes when its cut does.
-/
namespace RecordEditing

structure Clipboard where
  items : List ClipboardItem := []
  /-- The marked addresses, sorted. -/
  circular : List RecordRef := []
  /-- The subtree of each cut record, sorted. -/
  cutSubtrees : List (RecordRef × List RecordRef) := []
  deriving DecidableEq, Repr

/-- What items are wanted; a criterion that is not set is met by all. -/
structure ClipboardFilter where
  actions : List ClipboardAction := []
  provider : Option String := none
  /-- The parent, or that there is none. -/
  parent : Option (Option RecordRef) := none
  refs : List RecordRef := []

namespace ClipboardFilter

def accepts (f : ClipboardFilter) (item : ClipboardItem) : Bool :=
  (f.actions.isEmpty || f.actions.contains item.action) &&
    f.provider.all (· == item.provider) &&
    f.parent.all (· == item.parent?) &&
    (f.refs.isEmpty || item.ref?.any f.refs.contains)

end ClipboardFilter

namespace Clipboard

/-- Puts an item in the place of one with the same key. -/
def pushItem (item : ClipboardItem) : List ClipboardItem → List ClipboardItem
  | [] => [item]
  | i :: is => if i.key = item.key then item :: is else i :: pushItem item is

def push (c : Clipboard) (item : ClipboardItem) : Clipboard :=
  { c with items := pushItem item c.items }

/-- Forgets the subtrees of cuts that are no longer there. -/
def prune (c : Clipboard) : Clipboard :=
  { c with cutSubtrees := c.cutSubtrees.filter fun e => c.items.contains (.cut e.1) }

def keep (c : Clipboard) (test : ClipboardItem → Bool) : Clipboard :=
  prune { c with items := c.items.filter test }

def removed (before after : Clipboard) : Nat := before.items.length - after.items.length

def remove (c : Clipboard) (item : ClipboardItem) : Clipboard × Bool :=
  let after := c.keep (· != item)
  (after, removed c after != 0)

/-- Removes the items of a record, whatever is to be done with it; how many were there? -/
def removeRef (c : Clipboard) (ref : RecordRef) : Clipboard × Nat :=
  let after := c.keep fun i => i.ref? != some ref
  (after, removed c after)

def removeKey (c : Clipboard) (key : String) : Clipboard × Option ClipboardItem :=
  match c.items.find? (·.key == key) with
  | none => (c, none)
  | some item => (prune { c with items := c.items.eraseP (·.key == key) }, some item)

/-- Cuts a record; its subtree is circular as long as the cut is pending. -/
def pushCut (c : Clipboard) (ref : RecordRef) (subtree : List RecordRef) : Clipboard :=
  let pushed := c.push (.cut ref)
  { pushed with cutSubtrees := Entries.insert ref (RefSet.ofList subtree) pushed.cutSubtrees }

def has (c : Clipboard) (item : ClipboardItem) : Bool := c.items.contains item

def hasRef (c : Clipboard) (ref : RecordRef) : Bool := c.items.any fun i => i.ref? == some ref

def fetch (c : Clipboard) (f : ClipboardFilter) : List ClipboardItem := c.items.filter f.accepts

def isEmpty (c : Clipboard) (f : ClipboardFilter) : Bool := !c.items.any f.accepts

def clear (_ : Clipboard) : Clipboard := {}

def setCircular (c : Clipboard) (refs : List RecordRef) : Clipboard :=
  { c with circular := RefSet.ofList refs }

def circularRefs (c : Clipboard) : List RecordRef :=
  c.cutSubtrees.foldl (fun refs e => RefSet.union refs e.2) c.circular

def isCircular (c : Clipboard) (ref : RecordRef) : Bool :=
  c.circular.contains ref || c.cutSubtrees.any fun e => e.2.contains ref

def pasteTargets (c : Clipboard) (refs : List RecordRef) : List RecordRef :=
  refs.filter fun ref => !c.isCircular ref

theorem isCircular_pushCut (c : Clipboard) {ref below : RecordRef} {subtree : List RecordRef}
    (member : below ∈ subtree) : (c.pushCut ref subtree).isCircular below = true := by
  have entry := Entries.mem_of_find?
    (Entries.find?_insert_self ref (RefSet.ofList subtree) (c.push (.cut ref)).cutSubtrees)
  unfold isCircular pushCut
  rw [Bool.or_eq_true, List.any_eq_true]
  refine Or.inr ⟨_, entry, ?_⟩
  rw [List.contains_iff_mem, RefSet.mem_ofList]
  exact member

end Clipboard
end RecordEditing
