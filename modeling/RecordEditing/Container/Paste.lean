import RecordEditing.Clipboard.Basic
import RecordEditing.Container.Descendants

/-!
Placing a pasted or created record. A request names a record to paste into, or else one to paste
after; id 0 names the level above all records. A parent named on its own is set last and counts
before both. Nothing is placed relative to a circular address.
-/
namespace RecordEditing

/-- The parameters of a request; an empty one counts as absent. -/
structure PasteRequest where
  into : Option String := none
  after : Option String := none
  parent : Option String := none
  deriving DecidableEq, Repr

inductive PasteTarget where
  | into (ref : RecordRef)
  | after (ref : RecordRef)
  deriving DecidableEq, Repr

def PasteTarget.ref : PasteTarget → RecordRef
  | .into ref => ref
  | .after ref => ref

inductive Destination where
  | unchanged
  | root
  | below (parent : Record)

inductive PasteState where
  | idle
  | related (parent : Option RecordRef)
  | rooted
  deriving DecidableEq, Repr

structure Pasted where
  record : Record
  result : Except RelationError PasteState

namespace PasteRequest

def ref? (parameter : Option String) : Except RelationError (Option RecordRef) :=
  match parameter with
  | none => .ok none
  | some text =>
    if text = "" then .ok none
    else
      match RecordRef.ofText text with
      | .ok ref => .ok (some ref)
      | .error e => .error (.record e)

def rejectCircular (clipboard : Clipboard) (ref : RecordRef) : Except RelationError Unit :=
  if clipboard.isCircular ref then .error (.circular ref) else .ok ()

def named (q : PasteRequest) : Except RelationError (Option PasteTarget) := do
  match ← ref? q.into with
  | some ref => return some (.into ref)
  | none =>
    match ← ref? q.after with
    | some ref => return some (.after ref)
    | none => return none

def target (q : PasteRequest) (clipboard : Clipboard) :
    Except RelationError (Option PasteTarget) := do
  match ← q.named with
  | none => return none
  | some target =>
    rejectCircular clipboard target.ref
    return some target

end PasteRequest

namespace Container

def requireAt (store : Store) (ref : RecordRef) : Except RelationError Record := do
  match ← recordAt store ref with
  | some r => return r
  | none => .error (.notFound ref)

def topLevel (c : Container) : Destination :=
  if c.basic.mode = .hierarchical then .root else .unchanged

/-- Where a target leads. After a record that is missing, a root or without a parent is the level
above all records. -/
def destination (c : Container) (store : Store) :
    PasteTarget → Except RelationError Destination
  | .into ref =>
    if ref.id.isZero then .ok c.topLevel
    else do
      let parent ← requireAt store ref
      return .below parent
  | .after ref => do
    match ← recordAt store ref with
    | none => return c.topLevel
    | some sibling =>
      if c.isRoot sibling then return c.topLevel
      else
        match ← c.parentOf store sibling with
        | some parent => return .below parent
        | none => return c.topLevel

def reached (w : Written) (state : PasteState) : Pasted := ⟨w.record, w.result.map fun _ => state⟩

def placeBelow (c : Container) (parent r : Record) : Pasted :=
  reached (c.relations.setParent c.basic.mode parent r) (.related parent.ref?)

def place (c : Container) (r : Record) : Destination → Pasted
  | .unchanged => ⟨r, .ok .idle⟩
  | .root => reached (c.relations.setRoot c.basic.mode r) .rooted
  | .below parent => c.placeBelow parent r

/-- Where the request sends a record; a flat container has no places. -/
def requested (c : Container) (store : Store) (clipboard : Clipboard) (q : PasteRequest) :
    Except RelationError Destination :=
  if c.basic.mode = .flat then .ok .unchanged
  else do
    match ← q.target clipboard with
    | none => return .unchanged
    | some target => c.destination store target

def requestedParent (store : Store) (clipboard : Clipboard) (q : PasteRequest) :
    Except RelationError (Option Record) := do
  match ← PasteRequest.ref? q.parent with
  | none => return none
  | some ref =>
    PasteRequest.rejectCircular clipboard ref
    return some (← requireAt store ref)

def paste (c : Container) (store : Store) (clipboard : Clipboard) (q : PasteRequest)
    (r : Record) : Pasted :=
  match c.requested store clipboard q with
  | .error e => ⟨r, .error e⟩
  | .ok destination =>
    let placed := c.place r destination
    match placed.result with
    | .error _ => placed
    | .ok _ =>
      match requestedParent store clipboard q with
      | .error e => ⟨placed.record, .error e⟩
      | .ok none => placed
      | .ok (some parent) => c.placeBelow parent placed.record

def cut (c : Container) (store : Store) (clipboard : Clipboard) (ref : RecordRef) :
    Except RelationError (Clipboard × List RecordRef) :=
  match c.descendants store ref with
  | .error e => .error e
  | .ok refs => .ok (clipboard.pushCut ref refs, refs)

theorem cut_eq_ok {c : Container} {store : Store} {before after : Clipboard} {ref : RecordRef}
    {marked : List RecordRef} (h : c.cut store before ref = .ok (after, marked)) :
    c.descendants store ref = .ok marked ∧ after = before.pushCut ref marked := by
  unfold cut at h
  split at h
  · cases h
  · next collected =>
    cases h
    exact ⟨collected, rfl⟩

end Container
end RecordEditing
