import RecordEditing.Entries
import RecordEditing.Json.Basic

/-!
JSON texts as trees. A document keeps what the text says: members in written order, names given
twice, and two faults that matter only where a value is wanted, a numeral beyond the doubles and an
unpaired surrogate. Reading a document passes over the members that nobody knows, faults included.
-/
namespace RecordEditing

inductive Document where
  | null
  | bool (b : Bool)
  | num (value : Option Number)
  | str (value : Option String)
  | arr (items : List Document)
  | obj (members : List (Option String × Document))

/-- What the kinds of places know: the members of a record with their kinds, or the kind of the
items of a list, or neither, where any value may stand. The members of a value are sorted unless
they are wanted as written. -/
structure Grammar (κ : Type) where
  members : κ → Option (List (String × κ))
  items : κ → Option κ
  asWritten : κ → Bool

namespace Document

variable {κ : Type}

/-- The kind of the next item of an array and the kinds of those after it: a record written as a
list has the kinds of its members in order. -/
def nextKind (kind : κ) : List κ → κ × List κ
  | [] => (kind, [])
  | k :: ks => (k, ks)

def itemKinds (g : Grammar κ) (kind : κ) : κ × List κ :=
  match g.items kind, g.members kind with
  | some k, _ => (k, [])
  | none, some known => (kind, known.map (·.2))
  | none, none => (kind, [])

mutual

/-- Reads a document at a place of the given kind, arrays and objects nesting at most `depth` deep.
A record keeps its known members as written; a value sorts its members, and of a name given twice
the last one counts. -/
def read? (g : Grammar κ) (kind : κ) (depth : Nat) : Document → Option Json
  | .null => some .null
  | .bool b => some (.bool b)
  | .num n => n.map .num
  | .str s => s.map .str
  | .arr items =>
    if depth = 0 then none
    else
      let (k, ks) := itemKinds g kind
      (readItems? g k ks (depth - 1) items).map .arr
  | .obj ms =>
    if depth = 0 then none
    else
      match g.members kind with
      | none =>
        (readEntries? g kind (depth - 1) ms).map fun es =>
          .obj (if g.asWritten kind then es else Entries.ofList es)
      | some known => (readKnown? g known (depth - 1) ms).map .obj

def readItems? (g : Grammar κ) (kind : κ) (kinds : List κ) (depth : Nat) :
    List Document → Option (List Json)
  | [] => some []
  | d :: ds => do
    let (k, ks) := nextKind kind kinds
    let v ← read? g k depth d
    let vs ← readItems? g kind ks depth ds
    return v :: vs

def readEntries? (g : Grammar κ) (kind : κ) (depth : Nat) :
    List (Option String × Document) → Option (List (String × Json))
  | [] => some []
  | (name, d) :: ms => do
    let n ← name
    let v ← read? g kind depth d
    let vs ← readEntries? g kind depth ms
    return (n, v) :: vs

def readKnown? (g : Grammar κ) (known : List (String × κ)) (depth : Nat) :
    List (Option String × Document) → Option (List (String × Json))
  | [] => some []
  | (name, d) :: ms => do
    let n ← name
    match Entries.find? n known with
    | none => readKnown? g known depth ms
    | some kind =>
      let v ← read? g kind depth d
      let vs ← readKnown? g known depth ms
      return (n, v) :: vs

end

def maxDepth : Nat := 127

def plain : Grammar Unit := ⟨fun _ => none, fun _ => none, fun _ => false⟩

def value? (d : Document) : Option Json := read? plain () maxDepth d

end Document
end RecordEditing
