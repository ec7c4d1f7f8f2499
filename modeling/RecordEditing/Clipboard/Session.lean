import RecordEditing.Clipboard.Basic

/-!
Sessions: values kept by key between requests. The clipboard is kept in the session, and what cannot
be read back is an empty clipboard.
-/
namespace RecordEditing

structure Session where
  values : List (String × Json) := []

namespace Session

def get? (s : Session) (key : String) : Option Json := Entries.find? key s.values

def set (s : Session) (key : String) (value : Json) : Session :=
  ⟨Entries.insert key value s.values⟩

def remove (s : Session) (key : String) : Session := ⟨Entries.erase key s.values⟩

end Session

namespace Clipboard

def refsJson (refs : List RecordRef) : Json := .arr (refs.map RecordRef.toJson)

/-- Empty sets are left out. -/
def setMember (name : String) (empty : Bool) (j : Json) : Fields :=
  if empty then [] else [(name, j)]

def toJson (c : Clipboard) : Json :=
  .obj (("items", .arr (c.items.map ClipboardItem.toJson)) ::
    (setMember "circular" c.circular.isEmpty (refsJson c.circular) ++
      setMember "cut_subtrees" c.cutSubtrees.isEmpty
        (.obj (c.cutSubtrees.map fun e => (e.1.text, refsJson e.2)))))

def refsOf? (j : Json) : Option (List RecordRef) := (j.listOf? RecordRef.ofJson?).map RefSet.ofList

def subtreesOf? (j : Json) : Option (List (RecordRef × List RecordRef)) := do
  let entries ← (← j.members?).mapM fun (text, refs) => do
    return (← RecordRef.ofText? text, ← refsOf? refs)
  return Entries.ofList entries

def ofJson? (j : Json) : Option Clipboard := do
  let fs ← Fields.ofJson? ["items", "circular", "cut_subtrees"] j
  return {
    items := ← Fields.withDefault? ["items"] [] (Json.listOf? ClipboardItem.ofJson?) fs
    circular := ← Fields.withDefault? ["circular"] [] refsOf? fs
    cutSubtrees := ← Fields.withDefault? ["cut_subtrees"] [] subtreesOf? fs }

def sessionKey : String := "CLIPBOARD"

def save (c : Clipboard) (s : Session) : Session := s.set sessionKey c.toJson

def load (s : Session) : Clipboard := ((s.get? sessionKey).bind ofJson?).getD {}

end Clipboard
end RecordEditing
