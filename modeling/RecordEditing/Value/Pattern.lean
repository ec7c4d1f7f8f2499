import RecordEditing.Json.Printer
import RecordEditing.Text.LowerCase

/-!
Patterns: `%` stands for any run of characters and `_` for a single one. A value is matched by the
text it shows in a form, in lower case.
-/
namespace RecordEditing

/-- The text a value shows in a form: strings without quotes, nothing for null. -/
def Json.shown : Json → String
  | .null => ""
  | .str s => s
  | j => j.text

def suffixes {α : Type} : List α → List (List α)
  | [] => [[]]
  | x :: xs => (x :: xs) :: suffixes xs

def matchesPattern : List Char → List Char → Bool
  | [], text => text.isEmpty
  | p :: ps, text =>
    if p = '%' then (suffixes text).any (matchesPattern ps)
    else
      match text with
      | [] => false
      | c :: cs => (p = '_' || p = c) && matchesPattern ps cs

/-- An absent value matches no pattern. -/
def isLike (v : Option Json) (pattern : String) : Bool :=
  v.any fun j => matchesPattern (lowerCase pattern.toList) (lowerCase j.shown.toList)

end RecordEditing
