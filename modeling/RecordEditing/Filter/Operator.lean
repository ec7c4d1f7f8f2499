import RecordEditing.Value.Truth
import RecordEditing.Value.Pattern

/-!
The comparison operators of filters.
-/
namespace RecordEditing

inductive Operator where
  | equals
  | greater
  | less
  | like
  | oneOf
  deriving DecidableEq, Repr

namespace Operator

def symbol : Operator → String
  | .equals => "="
  | .greater => ">"
  | .less => "<"
  | .like => "LIKE"
  | .oneOf => "IN"

/-- Reads an operator, regardless of case and of blanks around it. What is left of an unknown one
is returned as the error. -/
def ofText (text : String) : Except String Operator :=
  let name := String.ofList ((trim text.toList).map Char.toUpper)
  if name = "=" ∨ name = "==" then .ok .equals
  else if name = ">" then .ok .greater
  else if name = "<" then .ok .less
  else if name = "LIKE" then .ok .like
  else if name = "IN" then .ok .oneOf
  else .error name

def unknownMessage (name : String) : String := "unknown comparison operator `" ++ name ++ "`"

/-- The candidates a value stands for: the items of a list, or the value itself. -/
def candidates : Json → List Json
  | .arr items => items
  | j => [j]

def holds (op : Operator) (lhs : Option Json) (rhs : Json) : Bool :=
  match op with
  | .equals => looseEq lhs (some rhs)
  | .greater => order? lhs (some rhs) == some .gt
  | .less => order? lhs (some rhs) == some .lt
  | .like => isLike lhs rhs.shown
  | .oneOf => (candidates rhs).any fun c => looseEq lhs (some c)

end Operator
end RecordEditing
