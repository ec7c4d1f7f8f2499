import RecordEditing.Filter.Operator
import RecordEditing.Named
import RecordEditing.Record.Basic
import RecordEditing.Text.Quoted

/-!
Filter rules. A rule compares a property with a value or groups other rules; a filter is a list of
rules that must all hold. An empty AND holds and an empty OR does not.
-/
namespace RecordEditing

inductive FilterRule where
  | all (rules : List FilterRule)
  | any (rules : List FilterRule)
  | equals (property : String) (value : Json)
  | greater (property : String) (value : Json)
  | less (property : String) (value : Json)
  | oneOf (property : String) (values : List Json)
  | like (property : String) (pattern : String)
  deriving Repr

namespace FilterRule

/-- The rule for an operator: a pattern is the text its value shows, and a single value is a list
of one candidate. -/
def compare (op : Operator) (property : String) (value : Json) : FilterRule :=
  match op with
  | .equals => .equals property value
  | .greater => .greater property value
  | .less => .less property value
  | .like => .like property value.shown
  | .oneOf => .oneOf property (Operator.candidates value)

mutual

def holds (r : Record) : FilterRule → Bool
  | .all rules => allHold r rules
  | .any rules => anyHolds r rules
  | .equals p v => Operator.equals.holds (r.get? p) v
  | .greater p v => Operator.greater.holds (r.get? p) v
  | .less p v => Operator.less.holds (r.get? p) v
  | .oneOf p vs => vs.any fun v => looseEq (r.get? p) (some v)
  | .like p pattern => isLike (r.get? p) pattern

def allHold (r : Record) : List FilterRule → Bool
  | [] => true
  | rule :: rules => holds r rule && allHold r rules

def anyHolds (r : Record) : List FilterRule → Bool
  | [] => false
  | rule :: rules => holds r rule || anyHolds r rules

end

mutual

def reads : FilterRule → List String
  | .all rules => readsOf rules
  | .any rules => readsOf rules
  | .equals p _ => [p]
  | .greater p _ => [p]
  | .less p _ => [p]
  | .oneOf p _ => [p]
  | .like p _ => [p]

def readsOf : List FilterRule → List String
  | [] => []
  | rule :: rules => reads rule ++ readsOf rules

end

end FilterRule

def FilterRule.properties (rule : FilterRule) : List String := firstSeen rule.reads

def matchesFilter (filter : List FilterRule) (r : Record) : Bool := filter.all (·.holds r)

theorem FilterRule.allHold_eq_all (r : Record) (rules : List FilterRule) :
    allHold r rules = rules.all (·.holds r) := by
  induction rules with
  | nil => rfl
  | cons rule rules ih => simp [allHold, ih]

end RecordEditing
