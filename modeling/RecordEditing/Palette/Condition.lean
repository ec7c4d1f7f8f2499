import RecordEditing.Record.Input
import RecordEditing.Value.Truth

/-!
Conditions on what a form shows. A condition is evaluated in two ways: as a score, to choose among
palettes, and as a truth value, to show or hide a field.
-/
namespace RecordEditing

inductive Conjunction where
  | all
  | any
  deriving DecidableEq, Repr

inductive Condition where
  /-- Holds always and scores nothing, so that any other match comes first. -/
  | always
  | constant (value : Bool) (weight : UInt32)
  | isSet (property : String) (typed : Bool) (weight : UInt32)
  | isUnset (property : String) (typed : Bool) (weight : UInt32)
  | equals (property : String) (value : Json) (typed : Bool) (weight : UInt32)
  | not (inner : Condition)
  | chain (conjunction : Conjunction) (members : List Condition)
  deriving Repr

namespace Condition

/-- The property is set, loosely and with weight 1. -/
def setTo (property : String) : Condition := .isSet property false 1

def textIs (property text : String) : Condition := .equals property (.str text) false 1

mutual

def same : Condition → Condition → Bool
  | .always, .always => true
  | .constant v w, .constant v' w' => v == v' && w == w'
  | .isSet p t w, .isSet p' t' w' => p == p' && t == t' && w == w'
  | .isUnset p t w, .isUnset p' t' w' => p == p' && t == t' && w == w'
  | .equals p v t w, .equals p' v' t' w' => p == p' && v == v' && t == t' && w == w'
  | .not c, .not c' => same c c'
  | .chain j ms, .chain j' ms' => j == j' && sameMembers ms ms'
  | _, _ => false

def sameMembers : List Condition → List Condition → Bool
  | [], [] => true
  | c :: cs, d :: ds => same c d && sameMembers cs ds
  | _, _ => false

end

instance : BEq Condition := ⟨same⟩

/-- Does a property have the truth value? Typed, only the truth value itself will do. -/
def truthHolds (truth typed : Bool) (v : Option Json) : Bool :=
  if typed then v == some (.bool truth) else isTruthy v == truth

def valueHolds (value : Json) (typed : Bool) (v : Option Json) : Bool :=
  if typed then strictEq v (some value) else looseEq v (some value)

mutual

def holds (form : FormState) : Condition → Bool
  | .always => true
  | .constant v _ => v
  | .isSet p typed _ => truthHolds true typed (form.value? p)
  | .isUnset p typed _ => truthHolds false typed (form.value? p)
  | .equals p v typed _ => valueHolds v typed (form.value? p)
  | .not c => !holds form c
  | .chain .all ms => allHold form ms
  | .chain .any ms => anyHolds form ms

def allHold (form : FormState) : List Condition → Bool
  | [] => true
  | c :: cs => holds form c && allHold form cs

def anyHolds (form : FormState) : List Condition → Bool
  | [] => false
  | c :: cs => holds form c || anyHolds form cs

end

/-- Addition that stays at the largest word. -/
def addScores (a b : UInt32) : UInt32 := UInt32.ofNat (min (a.toNat + b.toNat) 4294967295)

/-- The score of a chain whose members have these scores: all of them, or at least one, must match,
and those that match are added. An empty chain does not match. -/
def chainScore (conjunction : Conjunction) (scores : List (Option UInt32)) : Option UInt32 :=
  if conjunction = .all ∧ scores.any (·.isNone) then none
  else
    match scores.filterMap id with
    | [] => none
    | s :: rest => some (rest.foldl addScores s)

def weighted (holds : Bool) (weight : UInt32) : Option UInt32 := if holds then some weight else none

mutual

/-- The score of a condition, `none` if it does not match. A negation scores 1. -/
def score? (form : FormState) : Condition → Option UInt32
  | .always => some 0
  | .constant v w => weighted v w
  | .isSet p typed w => weighted (truthHolds true typed (form.value? p)) w
  | .isUnset p typed w => weighted (truthHolds false typed (form.value? p)) w
  | .equals p v typed w => weighted (valueHolds v typed (form.value? p)) w
  | .not c => weighted (score? form c).isNone 1
  | .chain j ms => chainScore j (scores form ms)

def scores (form : FormState) : List Condition → List (Option UInt32)
  | [] => []
  | c :: cs => score? form c :: scores form cs

end

def weight? : Condition → Option UInt32
  | .constant _ w => some w
  | .isSet _ _ w => some w
  | .isUnset _ _ w => some w
  | .equals _ _ _ w => some w
  | _ => none

def withWeight? (w : UInt32) : Condition → Option Condition
  | .constant v _ => some (.constant v w)
  | .isSet p typed _ => some (.isSet p typed w)
  | .isUnset p typed _ => some (.isUnset p typed w)
  | .equals p v typed _ => some (.equals p v typed w)
  | _ => none

def typed : Condition → Condition
  | .isSet p _ w => .isSet p true w
  | .isUnset p _ w => .isUnset p true w
  | .equals p v _ w => .equals p v true w
  | c => c

def members? : Condition → Option (List Condition)
  | .chain _ ms => some ms
  | _ => none

def withMembers (ms : List Condition) : Condition → Condition
  | .chain j _ => .chain j ms
  | c => c

/-- Holds where either condition does; an alternative that is known already is not added. -/
def orElse (c d : Condition) : Condition :=
  if c == d then c
  else
    match c with
    | .chain .any ms => if ms.contains d then c else .chain .any (ms ++ [d])
    | c => .chain .any [c, d]

theorem allHold_eq_all (form : FormState) (cs : List Condition) :
    allHold form cs = cs.all (holds form) := by
  induction cs with
  | nil => rfl
  | cons c cs ih => simp [allHold, ih]

theorem anyHolds_eq_any (form : FormState) (cs : List Condition) :
    anyHolds form cs = cs.any (holds form) := by
  induction cs with
  | nil => rfl
  | cons c cs ih => simp [anyHolds, ih]

theorem scores_eq_map (form : FormState) (cs : List Condition) :
    scores form cs = cs.map (score? form) := by
  induction cs with
  | nil => rfl
  | cons c cs ih => simp [scores, ih]

end Condition
end RecordEditing
