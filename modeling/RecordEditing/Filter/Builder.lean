import RecordEditing.Filter.Rule

/-!
Building filters step by step, nested groups included.
-/
namespace RecordEditing

inductive FilterStep where
  | rule (rule : FilterRule)
  | rules (rules : List FilterRule)
  | anyOf (steps : List FilterStep)
  | allOf (steps : List FilterStep)

namespace FilterStep

mutual

def added : FilterStep → List FilterRule
  | .rule r => [r]
  | .rules rs => rs
  | .anyOf steps => [.any (addedBy steps)]
  | .allOf steps => [.all (addedBy steps)]

def addedBy : List FilterStep → List FilterRule
  | [] => []
  | step :: steps => added step ++ addedBy steps

end

end FilterStep

def FilterRule.joined : List FilterRule → FilterRule
  | [rule] => rule
  | rules => .all rules

end RecordEditing
