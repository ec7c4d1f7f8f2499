import RecordEditing.Filter.Rule

/-!
How filter rules are written: for people, and as JSON with the operator under `operation`.
-/
namespace RecordEditing
namespace FilterRule

mutual

def text : FilterRule → String
  | .all rules => "(" ++ groupText " AND " rules ++ ")"
  | .any rules => "(" ++ groupText " OR " rules ++ ")"
  | .equals p v => p ++ " = " ++ v.text
  | .greater p v => p ++ " > " ++ v.text
  | .less p v => p ++ " < " ++ v.text
  | .oneOf p vs => p ++ " IN " ++ (Json.arr vs).text
  | .like p pattern => p ++ " LIKE " ++ quoted pattern

def groupText (between : String) : List FilterRule → String
  | [] => ""
  | [rule] => text rule
  | rule :: rules => text rule ++ between ++ groupText between rules

end

def comparison (symbol property field : String) (value : Json) : Json :=
  .obj [("operation", .str symbol), ("property", .str property), (field, value)]

mutual

def toJson : FilterRule → Json
  | .all rules => .obj [("operation", .str "AND"), ("children", .arr (toItems rules))]
  | .any rules => .obj [("operation", .str "OR"), ("children", .arr (toItems rules))]
  | .equals p v => comparison "=" p "value" v
  | .greater p v => comparison ">" p "value" v
  | .less p v => comparison "<" p "value" v
  | .oneOf p vs => comparison "IN" p "values" (.arr vs)
  | .like p pattern => comparison "LIKE" p "value" (.str pattern)

def toItems : List FilterRule → List Json
  | [] => []
  | rule :: rules => toJson rule :: toItems rules

end

def kinds : List String := ["AND", "OR", "=", ">", "<", "IN", "LIKE"]

def leaf? (kind : String) (fs : Fields) : Option FilterRule := do
  let property ← Fields.required? ["property"] Json.str? fs
  match kind with
  | "=" => return .equals property (← Fields.required? ["value"] some fs)
  | ">" => return .greater property (← Fields.required? ["value"] some fs)
  | "<" => return .less property (← Fields.required? ["value"] some fs)
  | "IN" => return .oneOf property (← Fields.required? ["values"] Json.items? fs)
  | "LIKE" => return .like property (← Fields.required? ["value"] Json.str? fs)
  | _ => none

mutual

def read? (nested : Bool) : Json → Option FilterRule
  | .obj ms =>
    match Fields.required? ["operation"] (Fields.kind? kinds nested) ms with
    | some "AND" => (childrenOf? ms).map .all
    | some "OR" => (childrenOf? ms).map .any
    | some kind => leaf? kind ms
    | none => none
  | .arr [kind, .arr items] =>
    match Fields.kind? kinds nested kind with
    | some "AND" => (readItems? items).map .all
    | some "OR" => (readItems? items).map .any
    | _ => none
  | .arr [kind, property, value] => do
    let kind ← Fields.kind? kinds nested kind
    leaf? kind [("property", property), (if kind = "IN" then "values" else "value", value)]
  | _ => none

def readItems? : List Json → Option (List FilterRule)
  | [] => some []
  | j :: js => do
    let rule ← read? true j
    let rules ← readItems? js
    return rule :: rules

def childrenOf? : List (String × Json) → Option (List FilterRule)
  | [] => none
  | (name, j) :: ms =>
    if name = "children" then
      if Fields.given ["children"] ms = [] then
        match j with
        | .arr items => readItems? items
        | _ => none
      else none
    else childrenOf? ms

end

def ofJson? (j : Json) : Option FilterRule := read? false j

def listOfJson? (j : Json) : Option (List FilterRule) := j.listOf? ofJson?

end FilterRule
end RecordEditing
