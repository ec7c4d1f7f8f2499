import RecordEditing.Json.Fields
import RecordEditing.Palette.Condition

/-!
How conditions are written: for people, and as JSON with the kind under `type`. Weight 1 and loose
comparison go without saying.
-/
namespace RecordEditing

def Conjunction.word : Conjunction → String
  | .all => "and"
  | .any => "or"

def Conjunction.ofWord? : String → Option Conjunction
  | "and" => some .all
  | "or" => some .any
  | _ => none

namespace Condition

mutual

def text : Condition → String
  | .always => "default"
  | .constant v _ => if v then "true" else "false"
  | .isSet p _ _ => p
  | .isUnset p _ _ => "!" ++ p
  | .equals p v typed _ => p ++ (if typed then " === " else " == ") ++ v.text
  | .not c => "!(" ++ text c ++ ")"
  | .chain .all ms => "(" ++ groupText " & " ms ++ ")"
  | .chain .any ms => "(" ++ groupText " | " ms ++ ")"

def groupText (between : String) : List Condition → String
  | [] => ""
  | [c] => text c
  | c :: cs => text c ++ between ++ groupText between cs

end

def typedMember (typed : Bool) : Fields := if typed then [("strict", .bool true)] else []

def weightMember (w : UInt32) : Fields := if w = 1 then [] else [("weight", .int w.toNat)]

def tagged (kind : String) (fs : Fields) : Json := .obj (("type", .str kind) :: fs)

def onProperty (kind property : String) (typed : Bool) (w : UInt32) : Json :=
  tagged kind (("property", .str property) :: (typedMember typed ++ weightMember w))

mutual

def toJson : Condition → Json
  | .always => tagged "default" []
  | .constant v w => tagged "boolean" (("value", .bool v) :: weightMember w)
  | .isSet p typed w => onProperty "property_true" p typed w
  | .isUnset p typed w => onProperty "property_false" p typed w
  | .equals p v typed w =>
    tagged "property_value"
      (("property", .str p) :: ("value", v) :: (typedMember typed ++ weightMember w))
  | .not c => tagged "not" [("condition", toJson c)]
  | .chain j ms =>
    tagged "chain" [("conjunction", .str j.word), ("conditions", .arr (toItems ms))]

def toItems : List Condition → List Json
  | [] => []
  | c :: cs => toJson c :: toItems cs

end

def kinds : List String :=
  ["default", "boolean", "property_true", "property_false", "property_value", "not", "chain"]

def weightOf? (fs : Fields) : Option UInt32 := Fields.withDefault? ["weight"] 1 Json.word? fs

def typedOf? (fs : Fields) : Option Bool := Fields.withDefault? ["strict"] false Json.bool? fs

def propertyOf? (fs : Fields) : Option String := Fields.required? ["property"] Json.str? fs

def conjunctionOf? (fs : Fields) : Option Conjunction :=
  Fields.withDefault? ["conjunction"] .all (Json.choice? true Conjunction.ofWord?) fs

def leaf? (kind : String) (fs : Fields) : Option Condition :=
  match kind with
  | "default" => some .always
  | "boolean" => do
    return .constant (← Fields.required? ["value"] Json.bool? fs) (← weightOf? fs)
  | "property_true" => do return .isSet (← propertyOf? fs) (← typedOf? fs) (← weightOf? fs)
  | "property_false" => do return .isUnset (← propertyOf? fs) (← typedOf? fs) (← weightOf? fs)
  | "property_value" => do
    let value ← Fields.required? ["value"] some fs
    return .equals (← propertyOf? fs) value (← typedOf? fs) (← weightOf? fs)
  | _ => none

def leafFields : String → List String
  | "default" => []
  | "boolean" => ["value", "weight"]
  | "property_value" => ["property", "value", "strict", "weight"]
  | _ => ["property", "strict", "weight"]

def leafOfItems? (kind : String) (items : List Json) : Option Condition :=
  (Fields.ofJson? (leafFields kind) (.arr items)).bind (leaf? kind)

mutual

def read? (nested : Bool) : Json → Option Condition
  | .obj ms =>
    match Fields.required? ["type"] (Fields.kind? kinds nested) ms with
    | some "not" => (innerOf? ms).map .not
    | some "chain" => do
      let j ← conjunctionOf? ms
      return .chain j (← membersOf? ms)
    | some kind => leaf? kind ms
    | none => none
  | .arr [kind, a] =>
    match Fields.kind? kinds nested kind with
    | some "not" => (read? true a).map .not
    | some "chain" => (conjunctionOf? [("conjunction", a)]).map (.chain · [])
    | some kind => leafOfItems? kind [a]
    | none => none
  | .arr [kind, a, .arr items] =>
    match Fields.kind? kinds nested kind with
    | some "chain" => do
      let j ← conjunctionOf? [("conjunction", a)]
      return .chain j (← readItems? items)
    | some kind => leafOfItems? kind [a, .arr items]
    | none => none
  | .arr (kind :: items) =>
    match Fields.kind? kinds nested kind with
    | some "not" => none
    | some "chain" => if items.isEmpty then some (.chain .all []) else none
    | some kind => leafOfItems? kind items
    | none => none
  | _ => none

def readItems? : List Json → Option (List Condition)
  | [] => some []
  | j :: js => do
    let c ← read? true j
    let cs ← readItems? js
    return c :: cs

def innerOf? : List (String × Json) → Option Condition
  | [] => none
  | (name, j) :: ms =>
    if name = "condition" then
      if Fields.given ["condition"] ms = [] then read? true j else none
    else innerOf? ms

def membersOf? : List (String × Json) → Option (List Condition)
  | [] => some []
  | (name, j) :: ms =>
    if name = "conditions" then
      if Fields.given ["conditions"] ms = [] then
        match j with
        | .arr items => readItems? items
        | _ => none
      else none
    else membersOf? ms

end

def ofJson? (j : Json) : Option Condition := read? false j

end Condition
end RecordEditing
