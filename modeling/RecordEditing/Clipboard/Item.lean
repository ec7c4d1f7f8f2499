import RecordEditing.Record.Id

/-!
What can lie on the clipboard: a record to be moved or copied, or the intent to create one.
-/
namespace RecordEditing

inductive ClipboardAction where
  | cut
  | copy
  | deepCopy
  | create
  deriving DecidableEq, Repr

namespace ClipboardAction

def word : ClipboardAction → String
  | .cut => "cut"
  | .copy => "copy"
  | .deepCopy => "deep_copy"
  | .create => "create"

def ofWord? : String → Option ClipboardAction
  | "cut" => some .cut
  | "copy" => some .copy
  | "deep_copy" => some .deepCopy
  | "create" => some .create
  | _ => none

end ClipboardAction

inductive ClipboardItem where
  | cut (ref : RecordRef)
  | copy (ref : RecordRef)
  | deepCopy (ref : RecordRef)
  | create (provider : String) (parent : Option RecordRef)
  deriving DecidableEq, Repr

namespace ClipboardItem

def action : ClipboardItem → ClipboardAction
  | .cut _ => .cut
  | .copy _ => .copy
  | .deepCopy _ => .deepCopy
  | .create _ _ => .create

def ref? : ClipboardItem → Option RecordRef
  | .cut ref => some ref
  | .copy ref => some ref
  | .deepCopy ref => some ref
  | .create _ _ => none

def parent? : ClipboardItem → Option RecordRef
  | .create _ parent => parent
  | _ => none

def provider : ClipboardItem → String
  | .cut ref => ref.provider
  | .copy ref => ref.provider
  | .deepCopy ref => ref.provider
  | .create provider _ => provider

/-- The key of an item: the action and the record, or the action, the provider and the parent. -/
def key : ClipboardItem → String
  | .create provider parent => "create::" ++ provider ++ "::" ++ (parent.map RecordRef.text).getD ""
  | .cut ref => "cut::" ++ ref.text
  | .copy ref => "copy::" ++ ref.text
  | .deepCopy ref => "deep_copy::" ++ ref.text

def toJson : ClipboardItem → Json
  | .create provider parent =>
    .obj ([("action", .str "create"), ("provider", .str provider)] ++
      Fields.optionalMember "parent" (parent.map RecordRef.toJson))
  | .cut ref => .obj [("action", .str "cut"), ("model", ref.toJson)]
  | .copy ref => .obj [("action", .str "copy"), ("model", ref.toJson)]
  | .deepCopy ref => .obj [("action", .str "deep_copy"), ("model", ref.toJson)]

def fieldNames : ClipboardAction → List String
  | .create => ["provider", "parent"]
  | _ => ["model"]

def ofFields? (fs : Fields) : ClipboardAction → Option ClipboardItem
  | .create => do
    let provider ← Fields.required? ["provider"] Json.str? fs
    return .create provider (← Fields.optional? ["parent"] RecordRef.ofJson? fs)
  | .cut => (Fields.required? ["model"] RecordRef.ofJson? fs).map .cut
  | .copy => (Fields.required? ["model"] RecordRef.ofJson? fs).map .copy
  | .deepCopy => (Fields.required? ["model"] RecordRef.ofJson? fs).map .deepCopy

def ofJson? : Json → Option ClipboardItem
  | .obj ms => do
    let word ← Fields.required? ["action"] Json.str? ms
    ofFields? ms (← ClipboardAction.ofWord? word)
  | .arr (word :: items) => do
    let action ← word.str?.bind ClipboardAction.ofWord?
    ofFields? (← Fields.ofJson? (fieldNames action) (.arr items)) action
  | _ => none

end ClipboardItem
end RecordEditing
