/-!
What can go wrong with records and their providers.
-/
namespace RecordEditing

inductive RefFault where
  | noMark
  | emptyProvider
  | invalidId
  deriving DecidableEq, Repr

def RefFault.message : RefFault → String
  | .noMark => "expected `<provider>::<id>`"
  | .emptyProvider => "provider name is empty"
  | .invalidId => "id must be an integer or a JSON string"

inductive RecordError where
  | invalidRef (text : String) (fault : RefFault)
  | unknownProvider (name : String)
  /-- A record was to be saved by a provider that is not its own. -/
  | foreignRecord (provider owner : String)
  deriving DecidableEq, Repr

def RecordError.message : RecordError → String
  | .invalidRef text fault => "model id `" ++ text ++ "` is invalid: " ++ fault.message
  | .unknownProvider name => "no data provider registered for `" ++ name ++ "`"
  | .foreignRecord provider owner =>
    "data provider `" ++ provider ++ "` failed: cannot save a model of provider `" ++ owner ++ "`"

end RecordEditing
