/-!
Arguments of a command line. An option starts with two hyphens, and its value follows after an equals
sign or as the next argument; after two hyphens alone no options follow.
-/
namespace RecordEditing

structure Arguments where
  positional : List String := []
  options : List (String × String) := []
  deriving DecidableEq, Repr

namespace Arguments

def option? (argument : String) : Option (String × Option String) :=
  match argument.toList with
  | '-' :: '-' :: cs =>
    let name := String.ofList (cs.takeWhile (· ≠ '='))
    match cs.dropWhile (· ≠ '=') with
    | [] => some (name, none)
    | _ :: value => some (name, some (String.ofList value))
  | _ => none

def withOption (name value : String) (a : Arguments) : Arguments :=
  { a with options := (name, value) :: a.options }

def withPositional (argument : String) (a : Arguments) : Arguments :=
  { a with positional := argument :: a.positional }

/-- Nothing if the last option lacks its value. -/
def ofList? : List String → Option Arguments
  | [] => some {}
  | argument :: rest =>
    if argument = "--" then some { positional := rest }
    else
      match option? argument with
      | none => (ofList? rest).map (withPositional argument)
      | some (name, some value) => (ofList? rest).map (withOption name value)
      | some (name, none) =>
        match rest with
        | [] => none
        | value :: rest => (ofList? rest).map (withOption name value)

def get? (a : Arguments) (name : String) : Option String :=
  (a.options.find? (·.1 == name)).map (·.2)

end Arguments
end RecordEditing
