import RecordEditing.Text.VisibleTable

/-!
Text in double quotes for people to read: every character that would not be seen, or not seen as
itself, is written as an escape.
-/
namespace RecordEditing

def isVisible (c : Char) : Bool := !inRanges shapelessRanges c && !inRanges extendingRanges c

def hexText (n : Nat) : List Char := Nat.toDigits 16 n

def quotedChar (c : Char) : List Char :=
  match c with
  | '\x00' => ['\\', '0']
  | '\t' => ['\\', 't']
  | '\n' => ['\\', 'n']
  | '\r' => ['\\', 'r']
  | '"' => ['\\', '"']
  | '\\' => ['\\', '\\']
  | c => if isVisible c then [c] else ['\\', 'u', '\x7b'] ++ hexText c.toNat ++ ['\x7d']

def quoted (s : String) : String :=
  String.ofList (['"'] ++ s.toList.flatMap quotedChar ++ ['"'])

end RecordEditing
