import RecordEditing.Json.Basic

/-!
JSON text without spaces. Strings escape quotes, backslashes and control characters, and nothing
else.
-/
namespace RecordEditing
namespace Json

def hexPair (n : Nat) : List Char := [Nat.digitChar (n / 16), Nat.digitChar (n % 16)]

def escaped (c : Char) : List Char :=
  if c = '"' then ['\\', '"']
  else if c = '\\' then ['\\', '\\']
  else if c = '\x08' then ['\\', 'b']
  else if c = '\x0c' then ['\\', 'f']
  else if c = '\n' then ['\\', 'n']
  else if c = '\r' then ['\\', 'r']
  else if c = '\t' then ['\\', 't']
  else if c.toNat < 0x20 then ['\\', 'u', '0', '0'] ++ hexPair c.toNat
  else [c]

def literal (cs : List Char) : List Char := '"' :: (cs.flatMap escaped ++ ['"'])

mutual

def chars : Json → List Char
  | .null => "null".toList
  | .bool true => "true".toList
  | .bool false => "false".toList
  | .num n => n.text
  | .str s => literal s.toList
  | .arr [] => ['[', ']']
  | .arr (x :: xs) => '[' :: (chars x ++ itemChars xs)
  | .obj [] => ['\x7b', '\x7d']
  | .obj ((k, x) :: ms) => '\x7b' :: (literal k.toList ++ ':' :: (chars x ++ memberChars ms))

def itemChars : List Json → List Char
  | [] => [']']
  | x :: xs => ',' :: (chars x ++ itemChars xs)

def memberChars : List (String × Json) → List Char
  | [] => ['\x7d']
  | (k, x) :: ms => ',' :: (literal k.toList ++ ':' :: (chars x ++ memberChars ms))

end

def text (j : Json) : String := String.ofList j.chars

end Json
end RecordEditing
