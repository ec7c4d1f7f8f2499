import RecordEditing.Json.Document

/-!
Reading JSON text. The readers work on the characters that are left and return what they read with
the rest. A string may name UTF-16 code units; pairs of surrogates are joined, and a string with an
unpaired one has no value.
-/
namespace RecordEditing

inductive StringPart where
  | char (c : Char)
  | unit (n : Nat)

namespace StringPart

def join? : List StringPart → Option (List Char)
  | [] => some []
  | .char c :: rest => (join? rest).map (c :: ·)
  | .unit n :: rest =>
    if 0xd800 ≤ n ∧ n < 0xdc00 then
      match rest with
      | .unit m :: rest =>
        if 0xdc00 ≤ m ∧ m < 0xe000 then
          (join? rest).map (Char.ofNat (0x10000 + (n - 0xd800) * 0x400 + (m - 0xdc00)) :: ·)
        else none
      | _ => none
    else if 0xdc00 ≤ n ∧ n < 0xe000 then none
    else (join? rest).map (Char.ofNat n :: ·)

end StringPart

namespace JsonText

def isSpace (c : Char) : Bool := c = ' ' || c = '\n' || c = '\t' || c = '\r'

def skipSpace (cs : List Char) : List Char := cs.dropWhile isSpace

def hexValue? (c : Char) : Option Nat :=
  if '0' ≤ c ∧ c ≤ '9' then some (c.toNat - '0'.toNat)
  else if 'a' ≤ c ∧ c ≤ 'f' then some (c.toNat - 'a'.toNat + 10)
  else if 'A' ≤ c ∧ c ≤ 'F' then some (c.toNat - 'A'.toNat + 10)
  else none

def escape? (c : Char) : Option Char :=
  match c with
  | '"' => some '"'
  | '\\' => some '\\'
  | '/' => some '/'
  | 'b' => some '\x08'
  | 'f' => some '\x0c'
  | 'n' => some '\n'
  | 'r' => some '\r'
  | 't' => some '\t'
  | _ => none

def stringParts? : List Char → Option (List StringPart × List Char)
  | [] => none
  | '"' :: cs => some ([], cs)
  | '\\' :: 'u' :: a :: b :: c :: d :: cs => do
    let a ← hexValue? a
    let b ← hexValue? b
    let c ← hexValue? c
    let d ← hexValue? d
    let (parts, rest) ← stringParts? cs
    return (.unit (((a * 16 + b) * 16 + c) * 16 + d) :: parts, rest)
  | '\\' :: e :: cs => do
    let e ← escape? e
    let (parts, rest) ← stringParts? cs
    return (.char e :: parts, rest)
  | c :: cs =>
    if c = '\\' ∨ c.toNat < 0x20 then none
    else (stringParts? cs).map fun (parts, rest) => (.char c :: parts, rest)

def string? (cs : List Char) : Option (Option String × List Char) :=
  (stringParts? cs).map fun (parts, rest) => ((StringPart.join? parts).map String.ofList, rest)

def digits (cs : List Char) : List Char × List Char :=
  (cs.takeWhile Char.isDigit, cs.dropWhile Char.isDigit)

def fraction? : List Char → Option (List Char × List Char)
  | '.' :: cs => if (digits cs).1 = [] then none else some (digits cs)
  | cs => some ([], cs)

def exponent? : List Char → Option (Option Int × List Char)
  | e :: cs =>
    if e = 'e' ∨ e = 'E' then
      let (negative, cs) := splitSign cs
      let (ds, rest) := digits cs
      if ds = [] then none
      else some (some (if negative then -digitsValue ds else digitsValue ds), rest)
    else some (none, e :: cs)
  | [] => some (none, [])

/-- A numeral: no plus sign, and no zero before other whole digits. -/
def numeral? (cs : List Char) : Option (Numeral × List Char) := do
  let (negative, cs) := match cs with
    | '-' :: cs => (true, cs)
    | cs => (false, cs)
  let (whole, cs) := digits cs
  if whole = [] ∨ (whole.head? = some '0' ∧ whole.length ≠ 1) then none
  else
    let (fraction, cs) ← fraction? cs
    let (exponent, cs) ← exponent? cs
    return (⟨negative, whole, fraction, exponent⟩, cs)

def word? : List Char → List Char → Option (List Char)
  | [], cs => some cs
  | w :: ws, c :: cs => if w = c then word? ws cs else none
  | _ :: _, [] => none

mutual

/-- One document, blanks before it skipped. Two steps of fuel are spent for each character. -/
def document? : Nat → List Char → Option (Document × List Char)
  | 0, _ => none
  | fuel + 1, cs =>
    match skipSpace cs with
    | 'n' :: cs => (word? "ull".toList cs).map (Document.null, ·)
    | 't' :: cs => (word? "rue".toList cs).map (Document.bool true, ·)
    | 'f' :: cs => (word? "alse".toList cs).map (Document.bool false, ·)
    | '"' :: cs => (string? cs).map fun (s, rest) => (.str s, rest)
    | '[' :: cs =>
      match skipSpace cs with
      | ']' :: cs => some (.arr [], cs)
      | cs => (items? fuel cs).map fun (ds, rest) => (.arr ds, rest)
    | '\x7b' :: cs =>
      match skipSpace cs with
      | '\x7d' :: cs => some (.obj [], cs)
      | cs => (members? fuel cs).map fun (ms, rest) => (.obj ms, rest)
    | cs => (numeral? cs).map fun (n, rest) => (.num (Number.ofNumeral? n), rest)

def items? : Nat → List Char → Option (List Document × List Char)
  | 0, _ => none
  | fuel + 1, cs => do
    let (d, cs) ← document? fuel cs
    match skipSpace cs with
    | ']' :: cs => return ([d], cs)
    | ',' :: cs =>
      let (ds, rest) ← items? fuel cs
      return (d :: ds, rest)
    | _ => none

def members? : Nat → List Char → Option (List (Option String × Document) × List Char)
  | 0, _ => none
  | fuel + 1, cs =>
    match skipSpace cs with
    | '"' :: cs => do
      let (name, cs) ← string? cs
      match skipSpace cs with
      | ':' :: cs =>
        let (d, cs) ← document? fuel cs
        match skipSpace cs with
        | '\x7d' :: cs => return ([(name, d)], cs)
        | ',' :: cs =>
          let (ms, rest) ← members? fuel cs
          return ((name, d) :: ms, rest)
        | _ => none
      | _ => none
    | _ => none

end

end JsonText

def Document.ofText? (text : String) : Option Document :=
  let cs := text.toList
  match JsonText.document? (2 * cs.length + 2) cs with
  | some (d, rest) => if JsonText.skipSpace rest = [] then some d else none
  | none => none

def Json.ofText? (text : String) : Option Json := (Document.ofText? text).bind Document.value?

def JsonText.stringOnly? (cs : List Char) : Option String :=
  match skipSpace cs with
  | '"' :: cs =>
    match string? cs with
    | some (some s, rest) => if skipSpace rest = [] then some s else none
    | _ => none
  | _ => none

end RecordEditing
