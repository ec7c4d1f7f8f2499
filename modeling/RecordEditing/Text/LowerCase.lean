import RecordEditing.Text.CaseTable

/-!
Lower case for whole texts. Two letters need more than the table: a capital sigma becomes a final
sigma at the end of a word, and a dotted capital I becomes two characters.
-/
namespace RecordEditing

def CaseRun.has (r : CaseRun) (code : Nat) : Bool :=
  r.first ≤ code && code ≤ r.last && (code - r.first) % r.step == 0

/-- The lower-case form of one character, regardless of its neighbours. -/
def lowerChar (c : Char) : Char :=
  match lowerRuns.find? (·.has c.toNat) with
  | some r => Char.ofNat (c.toNat + r.shift).toNat
  | none => c

def meetsCased (cs : List Char) : Bool :=
  match cs.dropWhile (inRanges caseIgnorableRanges) with
  | [] => false
  | c :: _ => inRanges casedRanges c

/-- Lower case of the text that is left, `before` holding the characters already passed, the last
one first. -/
def lowerFrom (before : List Char) : List Char → List Char
  | [] => []
  | c :: cs =>
    let here :=
      if c = 'Σ' then [if meetsCased before && !meetsCased cs then 'ς' else 'σ']
      else if c = 'İ' then ['i', '\u0307']
      else [lowerChar c]
    here ++ lowerFrom (c :: before) cs

def lowerCase (cs : List Char) : List Char := lowerFrom [] cs

end RecordEditing
