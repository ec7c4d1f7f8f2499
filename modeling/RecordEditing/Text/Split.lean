import RecordEditing.Text.Blank

/-!
Cutting texts: at separators, at every occurrence of a character, and replacing occurrences of a
word.
-/
namespace RecordEditing

/-- The pieces between the characters that separate; one more than there are separators. -/
def splitWhere (separates : Char → Bool) : List Char → List (List Char)
  | [] => [[]]
  | c :: cs =>
    if separates c then [] :: splitWhere separates cs
    else
      match splitWhere separates cs with
      | [] => [[c]]
      | piece :: pieces => (c :: piece) :: pieces

def tokens (separates : Char → Bool) (cs : List Char) : List (List Char) :=
  ((splitWhere separates cs).map trim).filter fun t => !t.isEmpty

/-- What stands before and after each occurrence of a character, the first occurrence first. -/
def cutsAt (mark : Char) : List Char → List (List Char × List Char)
  | [] => []
  | c :: cs =>
    let later := (cutsAt mark cs).map fun (before, after) => (c :: before, after)
    if c = mark then ([], cs) :: later else later

/-- Writes `new` for each occurrence of a word, from left to right and without overlaps; `skip`
characters still belong to the occurrence before. -/
def replaceFrom (word new : List Char) (skip : Nat) : List Char → List Char
  | [] => []
  | c :: cs =>
    if skip ≠ 0 then replaceFrom word new (skip - 1) cs
    else if word.isPrefixOf (c :: cs) then new ++ replaceFrom word new (word.length - 1) cs
    else c :: replaceFrom word new 0 cs

def replaceAll (word new cs : List Char) : List Char := replaceFrom word new 0 cs

theorem replaceFrom_append (word new front cs : List Char) :
    replaceFrom word new front.length (front ++ cs) = replaceAll word new cs := by
  induction front with
  | nil => rfl
  | cons c front ih =>
    rw [List.cons_append, replaceFrom, if_pos (by simp)]
    exact ih

theorem replaceAll_append {word : List Char} (nonempty : word ≠ []) (new cs : List Char) :
    replaceAll word new (word ++ cs) = new ++ replaceAll word new cs := by
  obtain ⟨c, word, rfl⟩ := List.exists_cons_of_ne_nil nonempty
  have here : (c :: word).isPrefixOf (c :: (word ++ cs)) = true :=
    List.isPrefixOf_iff_prefix.mpr ⟨cs, rfl⟩
  rw [List.cons_append, replaceAll, replaceFrom, if_neg (by simp), if_pos here]
  exact congrArg (new ++ ·) (replaceFrom_append (c :: word) new word cs)

theorem replaceAll_cons {word cs : List Char} {c : Char} (new : List Char)
    (other : ¬ word <+: c :: cs) :
    replaceAll word new (c :: cs) = c :: replaceAll word new cs := by
  have elsewhere : ¬ word.isPrefixOf (c :: cs) = true := mt List.isPrefixOf_iff_prefix.mp other
  rw [replaceAll, replaceFrom, if_neg (by simp), if_neg elsewhere]
  rfl

def dropSuffix (word cs : List Char) : List Char :=
  if word.isSuffixOf cs then cs.take (cs.length - word.length) else cs

end RecordEditing
