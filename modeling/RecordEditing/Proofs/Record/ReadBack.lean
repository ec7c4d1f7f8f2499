import RecordEditing.Proofs.Record.Address
import RecordEditing.Proofs.Record.Written

/-!
Reading addresses back. A provider's name ends at the first `::`, so an address is read back from its
written form if its provider has a name without that mark, which also does not end in half of it; all
others cannot be read, and none is read as another one.
-/
namespace RecordEditing
namespace RecordRef

/-- The text does not contain the mark `::` and does not end in half of it. -/
def Unmarked (cs : List Char) : Prop := ¬ [':', ':'] <:+: cs ∧ ¬ [':'] <:+ cs

instance (cs : List Char) : Decidable (Unmarked cs) :=
  inferInstanceAs (Decidable (¬ [':', ':'] <:+: cs ∧ ¬ [':'] <:+ cs))

variable {c : Char} {cs front rest : List Char}

theorem unmarked_nil : Unmarked [] := by decide

theorem unmarked_cons_iff :
    Unmarked (c :: cs) ↔ Unmarked cs ∧ ¬ (c = ':' ∧ cs.headD ':' = ':') := by
  unfold Unmarked
  rw [List.infix_cons_iff, List.suffix_cons_iff]
  cases cs with
  | nil => simpa using not_congr eq_comm
  | cons d cs =>
    simp only [List.cons_prefix_cons, List.nil_prefix, and_true, List.cons.injEq, reduceCtorEq,
      and_false, false_or, not_or, not_and, List.headD_cons]
    grind

theorem begins_iff {tail : List Char} :
    (∃ ds, front ++ ':' :: tail = ':' :: ds) ↔ front.headD ':' = ':' := by
  cases front <;> simp

theorem splitMark_of_unmarked (unmarked : Unmarked front) :
    splitMark (front ++ ':' :: ':' :: rest) = some (front, rest) := by
  induction front with
  | nil => rfl
  | cons c front ih =>
    obtain ⟨later, first⟩ := unmarked_cons_iff.mp unmarked
    rw [List.cons_append, splitMark, ih later]
    · rfl
    · intro ds colon begins
      exact first ⟨colon, begins_iff.mp ⟨ds, begins⟩⟩

theorem splitMark_eq_some (split : splitMark cs = some (front, rest)) :
    cs = front ++ ':' :: ':' :: rest ∧ Unmarked front := by
  induction cs using splitMark.induct generalizing front with
  | case1 cs =>
    cases split
    exact ⟨rfl, unmarked_nil⟩
  | case2 c cs other ih =>
    rw [splitMark.eq_2 c cs other] at split
    obtain ⟨⟨more, _⟩, later, same⟩ := Option.map_eq_some_iff.mp split
    cases same
    obtain ⟨rfl, unmarked⟩ := ih later
    refine ⟨rfl, unmarked_cons_iff.mpr ⟨unmarked, ?_⟩⟩
    rintro ⟨colon, first⟩
    obtain ⟨ds, begins⟩ := begins_iff.mpr first
    exact other ds colon begins
  | case3 => cases split

theorem readInt?_of_other (member : c ∈ cs) (minus : c ≠ '-') (plus : c ≠ '+')
    (other : c.isDigit = false) : readInt? cs = none := by
  have later : c ∈ (splitSign cs).2 := by
    unfold splitSign
    split
    · exact (List.mem_cons.mp member).resolve_left minus
    · exact (List.mem_cons.mp member).resolve_left plus
    · exact member
  unfold readInt?
  apply if_pos
  right
  rw [Bool.not_eq_true', List.all_eq_false]
  exact ⟨c, later, by rw [other]; decide⟩

theorem splitSign_toDigits (n : Nat) : splitSign (Nat.toDigits 10 n) = (false, Nat.toDigits 10 n) := by
  unfold splitSign
  split
  · next same =>
    have sign := isDigit_toDigits n '-' (same ▸ List.mem_cons_self)
    cases sign
  · next same =>
    have sign := isDigit_toDigits n '+' (same ▸ List.mem_cons_self)
    cases sign
  · rfl

theorem readInt?_of_digits {negative : Bool} {n : Nat} {i : Int}
    (sign : splitSign cs = (negative, Nat.toDigits 10 n))
    (value : (if negative then -(n : Int) else n) = i) :
    readInt? cs = if RecordId.fits i then some i else none := by
  have digits : (Nat.toDigits 10 n).all Char.isDigit = true :=
    List.all_eq_true.mpr (isDigit_toDigits n)
  unfold readInt?
  simp only [sign, digitsValue_toDigits, value]
  rw [if_neg]
  simp [digits, Nat.toDigits_ne_nil]

theorem readInt?_intText (i : Int) :
    readInt? (Number.intText i) = if RecordId.fits i then some i else none := by
  unfold Number.intText
  split
  · next negative =>
    have value : -(i.natAbs : Int) = i := by omega
    exact readInt?_of_digits rfl value
  · next positive =>
    have value : (i.natAbs : Int) = i := by omega
    exact readInt?_of_digits (splitSign_toDigits i.natAbs) value

theorem readId?_idChars {id : RecordId} (valid : id.Valid) : readId? (idChars id) = some id := by
  cases id with
  | int i =>
    unfold readId? idChars
    rw [readInt?_intText, if_pos (RecordId.fits_of_valid valid)]
  | text s =>
    have quote : '"' ∈ Json.literal s.toList := List.mem_cons_self
    unfold readId? idChars
    rw [readInt?_of_other quote (by decide) (by decide) (by decide), JsonText.stringOnly?_literal,
      String.ofList_toList]
    rfl

/-- An integer beyond 64 bits is written but not read: it is no string either. -/
theorem valid_of_readId? {id other : RecordId} (read : readId? (idChars id) = some other) :
    id.Valid := by
  cases id with
  | text s => exact RecordId.valid_text s
  | int i =>
    unfold readId? idChars at read
    rw [readInt?_intText] at read
    split at read
    · next found =>
      rw [Option.ite_none_right_eq_some] at found
      exact RecordId.valid_int found.1
    · next missing =>
      obtain ⟨s, string, _⟩ := Option.map_eq_some_iff.mp read
      obtain ⟨lead, body, tail, same, _⟩ := JsonText.stringOnly?_eq_some string
      have quote : '"' ∈ Number.intText i := by simp [same]
      exact absurd quote (Number.not_mem_intText (by decide) (by decide) i)

theorem literal_ne_int {body tail u : List Char} (blank : ∀ c ∈ tail, JsonText.isSpace c = true)
    (i : Int) : body ++ '"' :: tail ≠ u ++ Number.intText i := by
  intro same
  have quote : '"' ∉ Number.intText i := Number.not_mem_intText (by decide) (by decide) i
  rcases List.append_eq_append_iff.mp same with ⟨m, _, inside⟩ | ⟨m, _, inside⟩
  · obtain ⟨c, member⟩ := List.exists_mem_of_ne_nil _ (Number.intText_ne_nil i)
    have within : c ∈ '"' :: tail := inside ▸ List.mem_append_right m member
    rcases List.mem_cons.mp within with rfl | last
    · exact quote member
    · rcases Number.mem_intText member with rfl | digit
      · exact absurd (blank '-' last) (by decide)
      · rw [JsonText.isDigit_of_isSpace (blank c last)] at digit
        cases digit
  · exact quote (inside ▸ List.mem_append_right m List.mem_cons_self)

theorem literal_ne_text {body tail u more : List Char} (escaped : QuotesEscaped body)
    (blank : ∀ c ∈ tail, JsonText.isSpace c = true) :
    body ++ '"' :: tail ≠ (u ++ [':']) ++ '"' :: (more ++ ['"']) := by
  intro same
  have quote : '"' ∉ tail := fun member => absurd (blank '"' member) (by decide)
  rcases List.append_eq_append_iff.mp same with ⟨m, _, inside⟩ | ⟨m, early, inside⟩
  · apply quote
    cases m with
    | nil => simp [(List.cons_eq_cons.mp inside).2]
    | cons a m => simp [(List.cons_eq_cons.mp inside).2]
  · cases m with
    | nil => exact quote (by simp [← (List.cons_eq_cons.mp inside).2])
    | cons a m =>
      obtain ⟨rfl, _⟩ := List.cons_eq_cons.mp inside
      -- The second string begins inside of the first one, without a backslash before its quote.
      obtain ⟨w, backslash⟩ := escaped _ m early
      exact absurd (List.append_inj' backslash rfl).2 (by decide)

theorem readId?_after_colon (u : List Char) (id : RecordId) :
    readId? (u ++ ':' :: idChars id) = none := by
  have colon : ':' ∈ u ++ ':' :: idChars id := List.mem_append_right u List.mem_cons_self
  unfold readId?
  rw [readInt?_of_other colon (by decide) (by decide) (by decide)]
  cases read : JsonText.stringOnly? (u ++ ':' :: idChars id) with
  | none => rfl
  | some s =>
    obtain ⟨lead, body, tail, same, before, escaped, blank⟩ := JsonText.stringOnly?_eq_some read
    -- The colon is neither a blank in front of the string nor the quote that opens it.
    have inside : ∃ m, body ++ '"' :: tail = (m ++ [':']) ++ idChars id := by
      rcases List.append_eq_append_iff.mp same with ⟨m, rfl, here⟩ | ⟨m, rfl, here⟩
      · cases m with
        | nil => exact absurd (List.cons_eq_cons.mp here).1 (by decide)
        | cons a m =>
          obtain ⟨rfl, _⟩ := List.cons_eq_cons.mp here
          exact absurd (before ':' (by simp)) (by decide)
      · cases m with
        | nil => exact absurd (List.cons_eq_cons.mp here).1 (by decide)
        | cons a m => exact ⟨m, by simpa using (List.cons_eq_cons.mp here).2⟩
    obtain ⟨m, rest⟩ := inside
    cases id with
    | int i => exact absurd rest (literal_ne_int blank i)
    | text s => exact absurd rest (literal_ne_text escaped blank)

theorem ofText_eq_ok_iff {text : String} {ref : RecordRef} :
    ofText text = .ok ref ↔ ∃ rest, splitMark text.toList = some (ref.provider.toList, rest) ∧
      ref.provider ≠ "" ∧ readId? rest = some ref.id := by
  unfold ofText
  constructor
  · intro read
    split at read
    · cases read
    · cases read
    · next provider rest nonempty split =>
      split at read
      · next id found =>
        cases read
        refine ⟨rest, by rw [String.toList_ofList]; exact split, ?_, found⟩
        intro empty
        exact nonempty (by simpa using congrArg String.toList empty)
      · cases read
  · rintro ⟨rest, split, nonempty, found⟩
    rw [split]
    cases name : ref.provider.toList with
    | nil => exact absurd (String.toList_eq_nil_iff.mp name) nonempty
    | cons c cs =>
      simp only [found, ← name, String.ofList_toList]

theorem ofText_text {ref : RecordRef} (valid : ref.id.Valid) (nonempty : ref.provider ≠ "")
    (unmarked : Unmarked ref.provider.toList) : ofText ref.text = .ok ref := by
  apply ofText_eq_ok_iff.mpr
  refine ⟨idChars ref.id, ?_, nonempty, readId?_idChars valid⟩
  unfold text chars
  rw [String.toList_ofList]
  exact splitMark_of_unmarked unmarked

theorem unmarked_of_ofText {text : String} {ref : RecordRef} (read : ofText text = .ok ref) :
    ref.provider ≠ "" ∧ Unmarked ref.provider.toList := by
  obtain ⟨rest, split, nonempty, _⟩ := ofText_eq_ok_iff.mp read
  exact ⟨nonempty, (splitMark_eq_some split).2⟩

/-- Where a name that the mark ends is cut off before a text with a mark in it, it is what stands
before that mark, or else the rest has the mark too, or half of it in front. -/
theorem cut_at_mark {front rest name tail : List Char} (unmarked : Unmarked front)
    (same : name ++ ':' :: ':' :: tail = front ++ ':' :: ':' :: rest) :
    front = name ∧ rest = tail ∨ ∃ u, rest = u ++ ':' :: tail := by
  obtain ⟨whole, ending⟩ := unmarked
  -- If the front goes on after the name, then into the mark: it ends in half of it or contains it.
  rcases List.append_eq_append_iff.mp same with ⟨m, rfl, later⟩ | ⟨m, rfl, later⟩
  · rcases m with _ | ⟨a, _ | ⟨b, m⟩⟩
    · exact Or.inl ⟨List.append_nil name, by simpa using later.symm⟩
    · obtain ⟨rfl, _⟩ := List.cons_eq_cons.mp later
      exact absurd (List.suffix_append name [':']) ending
    · obtain ⟨rfl, second⟩ := List.cons_eq_cons.mp later
      obtain ⟨rfl, _⟩ := List.cons_eq_cons.mp second
      exact absurd ⟨name, m, by simp⟩ whole
  · rcases m with _ | ⟨a, _ | ⟨b, m⟩⟩
    · exact Or.inl ⟨(List.append_nil front).symm, by simpa using later⟩
    · exact Or.inr ⟨[], (List.cons_eq_cons.mp (List.cons_eq_cons.mp later).2).2⟩
    · have longer := (List.cons_eq_cons.mp (List.cons_eq_cons.mp later).2).2
      exact Or.inr ⟨m ++ [':'], by simpa using longer⟩

theorem parts_of_ofText_text {ref other : RecordRef} (read : ofText ref.text = .ok other) :
    other.provider = ref.provider ∧ readId? (idChars ref.id) = some other.id := by
  obtain ⟨rest, split, _, found⟩ := ofText_eq_ok_iff.mp read
  obtain ⟨same, unmarked⟩ := splitMark_eq_some split
  rw [text, chars, String.toList_ofList] at same
  rcases cut_at_mark unmarked same with ⟨name, rfl⟩ | ⟨u, rfl⟩
  · exact ⟨String.toList_injective name, found⟩
  · rw [readId?_after_colon] at found
    cases found

theorem eq_of_ofText_text {ref other : RecordRef} (valid : ref.id.Valid)
    (read : ofText ref.text = .ok other) : other = ref := by
  obtain ⟨provider, id⟩ := parts_of_ofText_text read
  rw [readId?_idChars valid] at id
  cases ref
  cases other
  rw [mk.injEq]
  exact ⟨provider, (Option.some.inj id).symm⟩

def Readable (ref : RecordRef) : Prop :=
  ref.id.Valid ∧ ref.provider ≠ "" ∧ Unmarked ref.provider.toList

theorem ofText_text_eq_ok_iff {ref other : RecordRef} :
    ofText ref.text = .ok other ↔ ref.Readable ∧ other = ref := by
  constructor
  · intro read
    have valid : ref.id.Valid := valid_of_readId? (parts_of_ofText_text read).2
    obtain rfl := eq_of_ofText_text valid read
    exact ⟨⟨valid, unmarked_of_ofText read⟩, rfl⟩
  · rintro ⟨⟨valid, nonempty, unmarked⟩, rfl⟩
    exact ofText_text valid nonempty unmarked

end RecordRef

/-- The written form belongs to one address, nothing but this address is read from it, and it is read
if the provider has a name that does not contain the mark and does not end in half of it. What can be
read has such an address. -/
theorem written_form_addresses_record :
    (∀ a b : RecordRef, a.text = b.text → a = b) ∧
    (∀ ref : RecordRef, ref.id.Valid →
      (RecordRef.ofText ref.text = .ok ref ∨ ∃ e, RecordRef.ofText ref.text = .error e) ∧
        (RecordRef.ofText ref.text = .ok ref ↔
          ref.provider ≠ "" ∧ RecordRef.Unmarked ref.provider.toList)) ∧
    ∀ (text : String) (ref : RecordRef), RecordRef.ofText text = .ok ref →
      RecordRef.ofText ref.text = .ok ref := by
  refine ⟨fun a b => RecordRef.text_injective, ?_, ?_⟩
  · intro ref valid
    constructor
    · cases read : RecordRef.ofText ref.text with
      | error e => exact Or.inr ⟨e, rfl⟩
      | ok other => exact Or.inl (congrArg Except.ok (RecordRef.eq_of_ofText_text valid read))
    · constructor
      · exact RecordRef.unmarked_of_ofText
      · rintro ⟨nonempty, unmarked⟩
        exact RecordRef.ofText_text valid nonempty unmarked
  · intro text ref read
    obtain ⟨nonempty, unmarked⟩ := RecordRef.unmarked_of_ofText read
    exact RecordRef.ofText_text (RecordRef.ofText_valid read) nonempty unmarked

def quotedRef : RecordRef := ⟨"page:draft", .text "a\\::\"b"⟩

theorem written_form_addresses_record_quoted :
    (⟨"page", .text "news::1"⟩ : RecordRef).text ≠ (⟨"page::\"news", .int 1⟩ : RecordRef).text ∧
      RecordRef.ofText quotedRef.text = .ok quotedRef ∧
        RecordRef.ofText "page::+007" = .ok ⟨"page", .int 7⟩ ∧
          RecordRef.ofText (⟨"page", .int 7⟩ : RecordRef).text = .ok ⟨"page", .int 7⟩ := by
  obtain ⟨injective, reads, normal⟩ := written_form_addresses_record
  have signed : RecordRef.ofText "page::+007" = .ok ⟨"page", .int 7⟩ := rfl
  refine ⟨fun same => absurd (injective _ _ same) (by decide), ?_, signed, normal _ _ signed⟩
  exact (reads quotedRef (RecordId.valid_text _)).2.mpr ⟨by decide, by decide +kernel⟩

/-- A name that ends in a colon does not come back. -/
example : (RecordRef.ofText (⟨"page:", .int 7⟩ : RecordRef).text).toOption = none := by
  decide +kernel

end RecordEditing
