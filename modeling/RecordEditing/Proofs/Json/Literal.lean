import RecordEditing.Json.Parser
import RecordEditing.Json.Printer

/-!
String literals read back as the text that they were written for, and inside of one every quote
follows a backslash.
-/
namespace RecordEditing
namespace JsonText

theorem hexValue?_digitChar : ∀ n < 16, hexValue? (Nat.digitChar n) = some n := by decide

def after (part : StringPart) (read : Option (List StringPart × List Char)) :
    Option (List StringPart × List Char) :=
  read.map fun (parts, rest) => (part :: parts, rest)

theorem stringParts?_plain {c : Char} (quote : c ≠ '"') (backslash : c ≠ '\\')
    (visible : ¬ c.toNat < 0x20) (cs : List Char) :
    stringParts? (c :: cs) = after (.char c) (stringParts? cs) := by
  rw [stringParts?, if_neg]
  · rfl
  · rintro (same | control)
    · exact backslash same
    · exact visible control
  · exact quote
  · intro _ _ _ _ _ same
    exact absurd same backslash
  · intro _ _ same
    exact absurd same backslash

theorem stringParts?_escape {e c : Char} (letter : e ≠ 'u') (named : escape? e = some c)
    (cs : List Char) : stringParts? ('\\' :: e :: cs) = after (.char c) (stringParts? cs) := by
  rw [stringParts?]
  · rw [named]
    cases stringParts? cs <;> rfl
  · intro _ _ _ _ _ same
    exact absurd same letter

theorem stringParts?_unit {n : Nat} (small : n < 256) (cs : List Char) :
    stringParts? (['\\', 'u', '0', '0'] ++ Json.hexPair n ++ cs) =
      after (.unit n) (stringParts? cs) := by
  have high := hexValue?_digitChar (n / 16) (by omega)
  have low := hexValue?_digitChar (n % 16) (by omega)
  have zero : hexValue? '0' = some 0 := by decide
  have whole : ((0 * 16 + 0) * 16 + n / 16) * 16 + n % 16 = n := by omega
  simp only [Json.hexPair, List.cons_append, List.nil_append]
  rw [stringParts?, zero, high, low]
  cases stringParts? cs with
  | none => rfl
  | some read => exact congrArg (fun u => some (.unit u :: read.1, read.2)) whole

theorem escaped_cases (c : Char) :
    (∃ e, Json.escaped c = ['\\', e] ∧ e ≠ 'u' ∧ escape? e = some c) ∨
      (Json.escaped c = ['\\', 'u', '0', '0'] ++ Json.hexPair c.toNat ∧ c.toNat < 0x20) ∨
      (Json.escaped c = [c] ∧ c ≠ '"' ∧ c ≠ '\\' ∧ ¬ c.toNat < 0x20) := by
  unfold Json.escaped
  iterate 7
    split
    · next same =>
      subst same
      exact Or.inl ⟨_, rfl, by decide, rfl⟩
  split
  · next control => exact Or.inr (Or.inl ⟨rfl, control⟩)
  · next quote backslash _ _ _ _ _ visible =>
    exact Or.inr (Or.inr ⟨rfl, quote, backslash, visible⟩)

theorem stringParts?_escaped (c : Char) :
    ∃ part, (∀ cs, stringParts? (Json.escaped c ++ cs) = after part (stringParts? cs)) ∧
      (part = .char c ∨ part = .unit c.toNat ∧ c.toNat < 0x20) := by
  rcases escaped_cases c with ⟨e, form, letter, named⟩ | ⟨form, control⟩ |
    ⟨form, quote, backslash, visible⟩
  · rw [form]
    exact ⟨_, stringParts?_escape letter named, Or.inl rfl⟩
  · rw [form]
    exact ⟨_, stringParts?_unit (by omega), Or.inr ⟨rfl, control⟩⟩
  · rw [form]
    exact ⟨_, stringParts?_plain quote backslash visible, Or.inl rfl⟩

theorem join?_cons {c : Char} {part : StringPart}
    (same : part = .char c ∨ part = .unit c.toNat ∧ c.toNat < 0x20) (parts : List StringPart) :
    StringPart.join? (part :: parts) = (StringPart.join? parts).map (c :: ·) := by
  rcases same with rfl | ⟨rfl, control⟩
  · rw [StringPart.join?]
  · rw [StringPart.join?.eq_def]
    dsimp only
    rw [if_neg (by omega), if_neg (by omega), Char.ofNat_toNat]

theorem stringParts?_literal (cs rest : List Char) :
    ∃ parts, stringParts? (cs.flatMap Json.escaped ++ '"' :: rest) = some (parts, rest) ∧
      StringPart.join? parts = some cs := by
  induction cs with
  | nil => exact ⟨[], by simp [stringParts?], rfl⟩
  | cons c cs ih =>
    obtain ⟨parts, read, joined⟩ := ih
    obtain ⟨part, first, same⟩ := stringParts?_escaped c
    refine ⟨part :: parts, ?_, ?_⟩
    · rw [List.flatMap_cons, List.append_assoc, first, read]
      rfl
    · rw [join?_cons same, joined]
      rfl

theorem string?_literal (cs rest : List Char) :
    string? (cs.flatMap Json.escaped ++ '"' :: rest) = some (some (String.ofList cs), rest) := by
  obtain ⟨parts, read, joined⟩ := stringParts?_literal cs rest
  unfold string?
  rw [read]
  simp [joined]

end JsonText

namespace Json

theorem literal_injective {cs ds : List Char} (same : literal cs = literal ds) : cs = ds := by
  have bodies : cs.flatMap escaped ++ ['"'] = ds.flatMap escaped ++ ['"'] :=
    (List.cons_eq_cons.mp same).2
  have read := JsonText.string?_literal cs []
  rw [bodies, JsonText.string?_literal ds []] at read
  have texts : String.ofList ds = String.ofList cs := by simpa using read
  exact (String.ofList_injective texts).symm

end Json

def QuotesEscaped (cs : List Char) : Prop := ∀ u v, cs = u ++ '"' :: v → ∃ w, u = w ++ ['\\']

namespace QuotesEscaped

theorem of_not_mem {cs : List Char} (absent : '"' ∉ cs) : QuotesEscaped cs := by
  rintro u v rfl
  exact absurd (List.mem_append_right u List.mem_cons_self) absent

theorem append {cs ds : List Char} (first : QuotesEscaped cs) (second : QuotesEscaped ds) :
    QuotesEscaped (cs ++ ds) := by
  intro u v split
  rcases List.append_eq_append_iff.mp split with ⟨m, rfl, later⟩ | ⟨m, here, later⟩
  · obtain ⟨w, rfl⟩ := second m v later
    exact ⟨cs ++ w, (List.append_assoc _ _ _).symm⟩
  · cases m with
    | nil =>
      -- The quote would stand first in the second text, after nothing.
      obtain ⟨w, split⟩ := second [] v later.symm
      simp at split
    | cons q m =>
      obtain ⟨rfl, _⟩ := List.cons_eq_cons.mp later
      exact first u m here

theorem pair (c : Char) : QuotesEscaped ['\\', c] := by
  intro u v split
  cases u with
  | nil => exact absurd (List.cons_eq_cons.mp split).1 (by decide)
  | cons a u =>
    obtain ⟨rfl, rest⟩ := List.cons_eq_cons.mp split
    cases u with
    | nil => exact ⟨[], rfl⟩
    | cons b u => simp at rest

end QuotesEscaped

namespace Json

theorem quote_not_mem_hexPair : ∀ n < 0x20, '"' ∉ hexPair n := by decide

theorem quotesEscaped_escaped (c : Char) : QuotesEscaped (escaped c) := by
  rcases JsonText.escaped_cases c with ⟨e, form, _⟩ | ⟨form, control⟩ | ⟨form, other, _⟩
  · rw [form]
    exact .pair e
  · rw [form]
    have digits := quote_not_mem_hexPair c.toNat control
    exact .of_not_mem (by simpa using digits)
  · rw [form]
    exact .of_not_mem fun quote => other (List.mem_singleton.mp quote).symm

theorem quotesEscaped_literal (cs : List Char) : QuotesEscaped (cs.flatMap escaped) := by
  induction cs with
  | nil => exact .of_not_mem List.not_mem_nil
  | cons c cs ih => exact (quotesEscaped_escaped c).append ih

end Json

namespace JsonText

theorem ne_quote_of_hex {c : Char} {n : Nat} (digit : hexValue? c = some n) : '"' ≠ c := by
  rintro rfl
  cases digit

theorem quotesEscaped_read {cs rest : List Char} {parts : List StringPart}
    (read : stringParts? cs = some (parts, rest)) :
    ∃ body, cs = body ++ '"' :: rest ∧ QuotesEscaped body := by
  induction cs using stringParts?.induct generalizing parts with
  | case1 => cases read
  | case2 cs =>
    rw [stringParts?] at read
    cases read
    exact ⟨[], rfl, .of_not_mem List.not_mem_nil⟩
  | case3 a b c d cs ih =>
    simp only [stringParts?, Option.bind_eq_bind, Option.bind_eq_some_iff] at read
    obtain ⟨_, first, _, second, _, third, _, fourth, ⟨more, _⟩, inner, same⟩ := read
    cases same
    obtain ⟨body, rfl, escaped⟩ := ih inner
    have unit : QuotesEscaped ['\\', 'u', a, b, c, d] := by
      apply QuotesEscaped.of_not_mem
      simp [ne_quote_of_hex first, ne_quote_of_hex second, ne_quote_of_hex third,
        ne_quote_of_hex fourth]
    exact ⟨_, rfl, unit.append escaped⟩
  | case4 e cs other ih =>
    rw [stringParts?.eq_4 e cs other] at read
    simp only [Option.bind_eq_bind, Option.bind_eq_some_iff] at read
    obtain ⟨_, _, ⟨more, _⟩, inner, same⟩ := read
    cases same
    obtain ⟨body, rfl, escaped⟩ := ih inner
    exact ⟨_, rfl, (QuotesEscaped.pair e).append escaped⟩
  | case5 c cs quote unit escape plain =>
    rw [stringParts?.eq_5 c cs quote unit escape, if_pos plain] at read
    cases read
  | case6 c cs quote unit escape plain ih =>
    obtain ⟨backslash, visible⟩ := not_or.mp plain
    rw [stringParts?_plain quote backslash visible] at read
    obtain ⟨⟨more, _⟩, inner, same⟩ := Option.map_eq_some_iff.mp read
    cases same
    obtain ⟨body, rfl, escaped⟩ := ih inner
    have single : QuotesEscaped [c] :=
      .of_not_mem fun member => quote (List.mem_singleton.mp member).symm
    exact ⟨_, rfl, single.append escaped⟩

theorem isDigit_of_isSpace {c : Char} (space : isSpace c = true) : c.isDigit = false := by
  simp only [isSpace, Bool.or_eq_true, decide_eq_true_eq] at space
  rcases space with ((rfl | rfl) | rfl) | rfl <;> decide

theorem isSpace_of_skipped {cs : List Char} (skipped : skipSpace cs = []) :
    ∀ c ∈ cs, isSpace c = true := by
  have parts : cs.takeWhile isSpace ++ skipSpace cs = cs := List.takeWhile_append_dropWhile
  rw [skipped, List.append_nil] at parts
  rw [← parts]
  exact List.all_eq_true.mp List.all_takeWhile

/-- A text that is read as a string is a literal with blanks around it. -/
theorem stringOnly?_eq_some {cs : List Char} {s : String} (read : stringOnly? cs = some s) :
    ∃ lead body tail, cs = lead ++ '"' :: (body ++ '"' :: tail) ∧
      (∀ c ∈ lead, isSpace c = true) ∧ QuotesEscaped body ∧ ∀ c ∈ tail, isSpace c = true := by
  have parts : cs.takeWhile isSpace ++ skipSpace cs = cs := List.takeWhile_append_dropWhile
  have blank : ∀ c ∈ cs.takeWhile isSpace, isSpace c = true :=
    List.all_eq_true.mp List.all_takeWhile
  unfold stringOnly? at read
  split at read
  · next inner opens =>
    split at read
    · next _ tail literal =>
      split at read
      · next ended =>
        obtain ⟨⟨_, _⟩, inside, same⟩ := Option.map_eq_some_iff.mp literal
        obtain ⟨_, rfl⟩ := Prod.mk.inj same
        obtain ⟨body, rfl, escaped⟩ := quotesEscaped_read inside
        rw [opens] at parts
        exact ⟨_, body, _, parts.symm, blank, escaped, isSpace_of_skipped ended⟩
      · cases read
    · cases read
  · cases read

theorem stringOnly?_literal (cs : List Char) :
    stringOnly? (Json.literal cs) = some (String.ofList cs) := by
  have opens : skipSpace (Json.literal cs) = Json.literal cs := rfl
  unfold stringOnly?
  rw [opens, Json.literal]
  simp only [string?_literal cs []]
  rfl

end JsonText
end RecordEditing
