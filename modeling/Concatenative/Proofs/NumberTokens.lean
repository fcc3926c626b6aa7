import Concatenative.Proofs.BigStep
import Concatenative.Proofs.Programs

/-!
# Numbers in sources and in texts

Numbers are read in two places, by the parser off a token and by the builtin `number` off a text, and
both take the same texts for numbers, which are the numerals. The parser has other readings for a
token, but none of them is open to a numeral (`Word.ofLexeme_eq_number_iff`); the builtin removes
blanks, of which a token has none at its ends (`Token.trim_of_padded`).
-/

namespace Concatenative

/-! ## Tokens -/

/-- A lexeme stands for a number exactly if its text is read as that number. -/
theorem Word.ofLexeme_eq_number_iff {lexeme : Lexeme} {value : Float} :
    Word.ofLexeme lexeme = .number value ↔ Number.read? lexeme.text = some value := by
  refine ⟨Lexeme.read?_of_number, fun read => ?_⟩
  obtain ⟨d, numeral, _⟩ := Option.map_eq_some_iff.1 read
  have characters := (Decimal.read?_eq_some_iff.1 numeral).characters.2
  have notTrue : lexeme.text ≠ "true" := by
    intro same
    rw [same] at characters
    exact absurd (characters 't' (by decide)) (by decide)
  have notFalse : lexeme.text ≠ "false" := by
    intro same
    rw [same] at characters
    exact absurd (characters 'f' (by decide)) (by decide)
  have unquoted : lexeme.literalBody? = none := by
    unfold Lexeme.literalBody?
    split
    · next rest text =>
      have quote := characters '"' (by rw [text]; exact List.mem_cons_self)
      exact absurd quote (by decide)
    · rfl
  rw [Word.ofLexeme, if_neg notTrue, if_neg notFalse, unquoted, read]

/-- A token neither begins nor ends with a blank. -/
theorem Token.ends {shape : Shape} {token : List Char} (h : Token shape token) :
    (∀ c ∈ token.head?, Text.isBlank c = false) ∧ ∀ c ∈ token.getLast?, Text.isBlank c = false := by
  cases h with
  | opening | closing => constructor <;> (rintro c ⟨⟩; decide)
  | literal _ =>
    rw [← List.cons_append, List.getLast?_concat]
    constructor <;> (rintro c ⟨⟩; decide)
  | bare _ undelimited =>
    exact ⟨fun c first => (undelimited c (List.mem_of_mem_head? first)).1,
      fun c last => (undelimited c (List.mem_of_getLast? last)).1⟩

/-- The blanks around a text that neither begins nor ends with one are removed. -/
theorem Text.trimBlanks_append {before text after : List Char}
    (blank : ∀ c ∈ before ++ after, isBlank c = true) (filled : text ≠ [])
    (ends : (∀ c ∈ text.head?, isBlank c = false) ∧ ∀ c ∈ text.getLast?, isBlank c = false) :
    trimBlanks (before ++ (text ++ after)) = text := by
  obtain ⟨blank, blank'⟩ := List.forall_mem_append.1 blank
  have first : ∀ c ∈ (text ++ after).head?, isBlank c = false := by
    rw [List.head?_append_of_ne_nil _ filled]
    exact ends.1
  have last : ∀ c ∈ text.reverse.head?, isBlank c = false := by
    rw [List.head?_reverse]
    exact ends.2
  have back : ∀ c ∈ after.reverse, isBlank c = true :=
    fun c mem => blank' c (List.mem_reverse.1 mem)
  rw [trimBlanks, (span_append blank first).2, List.reverse_append, (span_append back last).2,
    List.reverse_reverse]

/-- Whether a text is another one with blanks around it. -/
def Text.Padded (padded text : String) : Prop :=
  ∃ before after : String, (∀ c ∈ before.toList ++ after.toList, isBlank c = true) ∧
    padded = before ++ text ++ after

theorem Token.trim_of_padded {shape : Shape} {token padded : String} (h : Token shape token.toList)
    (around : Text.Padded padded token) : Text.trim padded = token := by
  obtain ⟨before, after, blank, rfl⟩ := around
  rw [Text.trim, String.toList_append, String.toList_append, List.append_assoc,
    Text.trimBlanks_append blank h.ne_nil h.ends, String.ofList_toList]

/-! ## The builtin -/

section Builtin

open Exec

variable (run : Quote → Exec Unit) (machine : Machine) (below : List Word) {text : String}

theorem Quote.perform_number_of_read {value : Float}
    (read : Number.read? (Text.trim text) = some value) :
    Quote.perform run [.symbol "number"] { machine with stack := .text text :: below } =
      .ok () { machine with stack := .number value :: below } := by
  have taken : Builtin.performNumber { machine with stack := .text text :: below } =
      .ok () { machine with stack := .number value :: below } := by
    rw [Builtin.performNumber, takeText_bind_of_stack rfl]
    simp only [read]
    rfl
  exact bind_of_ok taken

theorem Quote.perform_number_of_unread (unread : Number.read? (Text.trim text) = none) :
    Quote.perform run [.symbol "number"] { machine with stack := .text text :: below } =
      .error (.notNumeric text) { machine with stack := below } := by
  have taken : Builtin.performNumber { machine with stack := .text text :: below } =
      .error (.notNumeric text) { machine with stack := below } := by
    rw [Builtin.performNumber, takeText_bind_of_stack rfl]
    simp only [unread]
    rfl
  exact bind_of_error taken

/-- The builtin gives a number exactly if it reads this number. -/
theorem Quote.perform_number_iff {value : Float} :
    Quote.perform run [.symbol "number"] { machine with stack := .text text :: below } =
        .ok () { machine with stack := .number value :: below } ↔
      Number.read? (Text.trim text) = some value := by
  refine ⟨fun performed => ?_, Quote.perform_number_of_read run machine below⟩
  cases read : Number.read? (Text.trim text) with
  | none =>
    rw [Quote.perform_number_of_unread run machine below read] at performed
    cases performed
  | some found =>
    rw [Quote.perform_number_of_read run machine below read] at performed
    have pushed := congrArg (fun result => (machineAfter result).stack) performed
    exact congrArg some (Word.number.inj (List.cons.inj pushed).1)

end Builtin

/-- The texts that are read as numbers are the numerals, and the number is that of the decimal which
the numeral denotes. So there is a digit in such a text, and there are no characters in it but digits,
signs, points and marks of exponents. For each token of a source, the builtin `number` agrees with the
parser, whatever blanks are put around the token: it gives the number that the token stands for, and
it fails in its domain if the token does not stand for one. -/
theorem Number.read?_iff_numeral (run : Quote → Exec Unit) (machine : Machine) (below : List Word) :
    (∀ token value, read? token = some value ↔
      ∃ d, Decimal.Numeral token.toList d ∧ d.toFloat = value) ∧
    (∀ token value, read? token = some value →
      (∃ c ∈ token.toList, c.isDigit = true) ∧
        ∀ c ∈ token.toList, c.isDigit = true ∨ c ∈ ['+', '-', '.', 'e', 'E']) ∧
    ∀ source lexemes, Lexeme.scan source = .ok lexemes →
      ∀ lexeme ∈ lexemes, ∀ padded, Text.Padded padded lexeme.text →
        (∀ value, Word.ofLexeme lexeme = .number value ↔
          Quote.perform run [.symbol "number"] { machine with stack := .text padded :: below } =
            .ok () { machine with stack := .number value :: below }) ∧
        ((∀ value, Word.ofLexeme lexeme ≠ .number value) →
          (Fault.notNumeric padded).category = .domain ∧
          Quote.perform run [.symbol "number"] { machine with stack := .text padded :: below } =
            .error (.notNumeric padded) { machine with stack := below }) := by
  have numeral : ∀ token value, read? token = some value ↔
      ∃ d, Decimal.Numeral token.toList d ∧ d.toFloat = value := by
    intro token value
    rw [read?, ofText?, Option.map_eq_some_iff]
    exact exists_congr fun d => and_congr_left' Decimal.read?_eq_some_iff
  refine ⟨numeral, fun token value read => ?_,
    fun source lexemes scanned lexeme mem padded around => ?_⟩
  · obtain ⟨d, h, _⟩ := (numeral token value).1 read
    exact h.characters
  · obtain ⟨shape, token, h, text⟩ := Lexeme.exists_token scanned mem
    rw [← String.toList_ofList (l := token), ← text] at h
    have trimmed := h.trim_of_padded around
    constructor
    · intro value
      rw [Word.ofLexeme_eq_number_iff, Quote.perform_number_iff, trimmed]
    · intro other
      have unread : read? (Text.trim padded) = none := by
        rw [trimmed, Option.eq_none_iff_forall_ne_some]
        exact fun value read => other value (Word.ofLexeme_eq_number_iff.2 read)
      exact ⟨rfl, Quote.perform_number_of_unread run machine below unread⟩

/-- A number with a blank on each side of it, and a token that lacks the digits of its exponent. -/
theorem Number.read?_iff_numeral_blanks :
    Lexeme.scan "-.5e1 1e" = .ok [⟨"-.5e1", 1⟩, ⟨"1e", 1⟩] ∧
    Text.Padded "\u2003-.5e1\n" "-.5e1" ∧ Text.Padded "1e " "1e" ∧
    read? "-.5e1" = some (-5) ∧
    (∀ c ∈ "-.5e1".toList, c.isDigit = true ∨ c ∈ ['+', '-', '.', 'e', 'E']) ∧
    Quote.perform (evaluate 1) [.symbol "number"] { stack := [.text "\u2003-.5e1\n"] } =
      .ok () { stack := [.number (-5)] } ∧
    Quote.perform (evaluate 1) [.symbol "number"] { stack := [.text "1e "] } =
      .error (.notNumeric "1e ") {} := by
  obtain ⟨_, characters, agree⟩ := read?_iff_numeral (evaluate 1) {} []
  have scanned : Lexeme.scan "-.5e1 1e" = .ok [⟨"-.5e1", 1⟩, ⟨"1e", 1⟩] := by rfl
  have around : Text.Padded "\u2003-.5e1\n" "-.5e1" := ⟨"\u2003", "\n", List.all_eq_true.1 rfl, rfl⟩
  have around' : Text.Padded "1e " "1e" := ⟨"", " ", List.all_eq_true.1 rfl, rfl⟩
  have read : read? "-.5e1" = some (-5) := by decide +kernel
  have unread : read? "1e" = none := by decide +kernel
  have number := (agree _ _ scanned ⟨"-.5e1", 1⟩ (by simp) _ around).1 (-5)
  have symbol := (agree _ _ scanned ⟨"1e", 1⟩ (by simp) _ around').2
  refine ⟨scanned, around, around', read, (characters _ _ read).2,
    number.1 (Word.ofLexeme_eq_number_iff.2 read), (symbol fun value reads => ?_).2⟩
  cases unread.symm.trans (Word.ofLexeme_eq_number_iff.1 reads)

end Concatenative
