import Concatenative.Proofs.Balance
import Concatenative.Proofs.RoundTrip
import Concatenative.Proofs.Tokens.Scanning

/-!
# The programs that sources stand for

Which quotes are the programs of some source (`Quote.exists_ofSource_iff`): those with plain
symbols, without the undefined number, and nested no more deeply than the parser admits. A symbol in
a source is a bare token that is nothing else, which makes it plain. For the other direction each
word is spelled out. Its own text does this, except for the infinite numbers: what is written for
them is read as a symbol, so they are spelled as decimals out of range.
-/

namespace Concatenative

/-! ## Words in a source -/

mutual

/-- Each symbol and each number in a word is one of its pieces. -/
theorem Word.word_mem_flatten : (word : Word) →
    (∀ name ∈ word.symbols, Piece.word (.symbol name) ∈ word.flatten) ∧
      ∀ value ∈ word.numbers, Piece.word (.number value) ∈ word.flatten
  | .number _ | .text _ | .truth _ | .symbol _ => by
    simp [Word.symbols, Word.numbers, Word.flatten]
  | .quote words => by
    obtain ⟨symbols, numbers⟩ := Quote.word_mem_flatten words
    rw [Word.flatten]
    exact ⟨fun name occurs => by simp [symbols name occurs],
      fun value occurs => by simp [numbers value occurs]⟩

theorem Quote.word_mem_flatten : (words : List Word) →
    (∀ name ∈ Quote.symbols words, Piece.word (.symbol name) ∈ Quote.flatten words) ∧
      ∀ value ∈ Quote.numbers words, Piece.word (.number value) ∈ Quote.flatten words
  | [] => ⟨nofun, nofun⟩
  | word :: words => by
    obtain ⟨symbols, numbers⟩ := Word.word_mem_flatten word
    obtain ⟨symbols', numbers'⟩ := Quote.word_mem_flatten words
    rw [Quote.symbols, Quote.numbers, Quote.flatten, List.forall_mem_append, List.forall_mem_append]
    exact ⟨⟨fun name occurs => List.mem_append_left _ (symbols name occurs),
        fun name occurs => List.mem_append_right _ (symbols' name occurs)⟩,
      ⟨fun value occurs => List.mem_append_left _ (numbers value occurs),
        fun value occurs => List.mem_append_right _ (numbers' value occurs)⟩⟩

end

/-- The lexemes of a source are tokens. -/
theorem Lexeme.exists_token {source : String} {lexemes : List Lexeme}
    (scanned : scan source = .ok lexemes) {lexeme : Lexeme} (mem : lexeme ∈ lexemes) :
    ∃ shape token, Token shape token ∧ lexeme.text = String.ofList token := by
  rcases layout_or_unclosed source with
    ⟨cuts, last, layout, gap, text⟩ | ⟨cuts, gap, rest, layout, ended, unclosed, text⟩
  · rw [scan_of_layout layout gap text] at scanned
    cases scanned
    obtain ⟨cut, listed, same⟩ := Cut.exists_of_mem_lexemes mem
    exact ⟨cut.shape, cut.token, layout.token cut listed, same⟩
  · rw [scan_of_unclosed layout ended unclosed text] at scanned
    cases scanned

/-- A lexeme that stands for a symbol has its name for a text, and no other meaning. -/
theorem Lexeme.text_of_symbol {lexeme : Lexeme} {name : String}
    (symbol : Word.ofLexeme lexeme = .symbol name) :
    lexeme.text = name ∧ name ≠ "true" ∧ name ≠ "false" ∧ lexeme.literalBody? = none ∧
      Number.read? name = none := by
  unfold Word.ofLexeme at symbol
  split at symbol
  · cases symbol
  · next notTrue =>
    split at symbol
    · cases symbol
    · next notFalse =>
      split at symbol
      · cases symbol
      · next unquoted =>
        split at symbol
        · cases symbol
        · next unread =>
          cases symbol
          exact ⟨rfl, notTrue, notFalse, unquoted, unread⟩

/-- A lexeme that stands for a number is read as that number. -/
theorem Lexeme.read?_of_number {lexeme : Lexeme} {value : Float}
    (number : Word.ofLexeme lexeme = .number value) : Number.read? lexeme.text = some value := by
  unfold Word.ofLexeme at number
  split at number
  · cases number
  · split at number
    · cases number
    · split at number
      · cases number
      · split at number
        · next read =>
          cases number
          exact read
        · cases number

/-- A token that stands for a symbol is a bare one. -/
theorem Lexeme.plainName {shape : Shape} {token : List Char} (h : Token shape token)
    {lexeme : Lexeme} (text : lexeme.text = String.ofList token) {name : String}
    (piece : lexeme.piece = .word (.symbol name)) : PlainName name := by
  have symbol := (eq_ofLexeme_of_piece piece).symm
  obtain ⟨same, notTrue, notFalse, unquoted, unread⟩ := text_of_symbol symbol
  rw [text] at same
  subst same
  cases h with
  | opening | closing =>
    -- Parentheses are pieces of their own.
    rw [Lexeme.piece, text] at piece
    cases piece
  | @literal body _ =>
    have quoted := literalBody?_literal body lexeme.line
    rw [← text] at quoted
    cases unquoted.symm.trans quoted
  | bare filled undelimited =>
    refine ⟨?_, ?_, notTrue, notFalse, unread⟩
    · rw [Ne, String.ofList_eq_empty_iff]
      exact filled
    · rw [String.toList_ofList]
      exact undelimited

/-! ## Programs of sources -/

namespace Quote

section Reading

variable {source : String} {words : Quote} (read : Quote.ofSource source = .ok words)

include read

theorem plainName_of_ofSource {name : String} (occurs : name ∈ Quote.symbols words) :
    PlainName name := by
  obtain ⟨lexemes, scanned, _, pieces⟩ := exists_lexemes_of_ofSource read
  have mem := (word_mem_flatten words).1 name occurs
  rw [pieces] at mem
  obtain ⟨lexeme, listed, piece⟩ := List.mem_map.1 mem
  obtain ⟨shape, token, h, text⟩ := Lexeme.exists_token scanned listed
  exact Lexeme.plainName h text piece

theorem isNaN_of_ofSource {value : Float} (occurs : value ∈ Quote.numbers words) :
    value.isNaN = false := by
  obtain ⟨lexemes, _, _, pieces⟩ := exists_lexemes_of_ofSource read
  have mem := (word_mem_flatten words).2 value occurs
  rw [pieces] at mem
  obtain ⟨lexeme, _, piece⟩ := List.mem_map.1 mem
  exact Number.isNaN_of_read? (Lexeme.read?_of_number (Lexeme.eq_ofLexeme_of_piece piece).symm)

end Reading

end Quote

/-! ## A source for each program -/

/-- An infinite number is spelled as a decimal that is out of range. -/
theorem Spells.infinity (sign : Float.Model.UnpackedFloat.Sign) :
    Spells (if Number.isMinus sign then "-1e999" else "1e999").toList
      [.word (.number (.ofModel (.pack (.infinity sign))))] := by
  have read := Number.read?_infinity sign
  have clean : (if Number.isMinus sign then "-1e999" else "1e999").toList.all
      (! Scanner.isDelimiter ·) = true := by
    cases sign <;> decide
  have undelimited : ∀ c ∈ (if Number.isMinus sign then "-1e999" else "1e999").toList,
      Scanner.isDelimiter c = false := by
    simpa only [List.all_eq_true, Bool.not_eq_true'] using clean
  refine bare (by cases sign <;> decide) undelimited fun line => ?_
  rw [String.ofList_toList, Lexeme.piece_bare undelimited, read, if_neg, if_neg, Option.elim_some]
  · cases sign <;> decide
  · cases sign <;> decide

mutual

/-- A word with plain symbols and without the undefined number can be spelled. -/
theorem Word.exists_spells : (word : Word) → (∀ name ∈ word.symbols, PlainName name) →
    (∀ value ∈ word.numbers, value.isNaN = false) → ∃ text, Spells text word.flatten
  | .number value, _, defined => by
    rcases Number.finite_or_infinite (defined value List.mem_cons_self) with finite | ⟨sign, rfl⟩
    · exact ⟨_, .number finite⟩
    · exact ⟨_, .infinity sign⟩
  | .text value, _, _ => ⟨_, .literal value⟩
  | .truth value, _, _ => ⟨_, .truth value⟩
  | .symbol name, plain, _ => ⟨_, .plainName (plain name List.mem_cons_self)⟩
  | .quote words, plain, defined => by
    obtain ⟨text, spells⟩ := Quote.exists_spells words plain defined
    exact ⟨_, .quote spells⟩

theorem Quote.exists_spells : (words : List Word) → (∀ name ∈ Quote.symbols words, PlainName name) →
    (∀ value ∈ Quote.numbers words, value.isNaN = false) →
    ∃ text, Spells text (Quote.flatten words)
  | [], _, _ => ⟨[], .nil⟩
  | word :: words, plain, defined => by
    rw [Quote.symbols, List.forall_mem_append] at plain
    rw [Quote.numbers, List.forall_mem_append] at defined
    obtain ⟨text, spells⟩ := Word.exists_spells word plain.1 defined.1
    obtain ⟨text', spells'⟩ := Quote.exists_spells words plain.2 defined.2
    exact ⟨_, spells.append spells'⟩

end

/-- The programs of sources are exactly the quotes with plain symbols, without the undefined number,
and with words that are nested no more deeply than the parser admits. A program without infinite
numbers is read again from the texts of its words with single spaces in between. -/
theorem Quote.exists_ofSource_iff (words : Quote) :
    ((∃ text, Quote.ofSource text = .ok words) ↔
      (∀ name ∈ Quote.symbols words, PlainName name) ∧
      (∀ value ∈ Quote.numbers words, value.isNaN = false) ∧
      ∀ word ∈ words, word.nesting ≤ Nesting.depthLimit) ∧
    ∀ text, Quote.ofSource text = .ok words →
      (∀ value ∈ Quote.numbers words, value.isInf = false) →
      Quote.ofSource (" ".intercalate (words.map Word.render)) = .ok words := by
  refine ⟨⟨?_, ?_⟩, fun text read bounded => ?_⟩
  · rintro ⟨text, read⟩
    exact ⟨fun name => plainName_of_ofSource read, fun value => isNaN_of_ofSource read,
      nesting_le_iff.1 (nesting_le_of_ofSource read)⟩
  · rintro ⟨plain, defined, nested⟩
    obtain ⟨text, spells⟩ := Quote.exists_spells words plain defined
    rw [← String.toList_ofList (l := text)] at spells
    exact ⟨_, ofSource_of_spells spells (nesting_le_iff.2 nested)⟩
  · have finite : ∀ value ∈ Quote.numbers words, value.isFinite = true := by
      intro value occurs
      rcases Number.finite_or_infinite (isNaN_of_ofSource read occurs) with finite | ⟨sign, rfl⟩
      · exact finite
      · have finite := bounded _ occurs
        cases sign <;> exact absurd finite (by decide +kernel)
    exact ofSource_chars (fun name => plainName_of_ofSource read) finite
      (nesting_le_iff.1 (nesting_le_of_ofSource read)) (toList_intercalate_render words)

example : (Quote.ofSource "1e999").toOption.map (·.map Word.render) = some ["inf"] ∧
    Quote.ofSource "inf" = .ok [.symbol "inf"] := by
  decide +kernel

end Concatenative
