import Concatenative.Proofs.Flattening

/-!
# How pieces are spelled

Which texts the scanner takes for which pieces. A bare word ends only at the character after it, so a
text that ends in one leaves it pending; `Scanner.settled` is the scanner that takes it as complete.
Texts with a space between them spell the pieces of both (`Spells.append`), and a text between
parentheses spells what it spells with the two parentheses around it (`Spells.quote`).
-/

namespace Concatenative

namespace Scanner

/-- The scanner after a bare word at its end, if there is one, is taken as complete. -/
def settled (scanner : Scanner) : Scanner :=
  match scanner.place with
  | .bare start read => scanner.emit start read
  | _ => scanner

variable {scanner : Scanner}

theorem settled_of_gap (h : scanner.place = .gap) : scanner.settled = scanner := by
  rw [settled, h]

theorem gap_or_bare (h : scanner.settled.place = .gap) :
    scanner.place = .gap ∨ ∃ start read, scanner.place = .bare start read := by
  unfold settled at h
  split at h
  · next start read place => exact .inr ⟨start, read, place⟩
  · exact .inl h

theorem step_space (h : scanner.place = .gap) : scanner.step ' ' = scanner := by
  cases scanner
  cases h
  rfl

theorem step_parenthesis (h : scanner.place = .gap) {c : Char} (parenthesis : c = '(' ∨ c = ')') :
    scanner.step c = scanner.emit scanner.line [c] := by
  cases scanner
  cases h
  rcases parenthesis with rfl | rfl <;> rfl

/-- A delimiter ends a bare word before it does anything else. -/
theorem step_settled (h : scanner.settled.place = .gap) {c : Char} (delimiter : isDelimiter c = true) :
    scanner.settled.step c = scanner.step c := by
  rcases gap_or_bare h with place | ⟨start, read, place⟩
  · rw [settled_of_gap place]
  · have bare : scanner.settled = scanner.emit start read := by rw [settled, place]
    have entered : scanner.enter c = (scanner.emit start read).fromGap c := by
      rw [enter, place]
      exact if_pos delimiter
    rw [step, step, entered, bare]
    rfl

/-- At the end of the source a bare word is complete. -/
theorem finish_settled (h : scanner.settled.place = .gap) :
    scanner.finish = .ok scanner.settled.found.reverse := by
  rcases gap_or_bare h with place | ⟨start, read, place⟩
  · rw [settled_of_gap place, finish, place]
  · rw [settled, finish, place]

/-! ## Bare words -/

/-- What a character is that may stand in a bare word. -/
theorem undelimited_iff {c : Char} :
    isDelimiter c = false ↔
      Text.isBlank c = false ∧ c ≠ '(' ∧ c ≠ ')' ∧ c ≠ '"' ∧ c ≠ '#' := by
  simp [isDelimiter, and_assoc]

theorem advance_of_undelimited {c : Char} (undelimited : isDelimiter c = false) :
    scanner.advance c = scanner := by
  have other : c ≠ '\n' := by
    intro newline
    subst newline
    exact absurd undelimited (by decide)
  rw [advance, if_neg (by simpa using other)]

theorem step_gap_bare (h : scanner.place = .gap) {c : Char} (undelimited : isDelimiter c = false) :
    scanner.step c = { scanner with place := .bare scanner.line [c] } := by
  obtain ⟨blank, opening, closing, quote, hash⟩ := undelimited_iff.1 undelimited
  rw [step, advance_of_undelimited undelimited, enter, h]
  simp [fromGap, blank, opening, closing, quote, hash]

theorem feed_bare {start : Nat} {read rest : List Char} (h : scanner.place = .bare start read)
    (undelimited : ∀ c ∈ rest, isDelimiter c = false) :
    scanner.feed rest = { scanner with place := .bare start (rest.reverse ++ read) } := by
  induction rest generalizing scanner read with
  | nil =>
    cases scanner
    cases h
    rfl
  | cons c rest ih =>
    have next : scanner.step c = { scanner with place := .bare start (c :: read) } := by
      rw [step, advance_of_undelimited (undelimited c (by simp)), enter, h]
      exact if_neg (by simp [undelimited c (by simp)])
    rw [feed_cons, next, ih rfl fun d mem => undelimited d (List.mem_cons_of_mem c mem),
      List.reverse_cons, List.append_assoc]
    rfl

/-! ## Literals -/

theorem feed_encodeLiteralChar {start : Nat} {read : List Char}
    (h : scanner.place = .literal start read) (c : Char) :
    ∃ line, scanner.feed (Text.encodeLiteralChar c) =
      ⟨line, .literal start ((Text.encodeLiteralChar c).reverse ++ read), scanner.found⟩ := by
  obtain ⟨line, place, found⟩ := scanner
  cases h
  unfold Text.encodeLiteralChar
  split
  · exact ⟨line, rfl⟩
  · exact ⟨line, rfl⟩
  · next quote backslash =>
    -- Only here can the character be a line break.
    have entered : (⟨line, .literal start read, found⟩ : Scanner).enter c =
        ⟨line, .literal start (c :: read), found⟩ := by
      simp only [enter, beq_iff_eq]
      rw [if_neg quote, if_neg backslash]
    rw [feed_cons, feed_nil, step, entered, advance]
    split
    · exact ⟨line + 1, rfl⟩
    · exact ⟨line, rfl⟩

/-- Between its quotes a literal is read to the end, whatever text it is for. -/
theorem feed_encodeLiteral {start : Nat} {read : List Char} (h : scanner.place = .literal start read)
    (text : List Char) :
    ∃ line, scanner.feed (Text.encodeLiteral text) =
      ⟨line, .literal start ((Text.encodeLiteral text).reverse ++ read), scanner.found⟩ := by
  induction text generalizing scanner read with
  | nil =>
    refine ⟨scanner.line, ?_⟩
    cases scanner
    cases h
    rfl
  | cons c text ih =>
    obtain ⟨line, first⟩ := feed_encodeLiteralChar h c
    have body : Text.encodeLiteral (c :: text) = Text.encodeLiteralChar c ++ Text.encodeLiteral text :=
      List.flatMap_cons
    rw [body, feed_append, first, List.reverse_append, List.append_assoc]
    exact ih rfl

end Scanner

namespace Lexeme

/-! ## What lexemes stand for -/

theorem literalBody?_literal (body : List Char) (line : Nat) :
    (⟨String.ofList ('"' :: (body ++ ['"'])), line⟩ : Lexeme).literalBody? = some body := by
  rw [literalBody?, String.toList_ofList]
  simp

/-- A literal stands for its text. -/
theorem piece_literal (value : String) (line : Nat) :
    (⟨String.ofList ('"' :: (Text.encodeLiteral value.toList ++ ['"'])), line⟩ : Lexeme).piece =
      .word (.text value) := by
  have other : ∀ {c : Char} {rest : List Char}, c ≠ '"' →
      String.ofList ('"' :: (Text.encodeLiteral value.toList ++ ['"'])) ≠
        String.ofList (c :: rest) := by
    intro c rest quote same
    have chars := congrArg String.toList same
    rw [String.toList_ofList, String.toList_ofList] at chars
    exact quote (List.cons.inj chars).1.symm
  have decoded := Text.decodeLiteral_encodeLiteral_append value.toList []
  rw [List.append_nil] at decoded
  rw [piece, if_neg (@other '(' [] (by decide)), if_neg (@other ')' [] (by decide)), Word.ofLexeme,
    if_neg (@other 't' ['r', 'u', 'e'] (by decide)),
    if_neg (@other 'f' ['a', 'l', 's', 'e'] (by decide)), literalBody?_literal]
  show Piece.word (.text (String.ofList (Text.decodeLiteral _))) = _
  rw [decoded]
  simp [Text.decodeLiteral]

end Lexeme

/-- Whether the scanner, standing in a gap, takes a text for a row of pieces, perhaps with a bare
word left to be completed. -/
def Spells (text : List Char) (pieces : List Piece) : Prop :=
  ∀ scanner : Scanner, scanner.place = .gap →
    (scanner.feed text).settled.place = .gap ∧
    ∃ lexemes : List Lexeme, (scanner.feed text).settled.found = lexemes.reverse ++ scanner.found ∧
      lexemes.map Lexeme.piece = pieces

namespace Spells

variable {text text' : List Char} {pieces pieces' : List Piece}

theorem nil : Spells [] [] := by
  intro scanner gap
  rw [Scanner.feed_nil, Scanner.settled_of_gap gap]
  exact ⟨gap, [], rfl, rfl⟩

/-- A space separates two texts. -/
theorem append (front : Spells text pieces) (rest : Spells text' pieces') :
    Spells (text ++ ' ' :: text') (pieces ++ pieces') := by
  intro scanner gap
  obtain ⟨settled, lexemes, found, spelled⟩ := front scanner gap
  obtain ⟨settled', lexemes', found', spelled'⟩ := rest _ settled
  rw [Scanner.feed_append, Scanner.feed_cons, ← Scanner.step_settled settled (by decide),
    Scanner.step_space settled]
  refine ⟨settled', lexemes ++ lexemes', ?_, ?_⟩
  · rw [found', found, List.reverse_append, List.append_assoc]
  · rw [List.map_append, spelled, spelled']

/-- Parentheses around a text are spelled around its pieces. -/
theorem quote (inner : Spells text pieces) :
    Spells ('(' :: text ++ [')']) (.opening :: pieces ++ [.closing]) := by
  intro scanner gap
  have opened := Scanner.step_parenthesis gap (.inl rfl)
  obtain ⟨settled, lexemes, found, spelled⟩ := inner (scanner.emit scanner.line ['(']) rfl
  have closed := Scanner.step_parenthesis settled (.inr rfl)
  rw [Scanner.step_settled settled (by decide)] at closed
  rw [List.cons_append, Scanner.feed_cons, opened, Scanner.feed_append, Scanner.feed_cons, closed,
    Scanner.feed_nil, Scanner.settled_of_gap rfl]
  generalize ((scanner.emit scanner.line ['(']).feed text).settled = after at found ⊢
  refine ⟨rfl, ⟨"(", scanner.line⟩ :: lexemes ++ [⟨")", after.line⟩], ?_, ?_⟩
  · have first : (scanner.emit scanner.line ['(']).found =
        ⟨"(", scanner.line⟩ :: scanner.found := rfl
    show ⟨")", after.line⟩ :: after.found = _
    rw [found, first]
    simp
  · rw [List.map_append, List.map_cons, spelled]
    rfl

/-! ## Words of one lexeme -/

/-- A row of characters that no delimiter interrupts is one lexeme. -/
theorem bare {text : List Char} (filled : text ≠ [])
    (undelimited : ∀ c ∈ text, Scanner.isDelimiter c = false) {piece : Piece}
    (spelled : ∀ line, Lexeme.piece ⟨String.ofList text, line⟩ = piece) :
    Spells text [piece] := by
  intro scanner gap
  obtain ⟨c, rest, rfl⟩ := List.exists_cons_of_ne_nil filled
  -- After the last character the scanner is still inside the word.
  have pending : scanner.feed (c :: rest) =
      { scanner with place := .bare scanner.line (c :: rest).reverse } := by
    rw [Scanner.feed_cons, Scanner.step_gap_bare gap (undelimited c (by simp)),
      Scanner.feed_bare rfl fun d mem => undelimited d (List.mem_cons_of_mem c mem),
      List.reverse_cons]
  rw [pending]
  refine ⟨rfl, [⟨String.ofList (c :: rest), scanner.line⟩], ?_, ?_⟩
  · show ⟨String.ofList (c :: rest).reverse.reverse, _⟩ :: scanner.found = _
    rw [List.reverse_reverse]
    rfl
  · rw [List.map_singleton, spelled]

/-- The literal of a text spells that text. -/
theorem literal (value : String) :
    Spells ('"' :: Text.encodeLiteral value.toList ++ ['"']) [.word (.text value)] := by
  intro scanner gap
  have opened : scanner.step '"' = { scanner with place := .literal scanner.line ['"'] } := by
    cases scanner
    cases gap
    rfl
  obtain ⟨line, inside⟩ := Scanner.feed_encodeLiteral
    (show ({ scanner with place := .literal scanner.line ['"'] } : Scanner).place = _ from rfl)
    value.toList
  rw [List.cons_append, Scanner.feed_cons, opened, Scanner.feed_append, inside]
  refine ⟨rfl, [⟨String.ofList ('"' :: (Text.encodeLiteral value.toList ++ ['"'])), scanner.line⟩],
    ?_, ?_⟩
  · show ⟨String.ofList (List.reverse ('"' :: (_ ++ ['"']))), _⟩ :: scanner.found = _
    simp
  · rw [List.map_singleton, Lexeme.piece_literal]

end Spells

/-- A text that spells the pieces of a quote is read as that quote, if it is not nested too deeply. -/
theorem Quote.ofSource_of_spells {text : String} {words : Quote}
    (spells : Spells text.toList (Quote.flatten words))
    (nested : Quote.nesting words ≤ Nesting.depthLimit) : Quote.ofSource text = .ok words := by
  obtain ⟨settled, lexemes, found, pieces⟩ := spells {} rfl
  have scanned : Lexeme.scan text = .ok lexemes := by
    rw [Lexeme.scan, Scanner.finish_settled settled, found, List.append_nil, List.reverse_reverse]
  have read := Nesting.feed_of_flatten words {} lexemes pieces (by
    show 0 + _ ≤ _
    omega)
  rw [Quote.ofSource, scanned]
  show Quote.ofLexemes lexemes = _
  rw [Quote.ofLexemes, read]
  simp [Nesting.finish, bind, Except.bind]

end Concatenative
