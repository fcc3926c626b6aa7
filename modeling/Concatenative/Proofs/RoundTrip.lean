import Concatenative.Proofs.Action
import Concatenative.Proofs.NumberText
import Concatenative.Proofs.Spelling

/-!
# Printing, then parsing

The text of words is read as these words (`Quote.ofSource_render`), provided that their symbols are
plain, that their numbers are finite and that they are not nested too deeply. Each word spells its
own pieces; the induction follows the printer.
-/

namespace Concatenative

/-- A name that is read as a symbol: it is one bare word and has no other meaning. -/
structure PlainName (name : String) : Prop where
  nonempty : name ≠ ""
  undelimited : ∀ c ∈ name.toList, Text.isBlank c = false ∧ c ∉ ['(', ')', '"', '#']
  notTrue : name ≠ "true"
  notFalse : name ≠ "false"
  notNumber : Number.read? name = none

instance (name : String) : Decidable (PlainName name) :=
  decidable_of_iff
    (name ≠ "" ∧ name.toList.all (fun c => !Text.isBlank c && c ∉ ['(', ')', '"', '#']) = true ∧
      name ≠ "true" ∧ name ≠ "false" ∧ Number.read? name = none)
    ⟨fun ⟨nonempty, undelimited, notTrue, notFalse, notNumber⟩ =>
      ⟨nonempty, by simpa using undelimited, notTrue, notFalse, notNumber⟩,
    fun ⟨nonempty, undelimited, notTrue, notFalse, notNumber⟩ =>
      ⟨nonempty, by simpa using undelimited, notTrue, notFalse, notNumber⟩⟩

/-! ## Bare words -/

theorem Scanner.isDelimiter_of_isDigit {c : Char} (digit : c.isDigit = true) :
    Scanner.isDelimiter c = false := by
  have range : 48 ≤ c.toNat ∧ c.toNat ≤ 57 := by
    simpa [Char.isDigit, UInt32.le_iff_toNat_le] using digit
  have blank : Text.isBlank c = false := by
    simp [Text.isBlank, Text.CodePoints.has, Text.blankCodePoints]
    omega
  rw [Scanner.undelimited_iff]
  refine ⟨blank, ?_, ?_, ?_, ?_⟩
  all_goals
    rintro rfl
    exact absurd digit (by decide)

/-- A bare word is a truth value, a number or else a symbol. -/
theorem Lexeme.piece_bare {text : String}
    (undelimited : ∀ c ∈ text.toList, Scanner.isDelimiter c = false) (line : Nat) :
    Lexeme.piece ⟨text, line⟩ = .word (
      if text = "true" then .truth true
      else if text = "false" then .truth false
      else (Number.read? text).elim (.symbol text) .number) := by
  have opening : text ≠ "(" := by
    intro same
    subst same
    exact absurd (undelimited '(' (by decide)) (by decide)
  have closing : text ≠ ")" := by
    intro same
    subst same
    exact absurd (undelimited ')' (by decide)) (by decide)
  have unquoted : Lexeme.literalBody? ⟨text, line⟩ = none := by
    unfold Lexeme.literalBody?
    split
    · next rest chars =>
      have quote := undelimited '"' (by rw [chars]; exact List.mem_cons_self)
      exact absurd quote (by decide)
    · rfl
  rw [piece, if_neg opening, if_neg closing, Word.ofLexeme, unquoted]
  cases Number.read? text <;> rfl

namespace Spells

theorem plainName {name : String} (plain : PlainName name) :
    Spells name.toList [.word (.symbol name)] := by
  have undelimited : ∀ c ∈ name.toList, Scanner.isDelimiter c = false := by
    intro c mem
    obtain ⟨blank, others⟩ := plain.undelimited c mem
    rw [Scanner.undelimited_iff]
    simpa [blank] using others
  have filled : name.toList ≠ [] := by
    simpa using plain.nonempty
  refine bare filled undelimited fun line => ?_
  rw [String.ofList_toList, Lexeme.piece_bare undelimited, if_neg plain.notTrue,
    if_neg plain.notFalse, plain.notNumber, Option.elim_none]

theorem truth (value : Bool) :
    Spells (if value then "true" else "false").toList [.word (.truth value)] := by
  have undelimited : (if value then "true" else "false").toList.all
      (! Scanner.isDelimiter ·) = true := by
    cases value <;> decide
  rw [List.all_eq_true] at undelimited
  refine bare ?_ (fun c mem => by simpa using undelimited c mem) fun line => ?_
  · cases value <;> decide
  · cases value <;> rfl

theorem number {value : Float} (finite : value.isFinite = true) :
    Spells (Number.render value).toList [.word (.number value)] := by
  have read := Number.read?_render finite
  have undelimited : ∀ c ∈ (Number.render value).toList, Scanner.isDelimiter c = false := by
    intro c mem
    rcases Number.isDigit_of_mem_render finite mem with digit | rfl | rfl
    · exact Scanner.isDelimiter_of_isDigit digit
    · decide
    · decide
  have other : ∀ {text : String}, Number.read? text = none → Number.render value ≠ text := by
    intro text unread same
    rw [same, unread] at read
    cases read
  have filled : (Number.render value).toList ≠ [] := by
    simpa using @other "" (by decide)
  refine bare filled undelimited fun line => ?_
  rw [String.ofList_toList, Lexeme.piece_bare undelimited, if_neg (other (by decide)),
    if_neg (other (by decide)), read, Option.elim_some]

end Spells

/-! ## Words and quotes -/

theorem Quote.toList_intercalate_render (words : Quote) :
    (" ".intercalate (words.map Word.render)).toList = Quote.chars words := by
  rw [String.toList_intercalate]
  induction words with
  | nil => rfl
  | cons word words ih =>
    cases words with
    | nil => simp [Word.render, Quote.chars_singleton]
    | cons next words =>
      rw [Quote.chars_cons_cons, ← ih]
      simp [Word.render]

mutual

/-- The text of a word spells the pieces of that word. -/
theorem Word.spells_chars : (word : Word) → (∀ name ∈ word.symbols, PlainName name) →
    (∀ value ∈ word.numbers, value.isFinite = true) → Spells word.chars word.flatten
  | .number value, _, finite => by
    rw [Word.chars_number]
    exact .number (finite value (by simp [Word.numbers]))
  | .text value, _, _ => by
    rw [Word.chars_text]
    exact .literal value
  | .truth value, _, _ => by
    rw [Word.chars_truth]
    exact .truth value
  | .symbol name, plain, _ => by
    rw [Word.chars_symbol]
    exact .plainName (plain name (by simp [Word.symbols]))
  | .quote words, plain, finite => by
    rw [Word.chars_quote]
    exact .quote (Quote.spells_chars words plain finite)

/-- The text of the words of a quote spells the pieces of these words. -/
theorem Quote.spells_chars : (words : List Word) → (∀ name ∈ Quote.symbols words, PlainName name) →
    (∀ value ∈ Quote.numbers words, value.isFinite = true) →
    Spells (Quote.chars words) (Quote.flatten words)
  | [], _, _ => .nil
  | [word], plain, finite => by
    rw [Quote.chars_singleton, Quote.flatten, Quote.flatten, List.append_nil]
    rw [Quote.symbols, Quote.symbols, List.append_nil] at plain
    rw [Quote.numbers, Quote.numbers, List.append_nil] at finite
    exact Word.spells_chars word plain finite
  | word :: next :: words, plain, finite => by
    rw [Quote.chars_cons_cons, Quote.flatten]
    rw [Quote.symbols, List.forall_mem_append] at plain
    rw [Quote.numbers, List.forall_mem_append] at finite
    exact (Word.spells_chars word plain.1 finite.1).append
      (Quote.spells_chars (next :: words) plain.2 finite.2)

end

/-! ## Reading back -/

section ReadingBack

variable {words : Quote} (plain : ∀ name ∈ Quote.symbols words, PlainName name)
  (finite : ∀ value ∈ Quote.numbers words, value.isFinite = true)
  (nested : ∀ word ∈ words, word.nesting ≤ Nesting.depthLimit)

include plain finite nested

theorem Quote.ofSource_chars {text : String} (chars : text.toList = Quote.chars words) :
    Quote.ofSource text = .ok words := by
  apply Quote.ofSource_of_spells
  · rw [chars]
    exact Quote.spells_chars words plain finite
  · exact Quote.nesting_le_iff.2 nested

theorem Quote.ofSource_render_of_mem {word : Word} (mem : word ∈ words) :
    Quote.ofSource word.render = .ok [word] := by
  apply Quote.ofSource_of_spells
  · rw [Word.render, String.toList_ofList, Quote.flatten, Quote.flatten, List.append_nil]
    exact Word.spells_chars word (fun name inside => plain name (Quote.mem_symbols_of_mem mem inside))
      fun value inside => finite value (Quote.mem_numbers_of_mem mem inside)
  · rw [Quote.nesting, Quote.nesting, Nat.max_zero]
    exact nested word mem

end ReadingBack

/-- The program that prints a quote and reads the text. -/
theorem evaluate_string_parse {inner words : Quote} {limit : Nat} {machine : Machine}
    (read : Quote.ofSource (Word.quote inner).render = .ok words) (below : machine.depth < limit) :
    ∃ log, evaluate limit [.symbol "string", .symbol "parse"]
        { machine with stack := .quote inner :: machine.stack } =
      .ok () { machine with stack := .quote words :: machine.stack, log } := by
  obtain ⟨log, parsed⟩ := Exec.parse_apply (Word.quote inner).render
    { machine with depth := machine.depth + 1 }
  rw [read] at parsed
  obtain ⟨levels, count⟩ : ∃ levels, limit - machine.depth = levels + 1 :=
    ⟨limit - machine.depth - 1, by omega⟩
  -- Inside the level, `string` puts the text on the stack and `parse` takes it off again.
  have performed : Quote.perform (evaluateWithin limit levels) [.symbol "string", .symbol "parse"]
      { machine with stack := .quote inner :: machine.stack, depth := machine.depth + 1 } =
      .ok () { machine with
        stack := .quote words :: machine.stack, depth := machine.depth + 1, log } := by
    show ((Exec.parse (Word.quote inner).render >>= fun words => Exec.push (.quote words)) >>=
      fun _ => pure ()) { machine with depth := machine.depth + 1 } = _
    simp only [bind, EStateM.bind, parsed]
    rfl
  refine ⟨log, ?_⟩
  show evaluateWithin limit (limit - machine.depth) _ _ = _
  rw [count, evaluateWithin, Exec.deeper]
  simp only [performed, Nat.add_sub_cancel]

/-- Words with plain symbols and finite numbers that are nested no deeper than a source may be are
read back from their texts with single spaces in between. So is any quote among them by the program
`string parse`, and so are the words of a stack from the text between its brackets. -/
theorem Quote.ofSource_render (words : Quote)
    (plain : ∀ name ∈ Quote.symbols words, PlainName name)
    (finite : ∀ value ∈ Quote.numbers words, value.isFinite = true)
    (nested : ∀ word ∈ words, word.nesting ≤ Nesting.depthLimit) :
    Quote.ofSource (" ".intercalate (words.map Word.render)) = .ok words ∧
    (∀ inner, .quote inner ∈ words →
      Quote.ofSource (Word.quote inner).render = .ok [.quote inner] ∧
      ∀ limit (machine : Machine), machine.depth < limit →
        ∃ log, evaluate limit [.symbol "string", .symbol "parse"]
            { machine with stack := .quote inner :: machine.stack } =
          .ok () { machine with stack := .quote [.quote inner] :: machine.stack, log }) ∧
    ∀ machine : Machine, machine.stack.reverse = words →
      ∃ text, machine.renderStack = "[" ++ text ++ "]" ∧ Quote.ofSource text = .ok words := by
  refine ⟨?_, ?_, ?_⟩
  · exact Quote.ofSource_chars plain finite nested (Quote.toList_intercalate_render words)
  · intro inner mem
    have read := Quote.ofSource_render_of_mem plain finite nested mem
    exact ⟨read, fun limit machine below => evaluate_string_parse read below⟩
  · intro machine stack
    refine ⟨String.ofList (Quote.chars words), ?_, ?_⟩
    · rw [Machine.renderStack, stack, List.cons_append, ← String.toList_inj]
      simp
    · exact Quote.ofSource_chars plain finite nested String.toList_ofList

/-- A quote with a number, a symbol and a text that needs escapes. -/
theorem Quote.ofSource_render_escaped :
    Quote.ofSource (" ".intercalate ([.quote [.number 0.5, .symbol "dup", .text "\"("]].map
      Word.render)) = .ok [.quote [.number 0.5, .symbol "dup", .text "\"("]] := by
  refine (Quote.ofSource_render _ ?_ ?_ ?_).1
  · decide
  · decide
  · decide

end Concatenative
