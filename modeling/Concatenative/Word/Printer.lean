import Concatenative.Number
import Concatenative.Text.Escape
import Concatenative.Word

/-!
# The text of words

A word is printed as the source would write it: a text between double quotes with its quotes and
backslashes escaped, a quote between parentheses with single spaces between its words. The printer
puts characters on a reversed list, so that long quotes need no deep recursion; the equations at the
end state what it prints.
-/

namespace Concatenative

mutual

/-- Puts the characters of a word on top of the reversed text `done`. -/
def Word.printOnto (done : List Char) : Word → List Char
  | .number value => (Number.render value).toList.reverseAux done
  | .text value => '"' :: (Text.encodeLiteral value.toList).reverseAux ('"' :: done)
  | .truth value => (if value then "true" else "false").toList.reverseAux done
  | .symbol name => name.toList.reverseAux done
  | .quote words => ')' :: Quote.printOnto ('(' :: done) words

/-- Puts the words of a quote, with a space between each two, on top of the reversed text `done`. -/
def Quote.printOnto (done : List Char) : List Word → List Char
  | [] => done
  | word :: words => Quote.printMoreOnto (word.printOnto done) words

/-- Puts further words of a quote, with a space before each, on top of the reversed text `done`. -/
def Quote.printMoreOnto (done : List Char) : List Word → List Char
  | [] => done
  | word :: words => Quote.printMoreOnto (word.printOnto (' ' :: done)) words

end

/-- The characters of a word. -/
def Word.chars (word : Word) : List Char :=
  (word.printOnto []).reverse

/-- The characters of the words of a quote, with a space between each two. -/
def Quote.chars (words : Quote) : List Char :=
  (Quote.printOnto [] words).reverse

/-- The text of a word. -/
def Word.render (word : Word) : String :=
  String.ofList word.chars

/-- The text of a quote, parentheses included. -/
def Quote.render (words : Quote) : String :=
  (Word.quote words).render

/-- The text that `string` makes of a word: a text is itself, anything else is printed. -/
def Word.toText : Word → String
  | .text value => value
  | word => word.render

/-! ## What is printed -/

mutual

theorem Word.printOnto_eq (done : List Char) (word : Word) :
    word.printOnto done = word.printOnto [] ++ done := by
  cases word with
  | number value => simp [Word.printOnto, List.reverseAux_eq]
  | text value => simp [Word.printOnto, List.reverseAux_eq]
  | truth value => simp [Word.printOnto, List.reverseAux_eq]
  | symbol name => simp [Word.printOnto, List.reverseAux_eq]
  | quote words =>
    simp only [Word.printOnto]
    rw [Quote.printOnto_eq ('(' :: done), Quote.printOnto_eq ['(']]
    simp

theorem Quote.printOnto_eq (done : List Char) (words : List Word) :
    Quote.printOnto done words = Quote.printOnto [] words ++ done := by
  cases words with
  | nil => simp [Quote.printOnto]
  | cons word words =>
    simp only [Quote.printOnto]
    rw [Quote.printMoreOnto_eq, Word.printOnto_eq, Quote.printMoreOnto_eq (word.printOnto [])]
    simp

theorem Quote.printMoreOnto_eq (done : List Char) (words : List Word) :
    Quote.printMoreOnto done words = Quote.printMoreOnto [] words ++ done := by
  cases words with
  | nil => simp [Quote.printMoreOnto]
  | cons word words =>
    simp only [Quote.printMoreOnto]
    rw [Quote.printMoreOnto_eq, Word.printOnto_eq (' ' :: done),
      Quote.printMoreOnto_eq (word.printOnto [' ']), Word.printOnto_eq [' ']]
    simp

end

theorem Word.chars_number (value : Float) :
    (Word.number value).chars = (Number.render value).toList := by
  simp [Word.chars, Word.printOnto, List.reverseAux_eq]

theorem Word.chars_text (value : String) :
    (Word.text value).chars = '"' :: Text.encodeLiteral value.toList ++ ['"'] := by
  simp [Word.chars, Word.printOnto, List.reverseAux_eq]

theorem Word.chars_truth (value : Bool) :
    (Word.truth value).chars = (if value then "true" else "false").toList := by
  simp [Word.chars, Word.printOnto, List.reverseAux_eq]

theorem Word.chars_symbol (name : String) : (Word.symbol name).chars = name.toList := by
  simp [Word.chars, Word.printOnto, List.reverseAux_eq]

theorem Word.chars_quote (words : List Word) :
    (Word.quote words).chars = '(' :: Quote.chars words ++ [')'] := by
  simp only [Word.chars, Word.printOnto, Quote.chars]
  rw [Quote.printOnto_eq]
  simp

@[simp]
theorem Quote.chars_nil : Quote.chars [] = [] := rfl

theorem Quote.chars_singleton (word : Word) : Quote.chars [word] = word.chars := rfl

theorem Quote.chars_cons_cons (word next : Word) (words : List Word) :
    Quote.chars (word :: next :: words) = word.chars ++ ' ' :: Quote.chars (next :: words) := by
  simp only [Quote.chars, Word.chars, Quote.printOnto, Quote.printMoreOnto]
  rw [Word.printOnto_eq (' ' :: word.printOnto []), Quote.printMoreOnto_eq,
    Quote.printMoreOnto_eq (next.printOnto [])]
  simp

end Concatenative
