import Concatenative.Lexeme
import Concatenative.Number
import Concatenative.Text.Escape
import Concatenative.Word

/-!
# Nested quotes from flat lexemes

An open parenthesis begins a quote and the matching close parenthesis ends it; every other lexeme is
one word. While lexemes are read, `Nesting` holds the quote being built and, for each enclosing one,
the line of the parenthesis that interrupted it. At most `Nesting.depthLimit` quotes may be open at
once.
-/

namespace Concatenative

/-- The word that a lexeme other than a parenthesis stands for. -/
def Word.ofLexeme (lexeme : Lexeme) : Word :=
  if lexeme.text = "true" then .truth true
  else if lexeme.text = "false" then .truth false
  else
    match lexeme.literalBody? with
    | some body => .text (String.ofList (Text.decodeLiteral body))
    | none =>
      match Number.read? lexeme.text with
      | some value => .number value
      | none => .symbol lexeme.text

/-- A quote that waits for the end of a quote inside it: the line where the inner one opens, and its
own words so far, the last one first. -/
structure Nesting.Outer where
  line : Nat
  words : List Word
deriving DecidableEq

/-- The words of the quote being built, the last one first, and the quotes around it, the innermost
first. -/
structure Nesting where
  words : List Word := []
  outer : List Nesting.Outer := []
deriving DecidableEq

namespace Nesting

/-- How many quotes may be open at once. -/
def depthLimit : Nat := 64

/-- Adds a word to the quote being built. -/
def add (nesting : Nesting) (word : Word) : Nesting :=
  { nesting with words := word :: nesting.words }

/-- Begins a quote. -/
def enter (nesting : Nesting) (line : Nat) : Except Malformed Nesting :=
  if nesting.outer.length < depthLimit then
    .ok { words := [], outer := ⟨line, nesting.words⟩ :: nesting.outer }
  else
    .error ⟨line, .nestedTooDeeply⟩

/-- Ends the quote being built. -/
def leave (nesting : Nesting) (line : Nat) : Except Malformed Nesting :=
  match nesting.outer with
  | [] => .error ⟨line, .unmatchedClose⟩
  | around :: outer => .ok { words := .quote nesting.words.reverse :: around.words, outer }

/-- Reads one lexeme. -/
def step (nesting : Nesting) (lexeme : Lexeme) : Except Malformed Nesting :=
  if lexeme.text = "(" then nesting.enter lexeme.line
  else if lexeme.text = ")" then nesting.leave lexeme.line
  else .ok (nesting.add (.ofLexeme lexeme))

/-- Reads lexemes until one is refused. -/
def feed (nesting : Nesting) (lexemes : List Lexeme) : Except Malformed Nesting :=
  lexemes.foldlM step nesting

/-- The words that have been read, unless a quote is still open. -/
def finish (nesting : Nesting) : Except Malformed Quote :=
  match nesting.outer with
  | [] => .ok nesting.words.reverse
  | around :: _ => .error ⟨around.line, .unclosedOpen⟩

/-- Reading lexemes in two parts is reading them all. -/
theorem feed_append (nesting : Nesting) (front rest : List Lexeme) :
    nesting.feed (front ++ rest) = nesting.feed front >>= (·.feed rest) :=
  List.foldlM_append

end Nesting

namespace Quote

/-- The words that a sequence of lexemes stands for, parentheses becoming quotes. -/
def ofLexemes (lexemes : List Lexeme) : Except Malformed Quote := do
  (← ({} : Nesting).feed lexemes).finish

/-- The program that a source stands for. -/
def ofSource (source : String) : Except Malformed Quote := do
  ofLexemes (← Lexeme.scan source)

end Quote

end Concatenative
