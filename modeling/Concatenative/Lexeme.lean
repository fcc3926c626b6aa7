import Concatenative.Malformed
import Concatenative.Text.Blank

/-!
# Lexemes

A source is cut into lexemes: parentheses, string literals with their quotes and escapes intact, and
bare words, each with the line of its first character. Blanks and comments only separate. The
scanner takes one character at a time, so that scanning a text in two parts is scanning it whole
(`Scanner.feed_append`); the only failure is a literal that is still open at the end.
-/

namespace Concatenative

/-- A piece of a source and the line, counted from one, of its first character. -/
structure Lexeme where
  text : String
  line : Nat
deriving DecidableEq

namespace Lexeme

/-- The text between the quotes of a string literal. A literal starts and ends with a quote, and the
two are different characters. -/
def literalBody? (lexeme : Lexeme) : Option (List Char) :=
  match lexeme.text.toList with
  | '"' :: rest => if rest.getLast? = some '"' then some rest.dropLast else none
  | _ => none

/-- Whether the lexeme has the form of a string literal. -/
def isLiteral (lexeme : Lexeme) : Bool :=
  lexeme.literalBody?.isSome

end Lexeme

/-- Where the scanner stands in the source. The characters read are kept with the last one first. -/
inductive Scanner.Place
  | gap
  | comment
  | bare (start : Nat) (read : List Char)
  | literal (start : Nat) (read : List Char)
  | escape (start : Nat) (read : List Char)
deriving DecidableEq

/-- The state between two characters: the line of the next one, the place, and the lexemes found so
far with the last one first. -/
structure Scanner where
  line : Nat := 1
  place : Scanner.Place := .gap
  found : List Lexeme := []
deriving DecidableEq

namespace Scanner

/-- Whether a bare word ends before `c`. -/
def isDelimiter (c : Char) : Bool :=
  Text.isBlank c || c == '(' || c == ')' || c == '"' || c == '#'

/-- Records the lexeme that `read` spells backwards. -/
def emit (scanner : Scanner) (start : Nat) (read : List Char) : Scanner :=
  { scanner with place := .gap, found := ⟨String.ofList read.reverse, start⟩ :: scanner.found }

/-- Goes to the next line after a line break. -/
def advance (scanner : Scanner) (c : Char) : Scanner :=
  if c == '\n' then { scanner with line := scanner.line + 1 } else scanner

/-- Reads a character that does not belong to a lexeme begun earlier. -/
def fromGap (scanner : Scanner) (c : Char) : Scanner :=
  if Text.isBlank c then { scanner with place := .gap }
  else if c == '#' then { scanner with place := .comment }
  else if c == '(' || c == ')' then scanner.emit scanner.line [c]
  else if c == '"' then { scanner with place := .literal scanner.line [c] }
  else { scanner with place := .bare scanner.line [c] }

/-- Reads a character, apart from counting lines. -/
def enter (scanner : Scanner) (c : Char) : Scanner :=
  match scanner.place with
  | .gap => scanner.fromGap c
  | .comment => if c == '\n' then { scanner with place := .gap } else scanner
  | .bare start read =>
    if isDelimiter c then (scanner.emit start read).fromGap c
    else { scanner with place := .bare start (c :: read) }
  | .literal start read =>
    if c == '"' then scanner.emit start (c :: read)
    else if c == '\\' then { scanner with place := .escape start (c :: read) }
    else { scanner with place := .literal start (c :: read) }
  | .escape start read => { scanner with place := .literal start (c :: read) }

/-- Reads one character. -/
def step (scanner : Scanner) (c : Char) : Scanner :=
  (scanner.enter c).advance c

/-- Reads a text. -/
def feed (scanner : Scanner) (text : List Char) : Scanner :=
  text.foldl step scanner

/-- The lexemes of the text that has been read, unless it ends inside a string literal. -/
def finish (scanner : Scanner) : Except Malformed (List Lexeme) :=
  match scanner.place with
  | .gap | .comment => .ok scanner.found.reverse
  | .bare start read => .ok (scanner.emit start read).found.reverse
  | .literal start _ | .escape start _ => .error ⟨start, .unterminatedText⟩

/-- Reading a text in two parts is reading it whole. -/
theorem feed_append (scanner : Scanner) (front rest : List Char) :
    scanner.feed (front ++ rest) = (scanner.feed front).feed rest :=
  List.foldl_append

@[simp]
theorem feed_nil (scanner : Scanner) : scanner.feed [] = scanner := rfl

@[simp]
theorem feed_cons (scanner : Scanner) (c : Char) (text : List Char) :
    scanner.feed (c :: text) = (scanner.step c).feed text := rfl

end Scanner

namespace Lexeme

/-- Cuts a source into lexemes. -/
def scan (source : String) : Except Malformed (List Lexeme) :=
  ({} : Scanner).feed source.toList |>.finish

example : (scan "a#b\n(\"c d\"").toOption =
    some [⟨"a", 1⟩, ⟨"(", 2⟩, ⟨"\"c d\"", 2⟩] := by
  decide +kernel

end Lexeme

end Concatenative
