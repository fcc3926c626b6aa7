import Concatenative.Console.CommandLine
import Concatenative.Pipe.Backspace

/-!
# A line editor for pipes

The line editor that the program is run with, for input that comes through a pipe. It delivers the
lines of the input once the backspaces in them have had their effect. In a terminal that cannot edit
lines it writes a prompt before each. Nothing that is said of conversations looks into it:
`Console.launch` can be given any line editor, and this is one of them.
-/

namespace Concatenative.Pipe

open Console

/-- Cuts bytes after each line feed, `line` being the reversed bytes since the last one. Nothing
after the last line feed is no line. -/
def cutLines (line : List UInt8) : List UInt8 → List (List UInt8)
  | [] => if line.isEmpty then [] else [line.reverse]
  | byte :: rest =>
    if byte == 10 then line.reverse :: cutLines [] rest else cutLines (byte :: line) rest

/-- The lines of the input. -/
def inputLines (input : ByteArray) : List ByteArray :=
  (cutLines [] input.toList).map fun line => ⟨line.toArray⟩

/-- The terminals that cannot edit a line. -/
def plainTerminals : List String :=
  ["dumb", "cons25", "emacs"]

/-- What is written before each line. -/
def prompt (terminal : Option String) : ByteArray :=
  if terminal.any fun name => plainTerminals.contains name.toLower then "> ".toByteArray else .empty

/-- Delivers lines up to the first that is not text. -/
def deliver (prompt : ByteArray) : List ByteArray → Delivery
  | [] => .stop prompt .endOfInput
  | line :: lines =>
    match String.fromUTF8? line with
    | none => .stop prompt (.failed Obstacle.notUnicode.message)
    | some text => .line prompt (applyBackspaces text) (deliver prompt lines)

/-- The line editor for pipes. -/
def editor : LineEditor where
  deliver terminal input := .ok (deliver (prompt terminal) (inputLines input))

end Concatenative.Pipe
