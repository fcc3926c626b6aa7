import Concatenative.Text.Extending
import Concatenative.Text.Ignorable
import Concatenative.Text.Unprintable

/-!
# Quoted text

How a message shows a text that may hold anything: between double quotes, with every character that
could not be seen or would be misread written as an escape.
-/

namespace Concatenative.Text

/-- The escape that names a code point: `\u`, then its hexadecimal digits between braces. -/
def codePointEscape (c : Char) : List Char :=
  ['\\', 'u', '\x7b'] ++ Nat.toDigits 16 c.toNat ++ ['\x7d']

/-- The marks that belong to the character before them and yet fill a place of their own: the
halfwidth signs of voicing. -/
def standaloneMarks : CodePoints :=
  [(0xff9e, 0xff9f)]

/-- Whether `c` cannot be read as it stands: it has no visible form, a display may leave it out, or
it would join the character before it. -/
def isElusive (c : Char) : Bool :=
  isUnprintable c || isIgnorable c || (isExtending c && !standaloneMarks.has c)

/-- One character of a quoted text. -/
def quoteChar (c : Char) : List Char :=
  match c with
  | '\x00' => ['\\', '0']
  | '\t' => ['\\', 't']
  | '\r' => ['\\', 'r']
  | '\n' => ['\\', 'n']
  | '\\' => ['\\', '\\']
  | '"' => ['\\', '"']
  | _ => if isElusive c then codePointEscape c else [c]

/-- The text between double quotes, with escapes where a character cannot be shown. -/
def quoted (text : String) : String :=
  String.ofList ('"' :: text.toList.flatMap quoteChar ++ ['"'])

example : quoteChar 'é' = ['é'] := by decide +kernel

example : quoteChar '\uff9f' = ['\uff9f'] := by decide +kernel

example : quoteChar '\u200b' = ['\\', 'u', '\x7b', '2', '0', '0', 'b', '\x7d'] := by decide +kernel

end Concatenative.Text
