/-!
# Malformed sources

The four ways in which a text can fail to be a program, and the line that each is reported on.
-/

namespace Concatenative

/-- Why a text is not a program. -/
inductive Malformation
  | unterminatedText
  | nestedTooDeeply
  | unmatchedClose
  | unclosedOpen
deriving DecidableEq

/-- What is wrong, in words. -/
def Malformation.message : Malformation → String
  | unterminatedText => "unterminated string"
  | nestedTooDeeply => "quotes nested too deeply"
  | unmatchedClose => "unmatched close paren"
  | unclosedOpen => "unclosed paren"

/-- No two malformations are put into the same words. -/
theorem Malformation.message_inj {m n : Malformation} : m.message = n.message ↔ m = n := by
  cases m <;> cases n <;> decide

/-- A malformation and the line, counted from one, where it shows. -/
structure Malformed where
  line : Nat
  cause : Malformation
deriving DecidableEq

end Concatenative
