import Concatenative.Diagnostic
import Concatenative.Malformed
import Concatenative.Text.Quoted
import Concatenative.Word.Printer

/-!
# Faults

Why a run stopped. Each fault names its cause; `Fault.diagnostic` puts it into words. Asking to
leave is a fault too: it stops a run from any depth, and the host decides what it means.
-/

namespace Concatenative

/-- Why a file, or the output, cannot be used. -/
inductive Obstacle
  | missing
  | notDirectory
  | isDirectory
  | nameTooLong
  | nulInName
  | notUnicode
  | sinkFull
  | flushFailed
deriving DecidableEq

/-- What stands in the way, in words. -/
def Obstacle.message : Obstacle → String
  | missing => "No such file or directory (os error 2)"
  | notDirectory => "Not a directory (os error 20)"
  | isDirectory => "Is a directory (os error 21)"
  | nameTooLong => "File name too long (os error 36)"
  | nulInName => "file name contained an unexpected NUL byte"
  | notUnicode => "stream did not contain valid UTF-8"
  | sinkFull => "sink full"
  | flushFailed => "flush failed"

/-- Why a run stopped. -/
inductive Fault
  /-- The text is not a program. -/
  | malformed (error : Malformed)
  /-- The word in reach has none of the accepted kinds, or there is none. -/
  | mismatch (accepted : List Kind) (found : Option Kind)
  /-- The symbol names neither a builtin nor a definition. -/
  | unknown (name : String)
  /-- A definition is to be named by something other than one symbol. -/
  | unnameable (quote : Quote)
  /-- A definition is to take the name of a builtin. -/
  | reserved (name : String)
  /-- A definition is to take a name that has one. -/
  | alreadyDefined (name : String)
  | divisionByZero
  | unconsEmpty
  /-- The text is not a number. -/
  | notNumeric (text : String)
  | emptySymbol
  /-- A file, or the output, cannot be used. -/
  | access (path : String) (obstacle : Obstacle)
  /-- A quote is to be run below the deepest level. -/
  | tooDeep (limit : Nat)
  /-- The program asks to leave. -/
  | exit
deriving DecidableEq

namespace Fault

/-- The kind of the word that was found, or that there was none. -/
def describeFound : Option Kind → String
  | some kind => kind.tag
  | none => "empty stack"

/-- The fault in the words of its report. -/
def diagnostic : Fault → Diagnostic
  | malformed error => .malformed error.line error.cause.message
  | mismatch accepted found => .mismatch (Kind.describe accepted) (describeFound found)
  | unknown name => .unknown name
  | unnameable quote =>
    .definition ("word for new vocabulary entry must be a single symbol, got " ++ quote.render)
  | reserved name => .definition (name ++ " is a builtin")
  | alreadyDefined name => .definition (name ++ " is already defined")
  | divisionByZero => .domain "division by zero"
  | unconsEmpty => .domain "cannot uncons an empty quote"
  | notNumeric text => .domain ("cannot convert " ++ Text.quoted text ++ " to a number")
  | emptySymbol => .domain "cannot make a symbol from an empty string"
  | access path obstacle => .access path obstacle.message
  | tooDeep limit => .tooDeep limit
  | exit => .exit

/-- The category of a fault. -/
def category (fault : Fault) : Category :=
  fault.diagnostic.category

/-- The line that reports a fault. -/
def message (fault : Fault) : String :=
  fault.diagnostic.message

end Fault

end Concatenative
