/-!
# Diagnostics

What a failure tells the outside: a category, on which a host can branch, and one line of text.
-/

namespace Concatenative

/-- The categories of failure. -/
inductive Category
  | malformed
  | mismatch
  | lookup
  | definition
  | domain
  | access
  | limit
  | exit
deriving DecidableEq

/-- The name of a category. -/
def Category.name : Category → String
  | malformed => "syntax"
  | mismatch => "type"
  | lookup => "lookup"
  | definition => "definition"
  | domain => "domain"
  | access => "io"
  | limit => "limit"
  | exit => "exit"

/-- A failure in the words of its report. -/
inductive Diagnostic
  | malformed (line : Nat) (reason : String)
  | mismatch (expected found : String)
  | unknown (name : String)
  | definition (reason : String)
  | domain (reason : String)
  | access (path reason : String)
  | tooDeep (limit : Nat)
  | exit
deriving DecidableEq

namespace Diagnostic

/-- The category of a failure. -/
def category : Diagnostic → Category
  | malformed .. => .malformed
  | mismatch .. => .mismatch
  | unknown _ => .lookup
  | definition _ => .definition
  | domain _ => .domain
  | access .. => .access
  | tooDeep _ => .limit
  | exit => .exit

/-- The line that reports a failure. -/
def message : Diagnostic → String
  | malformed line reason => "syntax error on line " ++ toString line ++ ": " ++ reason
  | mismatch expected found => "expected word of type " ++ expected ++ ", found " ++ found
  | unknown name => "unrecognised word " ++ name
  | definition reason => "definition error: " ++ reason
  | domain reason => reason
  | access path reason => "cannot access " ++ path ++ ": " ++ reason
  | tooDeep limit => "evaluation nested deeper than " ++ toString limit ++ " levels"
  | exit => "Bye"

end Diagnostic

end Concatenative
