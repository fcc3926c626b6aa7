import Concatenative.Fault
import Concatenative.Vocabulary

/-!
# Notes

What a run records about itself for whoever wants to follow it. Notes have no effect on the run.
-/

namespace Concatenative

/-- How much a note matters. -/
inductive Note.Level
  | trace
  | debug
  | warning
deriving DecidableEq

/-- The name of a level. -/
def Note.Level.name : Note.Level → String
  | trace => "TRACE"
  | debug => "DEBUG"
  | warning => "WARN"

/-- Something worth recording. -/
inductive Note
  /-- A source was cut into so many lexemes. -/
  | scanned (lexemes : Nat)
  /-- A source became a quote of so many words. -/
  | parsed (words : Nat)
  /-- A name was given a meaning. -/
  | defined (name : String) (definition : Definition)
  /-- A name was called at a level. -/
  | called (name : String) (scope : Scope) (depth : Nat)
  /-- A file was read and is about to be run. -/
  | running (path : String)
  /-- A fault undid an input. -/
  | rolledBack (fault : Fault)
  /-- The text set for the limit is not a positive integer. -/
  | limitIgnored (variableName text : String)
deriving DecidableEq

namespace Note

/-- How much the note matters. -/
def level : Note → Level
  | scanned _ => .trace
  | parsed _ => .debug
  | defined .. => .debug
  | called .. => .trace
  | running _ => .debug
  | rolledBack _ => .debug
  | limitIgnored .. => .warning

/-- The note in words. -/
def message : Note → String
  | scanned lexemes => "lexed " ++ toString lexemes ++ " lexemes"
  | parsed words => "parsed " ++ toString words ++ " top-level words"
  | defined name definition =>
    "defining " ++ definition.scope.name ++ " " ++ name ++ " as " ++ definition.body.render
  | called name scope depth =>
    "calling " ++ scope.name ++ " " ++ name ++ " at depth " ++ toString depth
  | running path => "running " ++ path
  | rolledBack fault =>
    "rolling back after " ++ fault.category.name ++ " error: " ++ fault.message
  | limitIgnored variableName text =>
    "ignoring " ++ variableName ++ "=" ++ Text.quoted text ++ ": not a positive integer"

/-- The note as one line of a record. -/
def render (note : Note) : String :=
  note.level.name ++ " " ++ note.message

end Note

end Concatenative
