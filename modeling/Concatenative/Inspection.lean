import Concatenative.Builtin
import Concatenative.Machine

/-!
# Inspection

The form in which values show their kind, for whoever looks into a machine rather than at its
output.
-/

namespace Concatenative

mutual

/-- A word with its kind. -/
def Word.inspect : Word → String
  | .number value => "Number(" ++ Number.inspect value ++ ")"
  | .text value => "String(" ++ Text.quoted value ++ ")"
  | .truth value => "Boolean(" ++ (if value then "true" else "false") ++ ")"
  | .symbol name => "Symbol(" ++ Text.quoted name ++ ")"
  | .quote words => "Quote(Quote([" ++ Quote.inspectFrom "" words ++ "]))"

/-- The words of a quote after a text, with a comma before each but the first one. -/
def Quote.inspectFrom (text : String) : List Word → String
  | [] => text
  | word :: words =>
    Quote.inspectFrom (text ++ (if text.isEmpty then "" else ", ") ++ word.inspect) words

end

/-- The stack from its bottom, the settings and the level of a machine. -/
def Machine.inspect (machine : Machine) (limit : Nat) : String :=
  "Evaluator \x7b stack: [" ++ Quote.inspectFrom "" machine.stack.reverse ++
    "], config: Config \x7b max_depth: " ++ toString limit ++ " \x7d, depth: " ++
    toString machine.depth ++ " \x7d"

/-- The operator by its action. -/
def Operator.inspect : Operator → String
  | add => "Add"
  | subtract => "Subtract"
  | multiply => "Multiply"
  | divide => "Divide"

/-- The builtin by its action. -/
def Builtin.inspect : Builtin → String
  | arithmetic operator => "Arithmetic(" ++ operator.inspect ++ ")"
  | and => "And"
  | or => "Or"
  | not => "Not"
  | eq => "Eq"
  | dup => "Dup"
  | drop => "Drop"
  | swap => "Swap"
  | copyBelow => "Over"
  | dip => "Dip"
  | eval => "Eval"
  | ifte => "Ifte"
  | wrap => "Quote"
  | unwrap => "Unwrap"
  | cat => "Cat"
  | cons => "Cons"
  | uncons => "Uncons"
  | split => "Split"
  | join => "Join"
  | define .isolated => "Def"
  | define .shared => "Defm"
  | parse => "Parse"
  | type => "Type"
  | string => "String"
  | number => "Number"
  | symbol => "Symbol"
  | print => "Print"
  | showStack => "Show"
  | read => "Read"
  | write => "Write"
  | exit => "Exit"

end Concatenative
