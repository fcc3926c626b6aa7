import Concatenative.Vocabulary

/-!
# Builtins

The words that mean something in every program. Some have two names. Programs find a builtin by its
name (`Builtin.ofName?`), and readers find all names in a list (`Builtin.names`). The two are
written down separately, and they agree: the listed names are those that have a builtin
(`Builtin.isSome_ofName?`).
-/

namespace Concatenative

/-- The operators on numbers. -/
inductive Operator
  | add
  | subtract
  | multiply
  | divide
deriving DecidableEq

/-- The words that mean something in every program. -/
inductive Builtin
  | arithmetic (operator : Operator)
  | and
  | or
  | not
  | eq
  | dup
  | drop
  | swap
  | copyBelow
  | dip
  | eval
  | ifte
  | wrap
  | unwrap
  | cat
  | cons
  | uncons
  | split
  | join
  | define (scope : Scope)
  | parse
  | type
  | string
  | number
  | symbol
  | print
  | showStack
  | read
  | write
  | exit
deriving DecidableEq

/-- The operator with a name. -/
def Operator.ofName? : String → Option Operator
  | "+" => some add
  | "-" => some subtract
  | "*" => some multiply
  | "/" => some divide
  | _ => none

namespace Builtin

/-- All names of builtins, in the order in which they are listed. -/
def names : List String :=
  ["+", "-", "*", "/", "and", "apply", "cat", "cons", "def", "defm", "defmacro", "defun", "dip",
    "drop", "dup", "eq?", "eval", "exit", "ifte", "join", "not", "number", "or", "over", "parse",
    "print", "quote", ".s", "read", "split", "string", "swap", "symbol", "type", "uncons",
    "unwrap", "wrap", "write"]

/-- The builtin with a name, operators apart. -/
def ofWord? : String → Option Builtin
  | "and" => some and
  | "cat" => some cat
  | "cons" => some cons
  | "def" | "defun" => some (define .isolated)
  | "defm" | "defmacro" => some (define .shared)
  | "dip" => some dip
  | "drop" => some drop
  | "dup" => some dup
  | "eq?" => some eq
  | "eval" | "apply" => some eval
  | "exit" => some exit
  | "ifte" => some ifte
  | "join" => some join
  | "not" => some not
  | "number" => some number
  | "or" => some or
  | "over" => some copyBelow
  | "parse" => some parse
  | "print" => some print
  | "quote" | "wrap" => some wrap
  | "read" => some read
  | ".s" => some showStack
  | "split" => some split
  | "string" => some string
  | "swap" => some swap
  | "symbol" => some symbol
  | "type" => some type
  | "uncons" => some uncons
  | "unwrap" => some unwrap
  | "write" => some write
  | _ => none

/-- The builtin with a name. -/
def ofName? (name : String) : Option Builtin :=
  match Operator.ofName? name with
  | some operator => some (arithmetic operator)
  | none => ofWord? name

theorem mem_names_of_operator {name : String} {operator : Operator}
    (meaning : Operator.ofName? name = some operator) : name ∈ names := by
  unfold Operator.ofName? at meaning
  split at meaning
  -- The last case is that of all other names, which have no operator.
  case h_5 => cases meaning
  all_goals decide

theorem mem_names_of_ofWord? {name : String} {builtin : Builtin}
    (meaning : ofWord? name = some builtin) : name ∈ names := by
  unfold ofWord? at meaning
  split at meaning
  case h_35 => cases meaning
  all_goals decide

/-- A name with a builtin is listed. -/
theorem mem_names_of_ofName? {name : String} {builtin : Builtin}
    (meaning : ofName? name = some builtin) : name ∈ names := by
  unfold ofName? at meaning
  split at meaning
  case h_1 operator found => exact mem_names_of_operator found
  case h_2 => exact mem_names_of_ofWord? meaning

/-- Every listed name has a builtin. -/
theorem isSome_ofName?_of_mem : ∀ name ∈ names, (ofName? name).isSome = true := by
  decide

/-- Exactly the listed names have a builtin. -/
theorem isSome_ofName? {name : String} : (ofName? name).isSome = true ↔ name ∈ names := by
  constructor
  · intro found
    obtain ⟨builtin, meaning⟩ := Option.isSome_iff_exists.1 found
    exact mem_names_of_ofName? meaning
  · exact isSome_ofName?_of_mem name

/-- A builtin among `builtins` is called by one of `observers` if no other listed name has one of
these builtins. -/
theorem mem_of_ofName? {observers : List String} {builtins : List Builtin}
    (listed : ∀ name ∈ names, ∀ builtin ∈ ofName? name, builtin ∈ builtins → name ∈ observers)
    {name : String} {builtin : Builtin} (meaning : ofName? name = some builtin)
    (mem : builtin ∈ builtins) : name ∈ observers :=
  listed name (mem_names_of_ofName? meaning) builtin meaning mem

end Builtin

end Concatenative
