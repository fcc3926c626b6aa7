import Concatenative.Builtin
import Concatenative.Machine
import Concatenative.Text.Blank
import Concatenative.Word.Equality

/-!
# What builtins do

Each builtin takes its operands from the top of the stack and then acts. The operand written last is
on top, so it is taken first; a failed operand leaves the operands above it taken and itself in
place. The three builtins that run a quote are given the way to run one.
-/

namespace Concatenative

/-- The result of an operator. There is no division by either zero. -/
def Operator.apply (left right : Float) : Operator → Except Fault Float
  | add => .ok (left + right)
  | subtract => .ok (left - right)
  | multiply => .ok (left * right)
  | divide => if right == 0 then .error .divisionByZero else .ok (left / right)

/-- Takes the right operand and the left operand, and puts the result on the stack. -/
def Operator.perform (operator : Operator) : Exec Unit := do
  let right ← Exec.takeNumber
  let left ← Exec.takeNumber
  Exec.push (.number (← Exec.ofExcept id (operator.apply left right)))

/-- The texts of the words of a quote, one after the other, or the kind of the first that is no
text. -/
def Quote.joinTexts : Quote → Except Kind String :=
  List.foldlM (fun joined word =>
    match word.text? with
    | some text => .ok (joined ++ text)
    | none => .error word.kind) ""

/-- What `cat` can join: the words of a quote, or a text. -/
def Word.joinable? : Word → Option (Quote ⊕ String)
  | .quote words => some (.inl words)
  | .text value => some (.inr value)
  | _ => none

namespace Builtin

open Exec

/-! ## Shuffling -/

/-- A second copy of the top word. -/
def performDup : Exec Unit := do
  let word ← takeAny
  push word
  push word

/-- One word less. -/
def performDrop : Exec Unit := do
  let _ ← takeAny

/-- The two top words, the other way round. -/
def performSwap : Exec Unit := do
  let top ← takeAny
  let below ← takeAny
  push top
  push below

/-- A copy of the second word, on top. -/
def performCopyBelow : Exec Unit := do
  let top ← takeAny
  let below ← takeAny
  push below
  push top
  push below

/-! ## Truth values -/

/-- Takes the right operand and the left operand of a connective. -/
def performConnective (connective : Bool → Bool → Bool) : Exec Unit := do
  let right ← takeTruth
  let left ← takeTruth
  push (.truth (connective left right))

/-- The opposite truth value. -/
def performNot : Exec Unit := do
  let value ← takeTruth
  push (.truth !value)

/-- Whether the two top words are the same. -/
def performEq : Exec Unit := do
  let right ← takeAny
  let left ← takeAny
  push (.truth (left.same right))

/-! ## Quotes and texts -/

/-- The quote of the top word alone. -/
def performWrap : Exec Unit := do
  let word ← takeAny
  push (.quote [word])

/-- The words of a quote, on the stack. -/
def performUnwrap : Exec Unit := do
  pushAll (← takeQuote)

/-- Joins two quotes or two texts, the one on top last. -/
def performCat : Exec Unit := do
  match ← takeAs [.quote, .text] Word.joinable? with
  | .inl top =>
    let below ← takeQuote
    push (.quote (below ++ top))
  | .inr top =>
    let below ← takeText
    push (.text (below ++ top))

/-- A quote with one more word in front. -/
def performCons : Exec Unit := do
  let tail ← takeQuote
  let head ← takeAny
  push (.quote (head :: tail))

/-- The first word of a quote, and the quote of the others. -/
def performUncons : Exec Unit := do
  match (← takeQuote).uncons? with
  | none => throw .unconsEmpty
  | some (head, tail) =>
    push head
    push (.quote tail)

/-- The characters of a text as a quote of texts. -/
def performSplit : Exec Unit := do
  let value ← takeText
  push (.quote (value.toList.map fun c => .text (String.singleton c)))

/-- The texts of a quote as one text. -/
def performJoin : Exec Unit := do
  let words ← takeQuote
  push (.text (← ofExcept (fun kind => .mismatch [.text] (some kind)) words.joinTexts))

/-! ## Conversions -/

/-- The program of a source. -/
def performParse : Exec Unit := do
  let source ← takeText
  push (.quote (← Exec.parse source))

/-- The tag of the kind of a word. -/
def performType : Exec Unit := do
  let word ← takeAny
  push (.text word.kind.tag)

/-- The text of a word. -/
def performString : Exec Unit := do
  let word ← takeAny
  push (.text word.toText)

/-- The number that a text denotes, blanks around it apart. -/
def performNumber : Exec Unit := do
  let value ← takeText
  match Number.read? (Text.trim value) with
  | some x => push (.number x)
  | none => throw (.notNumeric value)

/-- The symbol with a name, which may be any text but the empty one. -/
def performSymbol : Exec Unit := do
  let name ← takeText
  if name.isEmpty then throw .emptySymbol
  push (.symbol name)

/-! ## Output and files -/

/-- Writes a text, with its escapes expanded. -/
def performPrint : Exec Unit := do
  let value ← takeText
  emit (Text.expandEscapes value)

/-- Writes the whole stack on a line. -/
def performShowStack : Exec Unit := do
  emit ((← get).renderStack ++ "\n")

/-- The text of a file. -/
def performRead : Exec Unit := do
  let path ← takeText
  push (.text (← readFile path))

/-- Takes a path and the text to write there. -/
def performWrite : Exec Unit := do
  let path ← takeText
  let contents ← takeText
  writeFile path contents

/-! ## Definitions -/

/-- Takes the name, as a quote of one symbol, and the body of a definition. -/
def performDefine (scope : Scope) : Exec Unit := do
  let label ← takeQuote
  let body ← takeQuote
  match label.singleSymbol? with
  | none => throw (.unnameable label)
  | some name =>
    if (ofName? name).isSome then throw (.reserved name)
    Exec.define name ⟨scope, body⟩

/-! ## Running quotes -/

/-- Runs a quote below the word under it. -/
def performDip (run : Quote → Exec Unit) : Exec Unit := do
  let words ← takeQuote
  let kept ← takeAny
  run words
  push kept

/-- Runs a quote. -/
def performEval (run : Quote → Exec Unit) : Exec Unit := do
  run (← takeQuote)

/-- Runs one of two quotes, the first if the truth value under them holds, in a vocabulary of its
own. -/
def performIfte (run : Quote → Exec Unit) : Exec Unit := do
  let negative ← takeQuote
  let positive ← takeQuote
  let condition ← takeTruth
  isolated (run (if condition then positive else negative))

/-- Does what a builtin does, with `run` to run quotes. -/
def perform (run : Quote → Exec Unit) : Builtin → Exec Unit
  | arithmetic operator => operator.perform
  | and => performConnective (· && ·)
  | or => performConnective (· || ·)
  | not => performNot
  | eq => performEq
  | dup => performDup
  | drop => performDrop
  | swap => performSwap
  | copyBelow => performCopyBelow
  | dip => performDip run
  | eval => performEval run
  | ifte => performIfte run
  | wrap => performWrap
  | unwrap => performUnwrap
  | cat => performCat
  | cons => performCons
  | uncons => performUncons
  | split => performSplit
  | join => performJoin
  | define scope => performDefine scope
  | parse => performParse
  | type => performType
  | string => performString
  | number => performNumber
  | symbol => performSymbol
  | print => performPrint
  | showStack => performShowStack
  | read => performRead
  | write => performWrite
  | exit => throw .exit

end Builtin

end Concatenative
