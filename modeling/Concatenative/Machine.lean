import Concatenative.Disk
import Concatenative.Nesting
import Concatenative.Note
import Concatenative.Sink

/-!
# The machine

The state of a run, and the few actions from which everything else is built. An action that fails
still leaves a state, with whatever happened before the failure: output written, words taken, files
changed. Undoing is left to those who want it.
-/

namespace Concatenative

/-- The state of a run. The top of the stack is the head of the list; the last note comes first. -/
structure Machine where
  stack : List Word := []
  vocabulary : Vocabulary := .empty
  depth : Nat := 0
  sink : Sink := {}
  disk : Disk := default
  log : List Note := []

instance : Inhabited Machine :=
  ⟨{}⟩

/-- The stack on one line, the top at the end. -/
def Machine.renderStack (machine : Machine) : String :=
  String.ofList ('[' :: Quote.chars machine.stack.reverse ++ [']'])

/-- An action on the machine, which may stop with a fault. -/
abbrev Exec := EStateM Fault Machine

namespace Exec

/-- The machine that an action leaves, whether it succeeds or fails. -/
def machineAfter {α : Type} : EStateM.Result Fault Machine α → Machine
  | .ok _ machine => machine
  | .error _ machine => machine

/-- Fails with the fault made of an error. -/
def ofExcept {ε α : Type} (fault : ε → Fault) : Except ε α → Exec α
  | .ok value => pure value
  | .error error => throw (fault error)

/-- Records a note. -/
def note (entry : Note) : Exec Unit :=
  modify fun machine => { machine with log := entry :: machine.log }

/-! ## The stack -/

/-- Puts a word on the stack. -/
def push (word : Word) : Exec Unit :=
  modify fun machine => { machine with stack := word :: machine.stack }

/-- Puts the words of a quote on the stack, the first one first. -/
def pushAll (words : Quote) : Exec Unit :=
  modify fun machine => { machine with stack := words.reverseAux machine.stack }

/-- Takes the top word if `view` sees something in it. A word of another kind stays where it is. -/
def takeAs {α : Type} (accepted : List Kind) (view : Word → Option α) : Exec α := fun machine =>
  match machine.stack with
  | [] => .error (.mismatch accepted none) machine
  | word :: rest =>
    match view word with
    | some value => .ok value { machine with stack := rest }
    | none => .error (.mismatch accepted (some word.kind)) machine

/-- Takes the top word if it has one of the accepted kinds. -/
def take (accepted : List Kind) : Exec Word :=
  takeAs accepted fun word => if word.kind ∈ accepted then some word else none

/-- Takes the top word. -/
def takeAny : Exec Word :=
  take Kind.all

/-- Takes a number. -/
def takeNumber : Exec Float :=
  takeAs [.number] Word.number?

/-- Takes a text. -/
def takeText : Exec String :=
  takeAs [.text] Word.text?

/-- Takes a truth value. -/
def takeTruth : Exec Bool :=
  takeAs [.truth] Word.truth?

/-- Takes a quote. -/
def takeQuote : Exec Quote :=
  takeAs [.quote] Word.quote?

/-! ## Output and files -/

/-- The name under which faults of the output are reported. -/
def outputPath : String := "<stdout>"

/-- Writes a text to the output. -/
def emit (text : String) : Exec Unit := fun machine =>
  match machine.sink.write text with
  | (sink, none) => .ok () { machine with sink }
  | (sink, some obstacle) => .error (.access outputPath obstacle) { machine with sink }

/-- Reads the text of a file. -/
def readFile (path : String) : Exec String := do
  ofExcept (.access path) ((← get).disk.read path)

/-- Writes a text to a file. -/
def writeFile (path contents : String) : Exec Unit := do
  let disk ← ofExcept (.access path) ((← get).disk.write path contents)
  modify fun machine => { machine with disk }

/-! ## Programs and names -/

/-- Reads a program from its source. -/
def parse (source : String) : Exec Quote := do
  let lexemes ← ofExcept .malformed (Lexeme.scan source)
  note (.scanned lexemes.length)
  let words ← ofExcept .malformed (Quote.ofLexemes lexemes)
  note (.parsed words.length)
  return words

/-- Gives a new name its meaning. -/
def define (name : String) (definition : Definition) : Exec Unit := do
  let vocabulary ← ofExcept id ((← get).vocabulary.define name definition)
  note (.defined name definition)
  modify fun machine => { machine with vocabulary }

/-- Puts the vocabulary back after the action, whether it succeeds or fails. -/
def isolated {α : Type} (action : Exec α) : Exec α := fun machine =>
  match action machine with
  | .ok value after => .ok value { after with vocabulary := machine.vocabulary }
  | .error fault after => .error fault { after with vocabulary := machine.vocabulary }

/-- Runs the action one level deeper. -/
def deeper {α : Type} (action : Exec α) : Exec α := fun machine =>
  match action { machine with depth := machine.depth + 1 } with
  | .ok value after => .ok value { after with depth := after.depth - 1 }
  | .error fault after => .error fault { after with depth := after.depth - 1 }

end Exec

end Concatenative
