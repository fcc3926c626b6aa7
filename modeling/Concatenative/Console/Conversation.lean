import Concatenative.Session
import Concatenative.Text.Blank

/-!
# Conversations

Without arguments the command line is a conversation: each line of input is a command, or a source
for the one session behind it, and is answered before the next line is asked for. The lines come
from a line editor, which is left open here. All that matters of an editor is what it delivers, and
what it writes itself when it is asked for a line.
-/

namespace Concatenative

/-- Writes bytes that are no output of a program. -/
def Machine.append (machine : Machine) (bytes : ByteArray) : Machine :=
  { machine with sink := machine.sink.append bytes }

theorem Machine.append_empty (machine : Machine) : machine.append .empty = machine := by
  rw [append, Sink.append, ByteArray.append_empty]

/-- Writes a line of the console itself. -/
def Machine.say (machine : Machine) (line : String) : Machine :=
  machine.append (line ++ "\n").toByteArray

namespace Console

/-- The line that reports a fault. -/
def errorLine (message : String) : String :=
  "Error: " ++ message

/-! ## Commands -/

/-- What a line of input asks for. -/
inductive Command
  | nothing
  | leave
  | listDefinitions
  | listBuiltins
  | run (source : String)
deriving DecidableEq

/-- What a line of input asks for, blanks at its ends apart. -/
def Command.ofLine (line : String) : Command :=
  let source := Text.trim line
  if source.isEmpty then nothing
  else if source = ":quit" || source = ":exit" then leave
  else if source = ":vocab" then listDefinitions
  else if source = ":words" then listBuiltins
  else run source

/-- The line that shows a definition. -/
def definitionLine (entry : String × Definition) : String :=
  "  " ++ entry.1 ++ " (" ++ entry.2.scope.name ++ ") = " ++ entry.2.body.render

/-- The lines that show a vocabulary. -/
def vocabularyLines (vocabulary : Vocabulary) : List String :=
  if vocabulary.size = 0 then ["No user definitions."]
  else vocabulary.toList.map definitionLine

/-- Answers the end of a source: the stack after success, the fault after failure. The console goes
on unless the source asked to leave. -/
def conclude : EStateM.Result Fault Machine Unit → Machine × Bool
  | .ok _ machine => (machine.say machine.renderStack, true)
  | .error .exit machine => (machine, false)
  | .error fault machine => (machine.say (errorLine fault.message), true)

/-- Answers a command. The console goes on if the second part holds. -/
def answer (limit : Nat) (machine : Machine) : Command → Machine × Bool
  | .nothing => (machine, true)
  | .leave => (machine, false)
  | .listDefinitions => ((vocabularyLines machine.vocabulary).foldl Machine.say machine, true)
  | .listBuiltins => (machine.say (" ".intercalate Builtin.names), true)
  | .run source => conclude (Session.submit limit source machine)

/-! ## Lines of input -/

/-- Why a line editor delivers no more lines. -/
inductive Stop
  | endOfInput
  | interrupted
  | failed (message : String)
deriving DecidableEq

/-- What a line editor does when it is asked for one line after the other: each time it may write
something itself, and then it delivers a line or none any more. -/
inductive Delivery
  | line (written : ByteArray) (text : String) (later : Delivery)
  | stop (written : ByteArray) (cause : Stop)

/-- A line editor. -/
structure LineEditor where
  /-- What it delivers of an input in a terminal of some kind, or why it cannot begin. -/
  deliver : Option String → ByteArray → Except String Delivery

/-- Reports why there are no more lines, unless the input is over. -/
def close (machine : Machine) : Stop → Machine
  | .endOfInput | .interrupted => machine
  | .failed message => machine.say (errorLine message)

/-- Answers lines until one asks to leave or there are no more. -/
def converse (limit : Nat) : Delivery → Machine → Machine
  | .stop written cause, machine => close (machine.append written) cause
  | .line written text later, machine =>
    match answer limit (machine.append written) (.ofLine text) with
    | (after, true) => converse limit later after
    | (after, false) => after

end Console

end Concatenative
