import Concatenative.Console.Conversation
import Concatenative.Settings

/-!
# The command line

The command line as a function of its arguments, its environment, its input and the disk. A
bootstrap file named in the environment is run first. Then, without arguments, there is a
conversation, and with one argument that file is run. Program output and answers go to the same
sink.

All this is done on a thread of its own, since runs nest on the stack of the host. Whether the host
provides a thread with so large a stack, and whether the thread comes to its end, is left open, as
is the line editor.
-/

namespace Concatenative.Console

/-- The variables that the command line looks at. -/
structure Environment where
  /-- The path of the bootstrap file. -/
  core : Option String := none
  /-- How many levels there are. -/
  limit : Option String := none
  /-- The kind of terminal. -/
  terminal : Option String := none

/-- The variable that names the bootstrap file. -/
def coreVariable : String := "LION_CORE"

/-- The variable that names the kind of terminal. -/
def terminalVariable : String := "TERM"

/-- The line that opens a conversation. -/
def banner : String := "Lion 0.1.0:"

/-- The line that explains the arguments. -/
def usage : String := "usage: lion [FILE]"

/-- How a command line ends: its exit status, its complaints, and the machine with all output. -/
structure Outcome where
  status : Nat
  complaints : String := ""
  machine : Machine

/-- The complaint that reports a fault. -/
def complaint (message : String) : String :=
  errorLine message ++ "\n"

/-! ## What is done -/

/-- Ends with a fault. -/
def Outcome.failed (fault : Fault) (machine : Machine) : Outcome :=
  { status := 1, complaints := complaint fault.message, machine }

/-- Runs the bootstrap file if there is one. -/
def bootstrap (limit : Nat) : Option String → Exec Unit
  | none => pure ()
  | some path => Session.runFile limit path

/-- Ends after a file: asking to leave is no failure. -/
def concludeFile : EStateM.Result Fault Machine Unit → Outcome
  | .ok _ machine => { status := 0, machine }
  | .error .exit machine => { status := 0, machine }
  | .error fault machine => .failed fault machine

/-- Ends after a conversation, or without one if the line editor cannot begin. -/
def concludeConversation (limit : Nat) (machine : Machine) : Except String Delivery → Outcome
  | .ok delivery => { status := 0, machine := converse limit delivery (machine.say banner) }
  | .error message => { status := 0, complaints := complaint message, machine }

/-- Does what the arguments ask for. -/
def serve (limit : Nat) (delivery : Except String Delivery) (machine : Machine) :
    List String → Outcome
  | [] => concludeConversation limit machine delivery
  | [path] => concludeFile (Session.runFile limit path machine)
  | _ => { status := 2, complaints := usage ++ "\n", machine }

/-- Runs the bootstrap file, and does what the arguments ask for unless it stopped with a fault. -/
def work (limit : Nat) (core : Option String) (delivery : Except String Delivery)
    (arguments : List String) (machine : Machine) : Outcome :=
  match bootstrap limit core machine with
  | .ok _ opened => serve limit delivery opened arguments
  | .error fault after => .failed fault after

/-! ## The thread -/

/-- What becomes of a thread. -/
inductive Thread
  /-- It is not provided. -/
  | refused (reason : String)
  /-- It breaks off, with these complaints, and with the machine as it is by then. -/
  | broken (complaints : String) (machine : Machine)
  /-- It comes to its end. -/
  | finished

/-- A host. -/
structure Host where
  /-- What becomes of a thread with a stack of so many bytes. -/
  thread : Nat → Thread

/-- The least stack that is asked for, in bytes. -/
def leastStack : Nat := 8 * 1024 * 1024

/-- The settings that an environment asks for. -/
def Environment.settings (environment : Environment) : Settings :=
  (Settings.ofVariable environment.limit).1

/-- How many levels there are in an environment. -/
def Environment.levels (environment : Environment) : Nat :=
  environment.settings.limit

/-- The stack that is asked for in an environment, in bytes. -/
def Environment.stackSize (environment : Environment) : Nat :=
  max environment.settings.stackSize leastStack

/-- Runs a command line on a thread of a host. -/
def launch (host : Host) (editor : LineEditor) (arguments : List String)
    (environment : Environment) (input : ByteArray) (disk : Disk) : Outcome :=
  match host.thread environment.stackSize with
  | .refused reason => { status := 1, complaints := complaint reason, machine := { disk } }
  | .broken complaints machine => { status := 1, complaints, machine }
  | .finished =>
    work environment.levels environment.core (editor.deliver environment.terminal input) arguments
      { disk }

end Concatenative.Console
