import Concatenative.Pipe

/-!
# The console

The command line on a host that provides every thread, with the line editor for pipes.
-/

namespace Concatenative.Console

/-- The host that provides every thread. -/
def Host.generous : Host where
  thread _ := .finished

/-- Runs a command line with input from a pipe. -/
def run (arguments : List String) (environment : Environment) (input : ByteArray) (disk : Disk) :
    Outcome :=
  launch .generous Pipe.editor arguments environment input disk

end Concatenative.Console
