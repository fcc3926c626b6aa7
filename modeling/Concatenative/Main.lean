import Concatenative.Console

/-!
# The program

Brings the console together with the real arguments, environment, input and files. The input is read
to its end before anything is answered. A command line sees files on a disk in memory that starts
out with the working directory alone. When it asks for a location, or changes one, that has not been
looked up, what is really there is put on the disk and the command line is run again. Output is
written and files are changed only by a run that has seen all that it asked for, so repeating it
shows nowhere.
-/

namespace Concatenative.Program

open Console

/-- The locations that a path leads through, from the outermost one on. -/
def locationsAlong (disk : Disk) (path : String) : List Location :=
  let step (reached : List Location) (name : String) : List Location :=
    let place := reached.headD []
    if name == "" || name == "." then reached
    else if name == ".." then place.tail :: reached
    else (name :: place) :: reached
  ((Path.segments path).foldl step [disk.start path]).reverse

/-- The locations at which two disks differ, with what stands there on the second one. -/
def changes (before after : Disk) : List (Location × Node) :=
  after.nodes.toList.filter fun (location, node) => before.nodes[location]? != some node

/-- The paths of the files that a command line runs. -/
def programPaths (arguments : List String) (environment : Environment) : List String :=
  environment.core.toList ++ if arguments.length = 1 then arguments else []

/-- The paths at which sources stopped. -/
def stoppingPaths (machine : Machine) : List String :=
  machine.log.filterMap fun
    | .rolledBack (.access path _) => some path
    | _ => none

/-- The locations that an outcome depends on, as far as it shows. -/
def wanted (programs : List String) (before : Disk) (outcome : Outcome) : List Location :=
  (programs ++ stoppingPaths outcome.machine).flatMap (locationsAlong before) ++
    (changes before outcome.machine.disk).map (·.1)

/-- The location of the working directory. -/
def workingLocation : IO Location := do
  return ((Path.segments (toString (← IO.currentDir))).filter (· != "")).reverse

/-- The absolute path of a location. -/
def absolutePath (location : Location) : String :=
  "/" ++ "/".intercalate location.reverse

/-- Puts what is really at a location on the disk. -/
def lookUp (disk : Disk) (location : Location) : IO Disk := do
  let path := (← IO.currentDir) / absolutePath location
  if ← path.isDir then return disk.install location .directory
  if ← path.pathExists then return disk.install location (.file (← IO.FS.readBinFile path))
  return disk

/-- Makes a change to the real files. -/
def commit (change : Location × Node) : IO Unit := do
  match change.2 with
  | .directory => pure ()
  | .file bytes => IO.FS.writeBinFile ((← IO.currentDir) / absolutePath change.1) bytes

/-- Runs a command line on the real files. The locations in `seen` are on the disk as they are. -/
partial def runOnFiles (run : Disk → Outcome) (programs : List String) (disk : Disk)
    (seen : List Location) : IO Outcome := do
  let outcome := run disk
  match ((wanted programs disk outcome).filter (! seen.contains ·)).eraseDups with
  | [] =>
    (changes disk outcome.machine.disk).forM commit
    return outcome
  | unseen => runOnFiles run programs (← unseen.foldlM lookUp disk) (seen ++ unseen)

/-- Reads an input to its end, behind the bytes that have been read. -/
partial def readAll (input : IO.FS.Stream) (bytes : ByteArray) : IO ByteArray := do
  let more ← input.read 4096
  if more.isEmpty then return bytes
  readAll input (bytes ++ more)

end Concatenative.Program

open Concatenative in
/-- Runs the command line. -/
def main (arguments : List String) : IO UInt32 := do
  let environment : Console.Environment :=
    { core := ← IO.getEnv Console.coreVariable
      limit := ← IO.getEnv Settings.limitVariable
      terminal := ← IO.getEnv Console.terminalVariable }
  let input ← if arguments.isEmpty then Program.readAll (← IO.getStdin) .empty else pure .empty
  let outcome ← Program.runOnFiles (Console.run arguments environment input)
    (Program.programPaths arguments environment) (Disk.empty (← Program.workingLocation)) []
  (← IO.getStdout).write outcome.machine.sink.written
  (← IO.getStderr).putStr outcome.complaints
  return outcome.status.toUInt32
