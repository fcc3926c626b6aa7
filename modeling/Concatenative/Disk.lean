import Std.Data.ExtTreeMap
import Concatenative.Fault

/-!
# Disks

The files that programs can read and write: a tree of directories and files, and the directory in
which paths start. A path is followed name by name, and what stands in the way of that is reported
as an obstacle. Names and paths have the usual greatest lengths.
-/

namespace Concatenative

/-- What stands at a location. -/
inductive Node
  | directory
  | file (bytes : ByteArray)
deriving BEq

/-- A place in the tree: the names on the way from it up to the root, its own name first. -/
abbrev Location := List String

namespace Path

/-- The greatest number of bytes in one name. -/
def nameLimit : Nat := 255

/-- The number of bytes from which on a path is too long. -/
def lengthLimit : Nat := 4096

/-- Cuts a text at its slashes, `part` being the reversed text since the last one. -/
def cutAtSlashes (part : List Char) : List Char → List String
  | [] => [String.ofList part.reverse]
  | c :: rest =>
    if c == '/' then String.ofList part.reverse :: cutAtSlashes [] rest
    else cutAtSlashes (c :: part) rest

/-- The parts of a path between its slashes. There is at least one, which may be empty. -/
def segments (path : String) : List String :=
  cutAtSlashes [] path.toList

/-- The names that lead to the directory of a path, and the name in it, which is empty after a
slash. -/
def splitLast (path : String) : List String × String :=
  let parts := segments path
  (parts.dropLast, parts.getLastD "")

/-- Whether a name stands for a directory wherever it stands. -/
def isDirectoryName (name : String) : Bool :=
  name == "" || name == "." || name == ".."

/-- What is wrong with a path before it is followed. -/
def check (path : String) : Except Obstacle Unit :=
  if path.toList.contains '\x00' then .error .nulInName
  else if path.isEmpty then .error .missing
  else if lengthLimit ≤ path.utf8ByteSize then .error .nameTooLong
  else .ok ()

end Path

/-- A tree of directories and files, and the directory in which paths start. The root is always a
directory. -/
structure Disk where
  nodes : Std.ExtTreeMap Location Node
  here : Location

namespace Disk

/-- Makes a location and all above it directories. -/
def makeDirectories (nodes : Std.ExtTreeMap Location Node) :
    Location → Std.ExtTreeMap Location Node
  | [] => nodes.insert [] .directory
  | name :: above => (makeDirectories nodes above).insert (name :: above) .directory

/-- The disk with nothing on it but the directory in which paths start. -/
def empty (here : Location) : Disk where
  nodes := makeDirectories ∅ here
  here

instance : Inhabited Disk :=
  ⟨empty []⟩

/-- Where a path starts. -/
def start (disk : Disk) (path : String) : Location :=
  if path.startsWith "/" then [] else disk.here

/-- What stands under a name in a directory. -/
def lookup (disk : Disk) (place : Location) (name : String) : Except Obstacle Node :=
  if Path.nameLimit < name.utf8ByteSize then .error .nameTooLong
  else
    match disk.nodes[name :: place]? with
    | some node => .ok node
    | none => .error .missing

/-- Goes from a directory to the one under a name. -/
def enter (disk : Disk) (place : Location) (name : String) : Except Obstacle Location := do
  if name == "" || name == "." then return place
  if name == ".." then return place.tail
  match ← disk.lookup place name with
  | .directory => return name :: place
  | .file _ => throw .notDirectory

/-- Goes from a directory through the directories under several names. -/
def walk (disk : Disk) (place : Location) (names : List String) : Except Obstacle Location :=
  names.foldlM disk.enter place

/-- The bytes of the file at a path. -/
def readBytes (disk : Disk) (path : String) : Except Obstacle ByteArray := do
  Path.check path
  let (directories, name) := Path.splitLast path
  let place ← disk.walk (disk.start path) directories
  if Path.isDirectoryName name then throw .isDirectory
  match ← disk.lookup place name with
  | .directory => throw .isDirectory
  | .file bytes => return bytes

/-- The text of the file at a path. -/
def read (disk : Disk) (path : String) : Except Obstacle String := do
  match String.fromUTF8? (← disk.readBytes path) with
  | some text => return text
  | none => throw .notUnicode

/-- The path without the slashes at its end. -/
def withoutSlashes (path : String) : String :=
  String.ofList (path.toList.reverse.dropWhile (· == '/')).reverse

/-- Writes a text to the file at a path, in place of what the file held. A missing file is made; a
missing directory is not, and a path that ends in a slash never names a file. -/
def write (disk : Disk) (path contents : String) : Except Obstacle Disk := do
  Path.check path
  let (directories, name) := Path.splitLast (withoutSlashes path)
  let place ← disk.walk (disk.start path) directories
  if Path.isDirectoryName name || path.endsWith "/" then throw .isDirectory
  match disk.lookup place name with
  | .ok .directory => throw .isDirectory
  | .error .nameTooLong => throw .nameTooLong
  | _ =>
    let file := Node.file contents.toByteArray
    return { disk with nodes := disk.nodes.insert (name :: place) file }

/-! ## Preparing and listing -/

/-- Puts a node at a location, with directories above it. -/
def install (disk : Disk) (location : Location) (node : Node) : Disk :=
  { disk with nodes := (makeDirectories disk.nodes location.tail).insert location node }

/-- Puts a file, or a directory if the path ends in a slash, below the directory in which paths
start, with the directories on the way to it. -/
def provide (disk : Disk) (path : String) (bytes : ByteArray) : Disk :=
  let names := (Path.segments path).filter fun name => name != "" && name != "."
  let location := names.reverse ++ disk.here
  disk.install location (if path.endsWith "/" then .directory else .file bytes)

/-- The files below the directory in which paths start, each with its path from there. -/
def files (disk : Disk) : List (String × ByteArray) :=
  disk.nodes.toList.filterMap fun (location, node) =>
    match node with
    | .directory => none
    | .file bytes =>
      if disk.here.isSuffixOf location then
        let names := (location.take (location.length - disk.here.length)).reverse
        some ("/".intercalate names, bytes)
      else
        none

end Disk

end Concatenative
