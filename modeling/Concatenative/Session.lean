import Concatenative.Evaluation

/-!
# Sessions

A session is one machine that takes sources one after the other. Each source either runs to its end
or leaves the stack and the vocabulary as they were; what it wrote, to the output or to files, stays
written in both cases.
-/

namespace Concatenative

/-- The machine after a failed source: stack and vocabulary of `before`, on the top level. -/
def Machine.rollBack (after before : Machine) (fault : Fault) : Machine :=
  { after with
    stack := before.stack
    vocabulary := before.vocabulary
    depth := 0
    log := .rolledBack fault :: after.log }

namespace Session

/-- Reads and runs a source, without undoing anything. -/
def attempt (limit : Nat) (source : String) : Exec Unit := do
  evaluate limit (← Exec.parse source)

/-- Runs a source, all or nothing. -/
def submit (limit : Nat) (source : String) : Exec Unit := fun machine =>
  match attempt limit source machine with
  | .ok value after => .ok value after
  | .error fault after => .error fault (after.rollBack machine fault)

/-- Runs the source in a file, all or nothing. A file that cannot be read changes nothing at all. -/
def runFile (limit : Nat) (path : String) : Exec Unit := do
  let source ← Exec.readFile path
  Exec.note (.running path)
  submit limit source

end Session

end Concatenative
