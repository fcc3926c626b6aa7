import Concatenative.Builtin.Effect

/-!
# Evaluation

A quote is run word by word: a symbol is called, any other word is put on the stack. A name means
its builtin if there is one, and its definition otherwise. Running a quote from within another takes
one level, and there are only so many: the number of levels left is what the recursion runs over, so
every program ends, and no other bound is needed.
-/

namespace Concatenative

open Exec

/-- Runs the body of a definition in the vocabulary that its scope asks for. -/
def Definition.perform (run : Quote → Exec Unit) (definition : Definition) : Exec Unit :=
  match definition.scope with
  | .isolated => isolated (run definition.body)
  | .shared => run definition.body

/-- Calls a name. Builtins come before definitions. -/
def call (run : Quote → Exec Unit) (name : String) : Exec Unit := do
  match Builtin.ofName? name with
  | some builtin => builtin.perform run
  | none =>
    let machine ← get
    match machine.vocabulary.get? name with
    | none => throw (.unknown name)
    | some definition =>
      note (.called name definition.scope machine.depth)
      definition.perform run

/-- Does what one word of a running quote does. -/
def Word.perform (run : Quote → Exec Unit) : Word → Exec Unit
  | .symbol name => call run name
  | word => push word

/-- Does what the words of a running quote do, one after the other. -/
def Quote.perform (run : Quote → Exec Unit) : List Word → Exec Unit
  | [] => pure ()
  | word :: words => do
    word.perform run
    Quote.perform run words

/-- Runs a quote with so many levels left, its own included. -/
def evaluateWithin (limit : Nat) : (levels : Nat) → Quote → Exec Unit
  | 0, _ => throw (.tooDeep limit)
  | levels + 1, words => deeper (Quote.perform (evaluateWithin limit levels) words)

/-- Runs a quote on the level below the present one. There are `limit` levels in all. -/
def evaluate (limit : Nat) (words : Quote) : Exec Unit := fun machine =>
  evaluateWithin limit (limit - machine.depth) words machine

/-! ## Words in a row -/

@[simp]
theorem Quote.perform_nil (run : Quote → Exec Unit) : Quote.perform run [] = pure () := rfl

theorem Quote.perform_cons (run : Quote → Exec Unit) (word : Word) (words : Quote) :
    Quote.perform run (word :: words) =
      (word.perform run >>= fun _ => Quote.perform run words) := rfl

/-- Joined quotes run one after the other. -/
theorem Quote.perform_append (run : Quote → Exec Unit) (front rest : Quote) :
    Quote.perform run (front ++ rest) =
      (Quote.perform run front >>= fun _ => Quote.perform run rest) := by
  induction front with
  | nil => simp
  | cons word front ih => simp [Quote.perform_cons, ih]

theorem Quote.perform_pair (run : Quote → Exec Unit) (first second : Word) :
    Quote.perform run [first, second] =
      (Quote.perform run [first] >>= fun _ => Quote.perform run [second]) :=
  Quote.perform_append run [first] [second]

end Concatenative
