import Concatenative.Evaluation

/-!
# Composite actions as equations

Some actions are put together from smaller ones. Seen from outside they do one thing or fail; here
this is said as an equation for the machine they leave. The words in which runs are
compared are fixed here too: a sink that never fails, machines that are alike, and two runs that end
the same way.
-/

namespace Concatenative

/-- A sink that takes any number of bytes and passes them on. -/
structure Sink.NeverFails (sink : Sink) : Prop where
  room : sink.room = none
  flushes : sink.flushes = true

/-- Two machines that differ in their notes at most. -/
structure Machine.Alike (left right : Machine) : Prop where
  stack : right.stack = left.stack
  vocabulary : right.vocabulary = left.vocabulary
  depth : right.depth = left.depth
  sink : right.sink = left.sink
  disk : right.disk = left.disk

/-- Whether two runs both succeed with the same result or both fail with the same fault, and leave
machines that `machines` relates. -/
inductive Exec.SameEnd {α : Type} (machines : Machine → Machine → Prop) :
    EStateM.Result Fault Machine α → EStateM.Result Fault Machine α → Prop
  | ok {value : α} {left right : Machine} (h : machines left right) :
    SameEnd machines (.ok value left) (.ok value right)
  | error {fault : Fault} {left right : Machine} (h : machines left right) :
    SameEnd machines (.error fault left) (.error fault right)

/-- Only a division fails. -/
theorem Operator.eq_divisionByZero (operator : Operator) {left right : Float} {fault : Fault}
    (failed : operator.apply left right = .error fault) : fault = .divisionByZero := by
  unfold apply at failed
  split at failed
  · simp at failed
  · simp at failed
  · simp at failed
  · split at failed
    · simpa using failed.symm
    · simp at failed

namespace Exec

theorem SameEnd.imp {α : Type} {machines machines' : Machine → Machine → Prop}
    {result result' : EStateM.Result Fault Machine α} (h : SameEnd machines result result')
    (weaker : ∀ {left right}, machines left right → machines' left right) :
    SameEnd machines' result result' := by
  cases h with
  | ok h => exact .ok (weaker h)
  | error h => exact .error (weaker h)

/-- What holds of the machine that the first run leaves can be kept beside the relation. -/
theorem SameEnd.and {α : Type} {machines : Machine → Machine → Prop} {P : Machine → Prop}
    {result result' : EStateM.Result Fault Machine α} (h : SameEnd machines result result')
    (holds : P (machineAfter result)) :
    SameEnd (fun left right => machines left right ∧ P left) result result' := by
  cases h with
  | ok h => exact .ok ⟨h, holds⟩
  | error h => exact .error ⟨h, holds⟩

theorem SameEnd.machineAfter {α : Type} {machines : Machine → Machine → Prop}
    {result result' : EStateM.Result Fault Machine α} (h : SameEnd machines result result') :
    machines (machineAfter result) (machineAfter result') := by
  cases h <;> assumption

/-- Runs that end the same way and go on the same way from there end the same way. -/
theorem SameEnd.bind {α β : Type} {machines : Machine → Machine → Prop} {action action' : Exec α}
    {next next' : α → Exec β} {left right : Machine}
    (front : SameEnd machines (action left) (action' right))
    (rest : ∀ value left right, machines left right →
      SameEnd machines (next value left) (next' value right)) :
    SameEnd machines ((action >>= next) left) ((action' >>= next') right) := by
  show SameEnd machines (EStateM.bind action next left) (EStateM.bind action' next' right)
  unfold EStateM.bind
  generalize action left = result at front ⊢
  generalize action' right = result' at front ⊢
  cases front with
  | ok h => exact rest _ _ _ h
  | error h => exact .error h

/-- A source is read as the program that it stands for; only notes are left behind. -/
theorem parse_apply (source : String) (machine : Machine) :
    ∃ log, parse source machine =
      match Quote.ofSource source with
      | .error error => .error (.malformed error) { machine with log }
      | .ok words => .ok words { machine with log } := by
  unfold parse Quote.ofSource
  cases Lexeme.scan source with
  | error error => exact ⟨machine.log, rfl⟩
  | ok lexemes =>
    have opened : (Except.ok lexemes >>= Quote.ofLexemes) = Quote.ofLexemes lexemes := rfl
    rw [opened]
    generalize read : Quote.ofLexemes lexemes = result
    cases result with
    | error error =>
      refine ⟨.scanned lexemes.length :: machine.log, ?_⟩
      simp only [ofExcept, pure_bind, read]
      rfl
    | ok words =>
      refine ⟨.parsed words.length :: .scanned lexemes.length :: machine.log, ?_⟩
      simp only [ofExcept, pure_bind, read]
      rfl

/-- A definition is refused, or changes the vocabulary and leaves a note. -/
theorem define_apply (name : String) (definition : Definition) (machine : Machine) :
    define name definition machine =
      match machine.vocabulary.define name definition with
      | .error fault => .error fault machine
      | .ok vocabulary =>
        .ok () { machine with vocabulary, log := .defined name definition :: machine.log } := by
  have opened : define name definition machine =
      (ofExcept id (machine.vocabulary.define name definition) >>= fun vocabulary => do
        note (.defined name definition)
        modify fun machine => { machine with vocabulary }) machine := rfl
  rw [opened]
  cases machine.vocabulary.define name definition <;> rfl

/-- What becomes of a definition once its label and its body have been taken. -/
def nameDefinition (scope : Scope) (label body : Quote) : Exec Unit :=
  match label.singleSymbol? with
  | none => throw (.unnameable label)
  | some name =>
    if (Builtin.ofName? name).isSome then throw (.reserved name)
    else define name ⟨scope, body⟩

theorem performDefine_eq (scope : Scope) :
    Builtin.performDefine scope =
      (takeQuote >>= fun label => takeQuote >>= fun body => nameDefinition scope label body) := rfl

end Exec

end Concatenative
