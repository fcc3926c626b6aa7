import Concatenative.Proofs.Composition
import Concatenative.Proofs.Levels

/-!
# Calls written out

A call of a defined name does what its body does when a program runs it: `eval` runs a quote in the
vocabulary at hand, as the body of a macro is run, and a branch of `ifte` runs in a copy, as the body
of a function is. So every call in a quote can be written out (`Quote.inline`) and nothing changes
(`evaluate_inline`), although the vocabulary may grow while the quote runs: a name keeps its meaning,
so the body that was written out is the one that would be called.
-/

namespace Concatenative

open Exec

/-! ## Written-out calls -/

/-- The words that do what a call of the definition does. -/
def Definition.phrase : Definition → Quote
  | ⟨.shared, body⟩ => [.quote body, .symbol "eval"]
  | ⟨.isolated, body⟩ => [.truth true, .quote body, .quote [], .symbol "ifte"]

/-- The quote in which each call of a name is written out as that of the definition. Calls in quotes
inside it stay. -/
def Quote.inline (name : String) (definition : Definition) (words : Quote) : Quote :=
  words.flatMap fun word => if word = .symbol name then definition.phrase else [word]

/-- The words of a phrase run the body as the definition does. -/
theorem Definition.perform_phrase (run : Quote → Exec Unit) (definition : Definition) :
    Quote.perform run definition.phrase = definition.perform run := by
  obtain ⟨scope, body⟩ := definition
  cases scope with
  | isolated => exact Quote.perform_ifte run true body []
  | shared => exact Quote.perform_eval run body

/-! ## Rows of words -/

/-- Notes make no difference to what a definition does. -/
theorem Definition.perform_alike (limit : Nat) (definition : Definition) {left right : Machine}
    (alike : left.Alike right) :
    SameEnd Machine.Alike (definition.perform (evaluate limit) left)
      (definition.perform (evaluate limit) right) := by
  obtain ⟨scope, body⟩ := definition
  have same := evaluate_alike limit body alike
  cases scope with
  | isolated =>
    show SameEnd Machine.Alike (isolated (evaluate limit body) left)
      (isolated (evaluate limit body) right)
    rw [isolated_eq_mapMachine, isolated_eq_mapMachine]
    refine same.mapMachine fun after => ?_
    exact ⟨after.stack, alike.vocabulary, after.depth, after.sink, after.disk⟩
  | shared => exact same

section Calls

variable (limit : Nat) {name : String} {definition : Definition} {left right : Machine}

/-- A single word, written out if it is a call. -/
theorem Quote.perform_inline_singleton (free : Builtin.ofName? name = none)
    (alike : left.Alike right) (found : left.vocabulary.get? name = some definition) (word : Word) :
    SameEnd Machine.Alike (Quote.perform (evaluate limit) [word] left)
      (Quote.perform (evaluate limit) (Quote.inline name definition [word]) right) := by
  unfold Quote.inline
  rw [List.flatMap_singleton]
  split
  · next called =>
    have call : Quote.perform (evaluate limit) [word] left = definition.perform (evaluate limit)
        { left with log := .called name definition.scope left.depth :: left.log } := by
      rw [called]
      show (call (evaluate limit) name >>= fun _ => pure ()) left = _
      rw [bind_pure_unit]
      exact call_of_found free found
    rw [call, Definition.perform_phrase]
    -- The note of the call is all that is different.
    apply Definition.perform_alike
    exact ⟨alike.stack, alike.vocabulary, alike.depth, alike.sink, alike.disk⟩
  · exact Quote.perform_alike limit [word] alike

/-- Words in a row, of which the calls are written out. However they end, the name still has its
meaning. -/
theorem Quote.perform_inline (free : Builtin.ofName? name = none) (words : Quote)
    (alike : left.Alike right) (found : left.vocabulary.get? name = some definition) :
    SameEnd (fun left right => left.Alike right ∧ left.vocabulary.get? name = some definition)
      (Quote.perform (evaluate limit) words left)
      (Quote.perform (evaluate limit) (Quote.inline name definition words) right) := by
  induction words generalizing left right with
  | nil => exact .ok ⟨alike, found⟩
  | cons word words ih =>
    have split : Quote.inline name definition (word :: words) =
        Quote.inline name definition [word] ++ Quote.inline name definition words := by
      unfold Quote.inline
      rw [← List.flatMap_append, List.singleton_append]
    rw [split, ← List.singleton_append, Quote.perform_append, Quote.perform_append]
    -- Whatever the first word defines, the name goes on to mean what it means now.
    have kept := (evolves (Quote.perform (evaluate limit) [word]) left).kept name definition found
    have first := Quote.perform_inline_singleton limit free alike found word
    exact (first.and kept).bind fun _ _ _ after => ih after.1 after.2

end Calls

/-- Against a vocabulary in which a name has a meaning, a quote ends in the same way when its calls
of the name are written out: a macro as its body and `eval`, a function as its body in a branch of
`ifte`. A call of a function leaves the vocabulary as it was, however it ends. -/
theorem evaluate_inline (limit : Nat) (words : Quote) {name : String} {definition : Definition}
    {machine : Machine} (free : Builtin.ofName? name = none)
    (found : machine.vocabulary.get? name = some definition) :
    SameEnd Machine.Alike (evaluate limit words machine)
      (evaluate limit (Quote.inline name definition words) machine) ∧
    (definition.scope = .isolated →
      (machineAfter (call (evaluate limit) name machine)).vocabulary = machine.vocabulary) := by
  refine ⟨?_, fun isolated => ?_⟩
  · have entered : { machine with depth := machine.depth + 1 }.Alike
        { machine with depth := machine.depth + 1 } := ⟨rfl, rfl, rfl, rfl, rfl⟩
    have same := Quote.perform_inline limit free words entered found
    rw [evaluate_eq, evaluate_eq]
    split
    · exact .error ⟨rfl, rfl, rfl, rfl, rfl⟩
    · rw [deeper_eq_mapMachine, deeper_eq_mapMachine]
      refine same.mapMachine fun ⟨after, _⟩ => ?_
      exact ⟨after.stack, after.vocabulary, congrArg (· - 1) after.depth, after.sink, after.disk⟩
  · obtain ⟨scope, body⟩ := definition
    have same : scope = .isolated := isolated
    subst same
    rw [call_of_found free found]
    show (machineAfter (Exec.isolated (evaluate limit body) _)).vocabulary = machine.vocabulary
    rw [isolated_eq_mapMachine, machineAfter_mapMachine]
    rfl

/-- A function that gives a name a meaning and then fails at another one. -/
def Inlining.failing : Definition :=
  ⟨.isolated, [.quote [], .quote [.symbol "g"], .symbol "def", .symbol "h"]⟩

/-- The machine on which one name means this function. -/
def Inlining.machine : Machine :=
  { vocabulary := ⟨{ ("f", failing) }⟩ }

/-- The function called behind a text, and its call written out. -/
theorem evaluate_inline_failing :
    Builtin.ofName? "f" = none ∧ Inlining.machine.vocabulary.get? "f" = some Inlining.failing ∧
    (∃ left right,
      evaluate 2 [.text "a", .symbol "f"] Inlining.machine = .error (.unknown "h") left ∧
      evaluate 2 [.text "a", .truth true, .quote Inlining.failing.body, .quote [], .symbol "ifte"]
        Inlining.machine = .error (.unknown "h") right ∧
      left.stack = [.text "a"] ∧ left.Alike right) ∧
    (machineAfter (call (evaluate 2) "f" Inlining.machine)).vocabulary =
      Inlining.machine.vocabulary := by
  have free : Builtin.ofName? "f" = none := by decide
  have found : Inlining.machine.vocabulary.get? "f" = some Inlining.failing := rfl
  have runs : ∃ left right,
      evaluate 2 [.text "a", .symbol "f"] Inlining.machine = .error (.unknown "h") left ∧
      evaluate 2 [.text "a", .truth true, .quote Inlining.failing.body, .quote [], .symbol "ifte"]
        Inlining.machine = .error (.unknown "h") right ∧
      left.stack = [.text "a"] := ⟨_, _, rfl, rfl, rfl⟩
  obtain ⟨left, right, run, run', stack⟩ := runs
  have written : Quote.inline "f" Inlining.failing [.text "a", .symbol "f"] =
      [.text "a", .truth true, .quote Inlining.failing.body, .quote [], .symbol "ifte"] := by
    decide
  obtain ⟨ends, kept⟩ := evaluate_inline 2 [.text "a", .symbol "f"] free found
  rw [written, run, run'] at ends
  cases ends with
  | error alike => exact ⟨free, found, ⟨left, right, run, run', stack, alike⟩, kept rfl⟩

end Concatenative
