import Concatenative.Proofs.Levels
import Concatenative.Proofs.RoundTrip
import Concatenative.Proofs.Session

/-!
# Sources that run sources

A source can be written out as a text and handed to `parse` and `eval`. Read and run that way it
does what it does by itself, one level further down (`Session.submit_interpreterText`). Nothing is
asked of the source: if it is malformed, `parse` says so with the same line.
-/

namespace Concatenative

open Exec

/-- The program that reads a source and runs it. -/
def Quote.interpreter (source : String) : Quote :=
  [.text source, .symbol "parse", .symbol "eval"]

/-- The text of the program that reads a source and runs it. -/
def interpreterText (source : String) : String :=
  (Word.text source).render ++ " parse eval"

/-- Whatever the source is, its text is read as the text that it is. -/
theorem Quote.ofSource_interpreterText (source : String) :
    Quote.ofSource (interpreterText source) = .ok (Quote.interpreter source) := by
  apply Quote.ofSource_chars
  · intro name occurs
    have named : name = "parse" ∨ name = "eval" := by
      simpa [Quote.interpreter, Quote.symbols, Word.symbols] using occurs
    rcases named with rfl | rfl <;> decide
  · intro value occurs
    simp [Quote.interpreter, Quote.numbers, Word.numbers] at occurs
  · intro word occurs
    have flat : word.nesting = 0 := by
      simp only [Quote.interpreter, List.mem_cons, List.not_mem_nil, or_false] at occurs
      rcases occurs with rfl | rfl | rfl <;> rfl
    omega
  · rw [interpreterText, Quote.interpreter, String.toList_append, Word.render, String.toList_ofList,
      Quote.chars_cons_cons, Quote.chars_cons_cons, Quote.chars_singleton, Word.chars_symbol,
      Word.chars_symbol]
    rfl

/-- The program reads the source where a malformation stops it, or runs the words it stands for. -/
theorem Quote.perform_interpreter (run : Quote → Exec Unit) (source : String) (machine : Machine) :
    ∃ log, Quote.perform run (Quote.interpreter source) machine =
      match Quote.ofSource source with
      | .error error => .error (.malformed error) { machine with log }
      | .ok words => run words { machine with log } := by
  obtain ⟨log, parsed⟩ := parse_apply source machine
  refine ⟨log, ?_⟩
  show ((parse source >>= fun words => push (.quote words)) >>= fun _ =>
    ((takeQuote >>= run) >>= fun _ => pure ())) machine = _
  cases read : Quote.ofSource source with
  | error error =>
    rw [read] at parsed
    simp only [bind, EStateM.bind, parsed]
  | ok words =>
    rw [read] at parsed
    rw [bind_pure_unit]
    simp only [bind, EStateM.bind, parsed]
    rfl

/-- Where there is a level for the program, the words of the source run one level further down. -/
theorem evaluate_interpreter {limit : Nat} {machine : Machine} (below : machine.depth ≤ limit)
    (source : String) :
    ∃ log, evaluate (limit + 1) (Quote.interpreter source) machine =
      match Quote.ofSource source with
      | .error error => .error (.malformed error) { machine with log }
      | .ok words => deeper (evaluate (limit + 1) words) { machine with log } := by
  obtain ⟨log, performed⟩ := Quote.perform_interpreter
    (evaluateWithin (limit + 1) (limit + 1 - (machine.depth + 1))) source
    { machine with depth := machine.depth + 1 }
  refine ⟨log, ?_⟩
  rw [evaluate_of_lt (by omega), deeper, performed]
  -- Inside the program the levels that are left are those that `evaluate` counts from there.
  cases Quote.ofSource source <;> rfl

namespace Session

/-- Tried by itself or through the program that reads and runs it, a source ends the same way. -/
theorem attempt_interpreterText {limit : Nat} {machine : Machine} (below : machine.depth ≤ limit)
    (source : String) :
    SameEnd Machine.Alike ((Session.attempt limit source).adaptExcept (Fault.lower limit 1) machine)
      (Session.attempt (limit + 1) (interpreterText source) machine) := by
  obtain ⟨log, tried⟩ := attempt_of_ok (Quote.ofSource_interpreterText source) (limit + 1) machine
  have level : ({ machine with log } : Machine).depth ≤ limit := below
  obtain ⟨log', ends⟩ := evaluate_interpreter level source
  rw [tried, ends]
  cases read : Quote.ofSource source with
  | error error =>
    obtain ⟨log'', plain⟩ := attempt_of_error read limit machine
    unfold EStateM.adaptExcept
    rw [plain]
    exact .error ⟨rfl, rfl, rfl, rfl, rfl⟩
  | ok words =>
    obtain ⟨log'', plain⟩ := attempt_of_ok read limit machine
    have alone : (Session.attempt limit source).adaptExcept (Fault.lower limit 1) machine =
        (evaluate limit words).adaptExcept (Fault.lower limit 1) { machine with log := log'' } := by
      unfold EStateM.adaptExcept
      rw [plain]
    -- By itself the source starts where the program started; run by the program, one level below.
    have lowered : Machine.Lowered 1 { machine with log := log'' }
        { machine with depth := machine.depth + 1, log := log' } := ⟨rfl, rfl, rfl, rfl, rfl⟩
    rw [alone]
    exact (evaluate_lowered limit 1 words lowered).deeper

/-- Wherever a session has come to, a source and the program that reads and runs it, given one level
more, end the same way: with the same result, stack, vocabulary, output and files. -/
theorem submit_interpreterText (limit : Nat) {limit' : Nat} {start machine : Machine}
    (fresh : start.Fresh) (reached : Reaches limit' start machine) (source : String) :
    SameEnd Machine.Alike ((submit limit source).adaptExcept (Fault.lower limit 1) machine)
      (submit (limit + 1) (interpreterText source) machine) := by
  have rest := reached.depth fresh.depth
  have same := attempt_interpreterText (by omega : machine.depth ≤ limit) source
  unfold EStateM.adaptExcept at same ⊢
  unfold submit
  generalize Session.attempt limit source machine = result at same ⊢
  generalize Session.attempt (limit + 1) (interpreterText source) machine = result' at same ⊢
  cases result with
  | ok value after =>
    cases same with
    | ok alike => exact .ok alike
  | error fault after =>
    cases same with
    | error alike => exact .error ⟨rfl, rfl, rfl, alike.sink, alike.disk⟩

/-- A source that is malformed, and has double quotes in it. -/
theorem submit_interpreterText_unmatched :
    interpreterText "\"a\" )" = "\"\\\"a\\\" )\" parse eval" ∧
    SameEnd Machine.Alike ((submit 0 "\"a\" )").adaptExcept (Fault.lower 0 1) {})
      (submit 1 (interpreterText "\"a\" )") {}) := by
  have fresh : ({} : Machine).Fresh := ⟨rfl, rfl⟩
  refine ⟨by decide, ?_⟩
  exact submit_interpreterText 0 fresh (Reaches.refl : Reaches 0 {} {}) _

end Session

end Concatenative
