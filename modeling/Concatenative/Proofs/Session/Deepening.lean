import Concatenative.Proofs.Deepening
import Concatenative.Proofs.Session

/-!
# How deeply values are nested in a session

A session is followed together with the builtins that its programs have called (`Session.Recorded`);
the calls of a failed input do not count, since what they did is undone. As long as none of them puts
a word into a quote or reads a source, no value is nested more deeply than a source may be. Otherwise
a value may be, by as many levels as there were such calls (`Session.nestedWithin_of_reaches`).
-/

namespace Concatenative.Session

open Exec

/-- Whether an input, given to a session on the machine, holds the source of a program. -/
inductive Input.Holds (machine : Machine) : Input → Quote → Prop
  | source {text : String} {words : Quote} (read : Quote.ofSource text = .ok words) :
    Holds machine (.source text) words
  | file {path text : String} {words : Quote} (opened : machine.disk.read path = .ok text)
    (read : Quote.ofSource text = .ok words) : Holds machine (.file path) words

/-- Whether a session that began on one machine is on another after its programs have called the
given builtins, those of failed inputs left out. -/
inductive Recorded (limit : Nat) (start : Machine) : List Builtin → Machine → Prop
  | refl : Recorded limit start [] start
  | done {machine after : Machine} {calls more : List Builtin} {input : Input} {words : Quote}
    {log : List Note} (earlier : Recorded limit start calls machine)
    (performed : input.perform limit machine = .ok () after) (holds : input.Holds machine words)
    (runs : Runs limit (.quote words) { machine with log } more (.ok () after)) :
    Recorded limit start (calls ++ more) after
  | undone {machine after : Machine} {calls : List Builtin} {input : Input} {fault : Fault}
    (earlier : Recorded limit start calls machine)
    (failed : input.perform limit machine = .error fault after) :
    Recorded limit start calls after
  | outside {machine : Machine} {calls : List Builtin} (sink : Sink) (disk : Disk)
    (earlier : Recorded limit start calls machine) :
    Recorded limit start calls { machine with sink, disk }

variable {limit : Nat} {start machine after : Machine}

theorem Input.Holds.nesting_le {input : Input} {words : Quote} (holds : input.Holds machine words) :
    Quote.nesting words ≤ Nesting.depthLimit := by
  cases holds with
  | source read | file _ read => exact Quote.nesting_le_of_ofSource read

/-- A source that succeeds stands for a program that runs to its end. -/
theorem evaluate_of_submit_ok {text : String} (done : submit limit text machine = .ok () after) :
    ∃ words log, Quote.ofSource text = .ok words ∧
      evaluate limit words { machine with log } = .ok () after := by
  rcases submit_cases limit text machine with ⟨_, tried, done'⟩ | ⟨_, _, _, _, stopped, _⟩
  · rw [done] at done'
    cases done'
    cases read : Quote.ofSource text with
    | error error =>
      obtain ⟨log, stopped⟩ := attempt_of_error read limit machine
      rw [stopped] at tried
      cases tried
    | ok words =>
      obtain ⟨log, run⟩ := attempt_of_ok read limit machine
      exact ⟨words, log, rfl, run.symm.trans tried⟩
  · rw [done] at stopped
    cases stopped

/-- An input that succeeds holds a program that runs to its end. -/
theorem Input.evaluate_of_perform_ok {input : Input}
    (done : input.perform limit machine = .ok () after) :
    ∃ words log, input.Holds machine words ∧
      evaluate limit words { machine with log } = .ok () after := by
  cases input with
  | source text =>
    obtain ⟨words, log, read, run⟩ := evaluate_of_submit_ok done
    exact ⟨words, log, .source read, run⟩
  | file path =>
    rw [perform_file] at done
    cases opened : machine.disk.read path with
    | error obstacle =>
      rw [opened] at done
      cases done
    | ok text =>
      rw [opened] at done
      obtain ⟨words, log, read, run⟩ := evaluate_of_submit_ok done
      exact ⟨words, log, .file opened read, run⟩

/-- Every session calls some builtins. -/
theorem Reaches.exists_recorded (reached : Reaches limit start machine) :
    ∃ calls, Recorded limit start calls machine := by
  induction reached with
  | refl => exact ⟨[], .refl⟩
  | @input machine input _ ih =>
    obtain ⟨calls, earlier⟩ := ih
    cases performed : input.perform limit machine with
    | ok value after =>
      obtain ⟨words, log, holds, run⟩ := input.evaluate_of_perform_ok performed
      obtain ⟨more, ending, runs⟩ := Ends.task limit (.quote words) { machine with log }
      have same : ending = .ok () after := runs.perform_eq.symm.trans run
      subst same
      exact ⟨calls ++ more, .done earlier performed holds runs⟩
    | error fault after => exact ⟨calls, .undone earlier performed⟩
  | outside sink disk _ ih =>
    obtain ⟨calls, earlier⟩ := ih
    exact ⟨calls, .outside sink disk earlier⟩

namespace Recorded

variable {calls : List Builtin} {bound : Nat}

theorem reaches (recorded : Recorded limit start calls machine) : Reaches limit start machine := by
  induction recorded with
  | refl => exact .refl
  | @done machine after _ _ input _ _ _ performed _ _ ih =>
    have reached : Reaches limit start (machineAfter (input.perform limit machine)) := .input input ih
    rwa [performed] at reached
  | @undone machine after _ input _ _ failed ih =>
    have reached : Reaches limit start (machineAfter (input.perform limit machine)) := .input input ih
    rwa [failed] at reached
  | outside sink disk _ ih => exact .outside sink disk ih

/-- The bound of single runs, carried through a session. -/
theorem nestedWithin (recorded : Recorded limit start calls machine) (rest : start.depth = 0)
    (within : start.NestedWithin bound) (le : Nesting.depthLimit ≤ bound)
    (parsed : Builtin.parse ∈ calls → Nesting.depthLimit < bound) :
    machine.NestedWithin (bound + calls.countP Builtin.deepens) := by
  induction recorded with
  | refl => exact within
  | @done machine after calls more _ words _ earlier _ holds runs ih =>
    have before := ih fun called => parsed (List.mem_append_left _ called)
    have grown : bound ≤ bound + calls.countP Builtin.deepens := Nat.le_add_right _ _
    have deepest : 0 < Nesting.depthLimit := by decide
    have nested : Quote.nesting words ≤ bound + calls.countP Builtin.deepens :=
      Nat.le_trans holds.nesting_le (Nat.le_trans le grown)
    rw [List.countP_append, ← Nat.add_assoc]
    refine runs.nestedWithin nested (before.congr rfl rfl) (by omega) fun called => ?_
    exact Nat.lt_of_lt_of_le (parsed (List.mem_append_right _ called)) grown
  | undone earlier failed ih =>
    obtain ⟨_, _, back⟩ := Input.perform_error (earlier.reaches.depth rest) failed
    exact (ih parsed).congr back.stack back.vocabulary
  | outside sink disk _ ih => exact (ih parsed).congr rfl rfl

end Recorded

/-- In a session that began without names, and with no word on the stack that is nested more deeply
than a source may be, a value is nested more deeply only through calls of three builtins: by one level
if a source was read, and by one level for each word that was put into a quote. -/
theorem nestedWithin_of_reaches (fresh : start.Fresh)
    (flat : Quote.nesting start.stack ≤ Nesting.depthLimit) (reached : Reaches limit start machine) :
    (∃ calls, Recorded limit start calls machine) ∧
      ∀ calls, Recorded limit start calls machine →
        machine.NestedWithin (Nesting.depthLimit + (if Builtin.parse ∈ calls then 1 else 0) +
          calls.countP Builtin.deepens) := by
  refine ⟨reached.exists_recorded, fun calls recorded => ?_⟩
  have begun : start.NestedWithin Nesting.depthLimit := by
    refine ⟨Quote.nesting_le_iff.1 flat, fun name definition found => ?_⟩
    rw [fresh.vocabulary, Vocabulary.get?_empty] at found
    cases found
  have le := Nat.le_add_right Nesting.depthLimit (if Builtin.parse ∈ calls then 1 else 0)
  refine recorded.nestedWithin fresh.depth (begun.mono le) le fun called => ?_
  rw [if_pos called]
  exact Nat.lt_succ_self _

/-! ### Beyond the limit of the parser -/

/-- A quote with nothing but quotes in it, one inside the other. -/
def hollow : Nat → Word
  | 0 => .quote []
  | levels + 1 => .quote [hollow levels]

theorem nesting_hollow (levels : Nat) : (hollow levels).nesting = levels + 1 := by
  induction levels with
  | zero => rfl
  | succ levels ih => rw [hollow, Word.nesting, Quote.nesting, Quote.nesting, ih, Nat.max_zero]

/-- The source of the most deeply nested quote that the parser admits, and of a word that wraps it. -/
def overwrapping : String :=
  String.ofList (List.replicate 64 '(' ++ List.replicate 64 ')' ++ " wrap".toList)

theorem ofSource_overwrapping : Quote.ofSource overwrapping = .ok [hollow 63, .symbol "wrap"] := by
  decide +kernel

/-- A first source that puts a word on the stack and wraps it there. -/
theorem recorded_wrap {text : String} {word : Word}
    (read : Quote.ofSource text = .ok [word, .symbol "wrap"]) (plain : ∀ name, word ≠ .symbol name) :
    ∃ after, (Input.source text).perform 128 {} = .ok () after ∧ after.stack = [.quote [word]] ∧
      Recorded 128 {} [.wrap] after := by
  obtain ⟨log, tried⟩ := attempt_of_ok read 128 {}
  have runs := Runs.wrap plain (show ({ log } : Machine).depth < 128 from Nat.zero_lt_succ 127)
  have performed : (Input.source text).perform 128 {} =
      .ok () { log, stack := [.quote [word]] } :=
    submit_of_ok (tried.trans runs.perform_eq)
  exact ⟨_, performed, rfl, .done .refl performed (.source read) runs⟩

/-- A session that wraps a quote nested as deeply as the parser admits has a more deeply nested quote
on its stack. -/
theorem exists_not_nestedWithin_depthLimit :
    ∃ machine, Machine.Fresh {} ∧ (Input.source overwrapping).perform 128 {} = .ok () machine ∧
      Reaches 128 {} machine ∧ ¬ machine.NestedWithin Nesting.depthLimit := by
  obtain ⟨machine, performed, stack, recorded⟩ := recorded_wrap ofSource_overwrapping nofun
  refine ⟨machine, ⟨rfl, rfl⟩, performed, recorded.reaches, fun within => ?_⟩
  have shallow : (hollow 64).nesting ≤ Nesting.depthLimit :=
    within.stack _ (by rw [stack]; exact List.mem_cons_self)
  rw [nesting_hollow] at shallow
  exact absurd shallow (by decide)

/-- One call of a builtin that wraps is one level, no less. -/
theorem nestedWithin_of_reaches_wrap :
    ∃ machine, Recorded 128 {} [.wrap] machine ∧ machine.NestedWithin (Nesting.depthLimit + 1) ∧
      ∃ word ∈ machine.stack, word.nesting = Nesting.depthLimit + 1 := by
  obtain ⟨machine, _, stack, recorded⟩ := recorded_wrap ofSource_overwrapping nofun
  have within := (nestedWithin_of_reaches ⟨rfl, rfl⟩ (by decide) recorded.reaches).2 [.wrap] recorded
  refine ⟨machine, recorded, within, hollow 64, ?_, nesting_hollow 64⟩
  rw [stack]
  exact List.mem_cons_self

end Concatenative.Session
