import Concatenative.Proofs.Leftover
import Concatenative.Proofs.Session
import Concatenative.Proofs.SmallStep

/-!
# Leaving

A program asks to leave with the builtin `exit`, at any depth of a run. The request travels as a
fault, and no other job of a run stops with this one (`Job.eq_exit_of_begin`); behind a fault the
jobs that are left are only skipped. So a run ends with the request exactly if it comes to the
builtin, and the words, the output and the files at its end are those that were there when it came
to it (`evaluate_of_comesToExit`, `exists_comesToExit`). The same is said of the inputs of a
session.
-/

namespace Concatenative

open Exec

/-! ## The jobs that ask to leave -/

theorem Refuses.ne_exit {kinds : List (List Kind)} {stack left : List Word} {fault : Fault}
    (refused : Refuses kinds stack fault left) : fault ≠ .exit := by
  induction refused with
  | nothing | other => nofun
  | later _ _ ih => exact ih

namespace Builtin

variable {builtin : Builtin} {machine after : Machine}

/-- Of the builtins that run no quotes only `exit` asks to leave. -/
theorem eq_exit_of_perform (simple : builtin.runsQuotes = false) {run : Quote → Exec Unit}
    (asks : builtin.perform run machine = .error .exit after) : builtin = .exit := by
  have left := leavesOff_stopsWith simple run machine .exit after asks
  rcases left.stack with refused | ⟨_, _, _, stops⟩
  · exact absurd rfl refused.ne_exit
  · exact stops.2 rfl

/-- A builtin that runs quotes is begun, or it is refused an operand. -/
theorem begin_of_runsQuotes (runs : builtin.runsQuotes = true) (machine : Machine) :
    (∃ more after, builtin.begin machine = .ok more after) ∨
      ∃ kinds fault left, Refuses kinds machine.stack fault left ∧
        builtin.begin machine = .error fault { machine with stack := left } := by
  cases builtin with
  | eval =>
    rcases Refuses.taken_or_refused [[.quote]] machine.stack with
      ⟨operands, rest, stack, fit⟩ | ⟨fault, left, refused⟩
    · obtain ⟨words, rfl⟩ := eq_of_fits_eval fit
      exact .inl ⟨_, _, begin_eval stack⟩
    · exact .inr ⟨_, _, _, refused, begin_eval_of_refuses refused⟩
  | dip =>
    rcases Refuses.taken_or_refused [[.quote], Kind.all] machine.stack with
      ⟨operands, rest, stack, fit⟩ | ⟨fault, left, refused⟩
    · obtain ⟨words, kept, rfl⟩ := eq_of_fits_dip fit
      exact .inl ⟨_, _, begin_dip stack⟩
    · exact .inr ⟨_, _, _, refused, begin_dip_of_refuses refused⟩
  | ifte =>
    rcases Refuses.taken_or_refused [[.quote], [.quote], [.truth]] machine.stack with
      ⟨operands, rest, stack, fit⟩ | ⟨fault, left, refused⟩
    · obtain ⟨words, negative, condition, rfl⟩ := eq_of_fits_ifte fit
      exact .inl ⟨_, _, begin_ifte stack⟩
    · exact .inr ⟨_, _, _, refused, begin_ifte_of_refuses refused⟩
  | _ => cases runs

theorem eq_exit_of_begin (asks : builtin.begin machine = .error .exit after) : builtin = .exit := by
  cases runs : builtin.runsQuotes with
  | false =>
    rw [begin_of_simple runs fun _ => pure ()] at asks
    cases done : builtin.perform (fun _ => pure ()) machine with
    | ok value middle =>
      rw [bind_of_ok done] at asks
      cases asks
    | error fault middle =>
      rw [bind_of_error done] at asks
      cases asks
      exact eq_exit_of_perform runs done
  | true =>
    rcases begin_of_runsQuotes runs machine with
      ⟨more, middle, begun⟩ | ⟨kinds, fault, left, refused, failed⟩
    · rw [begun] at asks
      cases asks
    · rw [failed] at asks
      cases asks
      exact absurd rfl refused.ne_exit

end Builtin

/-- A name that is looked up is not yet run, so it does not ask to leave. -/
theorem beginCall_ne_exit {name : String} {machine after : Machine} :
    beginCall name machine ≠ .error .exit after := by
  intro asks
  cases meaning : Builtin.ofName? name with
  | some builtin =>
    rw [beginCall_of_named meaning] at asks
    cases asks
  | none =>
    cases found : machine.vocabulary.get? name with
    | none =>
      rw [beginCall_of_unknown meaning found] at asks
      cases asks
    | some definition =>
      rw [beginCall_of_found meaning found] at asks
      obtain ⟨scope, body⟩ := definition
      cases scope <;> cases asks

/-- The only job that asks to leave is the builtin `exit`, and it does nothing else. -/
theorem Job.eq_exit_of_begin {limit : Nat} {job : Job} {machine after : Machine}
    (asks : job.begin limit machine = .error .exit after) :
    job = .task (.builtin .exit) ∧ after = machine := by
  have only : job = .task (.builtin .exit) := by
    cases job with
    | leaveLevel | restore | put => cases asks
    | task task =>
      cases task with
      | quote words =>
        by_cases bottom : limit ≤ machine.depth
        · rw [begin_of_bottom bottom] at asks
          cases asks
        · rw [begin_of_above (Nat.not_le.1 bottom)] at asks
          cases asks
      | row words => cases words <;> cases asks
      | word word =>
        cases word with
        | symbol name => exact absurd asks beginCall_ne_exit
        | _ => cases asks
      | builtin builtin => rw [Builtin.eq_exit_of_begin asks]
  subst only
  cases asks
  exact ⟨rfl, rfl⟩

/-! ## Behind a fault -/

/-- Whether nothing was run any more from a point on: the words, the output, the files and the notes
are those of the point. -/
structure Machine.StoppedAt (after point : Machine) : Prop where
  stack : after.stack = point.stack
  sink : after.sink = point.sink
  disk : after.disk = point.disk
  log : after.log = point.log

theorem Machine.StoppedAt.refl (machine : Machine) : machine.StoppedAt machine :=
  ⟨rfl, rfl, rfl, rfl⟩

/-- A job that is skipped runs nothing. -/
theorem Job.stoppedAt_skip {job : Job} {machine point : Machine}
    (stopped : machine.StoppedAt point) : (job.skip machine).StoppedAt point := by
  cases job with
  | leaveLevel | restore | task | put =>
    exact ⟨stopped.stack, stopped.sink, stopped.disk, stopped.log⟩

namespace Stage.Leads

variable {limit : Nat} {jobs : List Job} {machine : Machine} {stage : Stage}

/-- Behind a fault there is only the same fault, and nothing is run any more. -/
theorem of_failing {fault : Fault} (leads : Leads limit (.failing fault jobs machine) stage) :
    ∃ rest after, stage = .failing fault rest after ∧ after.StoppedAt machine := by
  induction leads with
  | refl => exact ⟨jobs, machine, rfl, .refl machine⟩
  | tail _ step ih =>
    obtain ⟨rest, after, rfl, stopped⟩ := ih
    cases rest with
    | nil => cases step
    | cons job rest =>
      cases step
      exact ⟨rest, _, rfl, Job.stoppedAt_skip stopped⟩

/-- A run that has failed came to a job that failed. -/
theorem exists_failed (leads : Leads limit (.running jobs machine) stage) {fault : Fault}
    {rest : List Job} {after : Machine} (failed : stage = .failing fault rest after) :
    ∃ job others point stop, Leads limit (.running jobs machine) (.running (job :: others) point) ∧
      job.begin limit point = .error fault stop ∧
      Leads limit (.failing fault others stop) (.failing fault rest after) := by
  -- The last step is into the fault or behind it; in the second case the run had failed before.
  induction leads generalizing rest after with
  | refl => cases failed
  | @tail earlier _ reached step ih =>
    subst failed
    cases earlier with
    | failing fault' rest' after' =>
      cases rest' with
      | nil => cases step
      | cons job rest' =>
        obtain ⟨failing, others, point, stop, before, failure, behind⟩ := ih (by cases step; rfl)
        exact ⟨failing, others, point, stop, before, failure, behind.tail (by cases step; rfl)⟩
    | running jobs' point =>
      cases jobs' with
      | nil => cases step
      | cons job others =>
        cases begun : job.begin limit point with
        | ok more middle =>
          rw [step?_of_ok begun] at step
          cases step
        | error fault' stop =>
          rw [step?_of_error begun] at step
          cases step
          exact ⟨job, _, point, _, reached, begun, .refl⟩

end Stage.Leads

/-! ## Runs that come to `exit` -/

/-- Whether a run of a quote comes to the builtin `exit`, and on which machine. -/
def ComesToExit (limit : Nat) (words : Quote) (machine point : Machine) : Prop :=
  ∃ jobs, Stage.Leads limit (.running [.task (.quote words)] machine)
    (.running (.task (.builtin .exit) :: jobs) point)

/-- A run that comes to `exit` ends there with the request to leave. -/
theorem evaluate_of_comesToExit {limit : Nat} {words : Quote} {machine point : Machine}
    (comes : ComesToExit limit words machine point) :
    ∃ after, evaluate limit words machine = .error .exit after ∧ after.StoppedAt point := by
  obtain ⟨jobs, reached⟩ := comes
  have behind := Stage.Leads.of_reached reached (evaluate_leads limit words machine)
  -- The end is not the stage itself, as there is a job left, so the next step is to ask.
  rcases behind.cases_head with same | ⟨next, step, onward⟩
  · cases ending : evaluate limit words machine with
    | ok value after | error fault after =>
      rw [ending] at same
      cases same
  · have asked : next = .failing .exit jobs point := by
      cases step
      rfl
    subst asked
    obtain ⟨rest, after, ends, stopped⟩ := Stage.Leads.of_failing onward
    cases ending : evaluate limit words machine with
    | ok value after =>
      rw [ending] at ends
      cases ends
    | error fault after =>
      rw [ending] at ends
      cases ends
      exact ⟨_, rfl, stopped⟩

/-- A run that ends with the request to leave has come to `exit`. -/
theorem exists_comesToExit {limit : Nat} {words : Quote} {machine after : Machine}
    (left : evaluate limit words machine = .error .exit after) :
    ∃ point, ComesToExit limit words machine point := by
  have whole := evaluate_leads limit words machine
  rw [left] at whole
  obtain ⟨job, others, point, stop, reached, failed, _⟩ := Stage.Leads.exists_failed whole rfl
  obtain ⟨rfl, _⟩ := Job.eq_exit_of_begin failed
  exact ⟨point, others, reached⟩

namespace Session

/-! ## Inputs that come to `exit` -/

/-- Whether a source stands for a program that comes to `exit`, and on which machine. -/
def SourceComesToExit (limit : Nat) (source : String) (machine point : Machine) : Prop :=
  ∃ words read, parse source machine = .ok words read ∧ ComesToExit limit words read point

/-- Whether the program that an input stands for comes to `exit`, and on which machine. -/
def Input.ComesToExit (limit : Nat) : Input → Machine → Machine → Prop
  | .source text, machine, point => SourceComesToExit limit text machine point
  | .file path, machine, point =>
    ∃ text, machine.disk.read path = .ok text ∧
      SourceComesToExit limit text { machine with log := .running path :: machine.log } point

/-- The machine that is left when an input comes to `exit` at a point: what the input had done to
the stack and the vocabulary is undone, and the output and the files are those of the point. -/
structure LeftAt (before point after : Machine) : Prop where
  stack : after.stack = before.stack
  vocabulary : after.vocabulary = before.vocabulary
  sink : after.sink = point.sink
  disk : after.disk = point.disk

variable {limit : Nat} {machine point after : Machine}

/-- A source that comes to `exit` ends there with the request to leave. -/
theorem submit_of_comesToExit {source : String}
    (comes : SourceComesToExit limit source machine point) :
    ∃ after, submit limit source machine = .error .exit after ∧ LeftAt machine point after := by
  obtain ⟨words, read, parsed, comes⟩ := comes
  obtain ⟨failed, left, stopped⟩ := evaluate_of_comesToExit comes
  have tried : attempt limit source machine = .error .exit failed := (bind_of_ok parsed).trans left
  obtain ⟨after, done, back⟩ := submit_of_error tried
  exact ⟨after, done, back.stack, back.vocabulary, back.sink.trans stopped.sink,
    back.disk.trans stopped.disk⟩

/-- A source that ends with the request to leave has come to `exit`. -/
theorem sourceComesToExit_of_submit {source : String}
    (left : submit limit source machine = .error .exit after) :
    ∃ point, SourceComesToExit limit source machine point := by
  have tried : ∃ failed, attempt limit source machine = .error .exit failed := by
    rcases submit_cases limit source machine with
      ⟨_, _, done⟩ | ⟨fault, failed, _, tried, done, _⟩
    · rw [left] at done
      cases done
    · rw [left] at done
      cases done
      exact ⟨failed, tried⟩
  obtain ⟨failed, tried⟩ := tried
  -- A source that stands for no program is refused as such.
  cases read : Quote.ofSource source with
  | error error =>
    obtain ⟨log, refused⟩ := attempt_of_error read limit machine
    rw [refused] at tried
    cases tried
  | ok words =>
    obtain ⟨log, parsed⟩ := parse_apply source machine
    rw [read] at parsed
    have ran : evaluate limit words { machine with log } = .error .exit failed :=
      (bind_of_ok parsed).symm.trans tried
    obtain ⟨point, comes⟩ := exists_comesToExit ran
    exact ⟨point, words, _, parsed, comes⟩

/-- An input that comes to `exit` ends there with the request to leave. -/
theorem Input.perform_of_comesToExit {input : Input}
    (comes : input.ComesToExit limit machine point) :
    ∃ after, input.perform limit machine = .error .exit after ∧ LeftAt machine point after := by
  cases input with
  | source text => exact submit_of_comesToExit comes
  | file path =>
    obtain ⟨text, read, comes⟩ := comes
    obtain ⟨after, left, place⟩ := submit_of_comesToExit comes
    rw [perform_file, read]
    exact ⟨after, left, place.stack, place.vocabulary, place.sink, place.disk⟩

/-- An input ends with the request to leave exactly if its program comes to `exit`. -/
theorem Input.exists_comesToExit_iff {input : Input} :
    (∃ point, input.ComesToExit limit machine point) ↔
      ∃ after, input.perform limit machine = .error .exit after := by
  constructor
  · rintro ⟨point, comes⟩
    obtain ⟨after, left, _⟩ := perform_of_comesToExit comes
    exact ⟨after, left⟩
  · rintro ⟨after, left⟩
    cases input with
    | source text => exact sourceComesToExit_of_submit left
    | file path =>
      rw [perform_file] at left
      cases read : machine.disk.read path with
      | error obstacle =>
        rw [read] at left
        cases left
      | ok text =>
        rw [read] at left
        obtain ⟨point, comes⟩ := sourceComesToExit_of_submit left
        exact ⟨point, text, read, comes⟩

end Session

end Concatenative
