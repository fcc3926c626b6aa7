import Concatenative.Proofs.Lockstep.Evaluation
import Concatenative.Session

/-!
# Sessions input by input

A session takes sources and files one after the other, and between two inputs it is at rest on the
top level. What one input does is said here once for both kinds: from a machine at rest it leads to
a later stage of it (`Session.Input.evolves_perform`), a failed input leaves the stack and the
vocabulary it found (`Session.Input.perform_error`), and a lockstep that is kept by programs is kept
by inputs (`Lockstep.Relates.input`).
-/

namespace Concatenative

open Exec

/-- Whether a session can begin on a machine: no name has a meaning and nothing runs. There may be
words on the stack already. -/
structure Machine.Fresh (machine : Machine) : Prop where
  vocabulary : machine.vocabulary = .empty
  depth : machine.depth = 0

namespace Session

/-- What a session is given: a source, or the path of a file that holds one. -/
inductive Input
  | source (text : String)
  | file (path : String)
deriving DecidableEq

/-- Takes an input, all or nothing. -/
def Input.perform (limit : Nat) : Input → Exec Unit
  | source text => submit limit text
  | file path => runFile limit path

/-- Takes an input without undoing anything. -/
def Input.attempt (limit : Nat) : Input → Exec Unit
  | source text => Session.attempt limit text
  | file path => do
    let text ← readFile path
    note (.running path)
    Session.attempt limit text

/-! ## Reading and running -/

/-- A source that stands for a program is run as that program. -/
theorem attempt_of_ok {source : String} {words : Quote} (read : Quote.ofSource source = .ok words)
    (limit : Nat) (machine : Machine) :
    ∃ log, Session.attempt limit source machine = evaluate limit words { machine with log } := by
  obtain ⟨log, parsed⟩ := parse_apply source machine
  rw [read] at parsed
  refine ⟨log, ?_⟩
  show EStateM.bind (parse source) (evaluate limit) machine = _
  rw [EStateM.bind, parsed]

/-- A source that stands for no program changes nothing. -/
theorem attempt_of_error {source : String} {error : Malformed}
    (read : Quote.ofSource source = .error error) (limit : Nat) (machine : Machine) :
    ∃ log, Session.attempt limit source machine =
      .error (.malformed error) { machine with log } := by
  obtain ⟨log, parsed⟩ := parse_apply source machine
  rw [read] at parsed
  refine ⟨log, ?_⟩
  show EStateM.bind (parse source) (evaluate limit) machine = _
  rw [EStateM.bind, parsed]

/-- A file that can be read is run with a note about it; one that cannot changes nothing at all. -/
theorem readFile_bind (path : String) (run : String → Exec Unit) (machine : Machine) :
    (do
      let text ← readFile path
      note (.running path)
      run text) machine =
      match machine.disk.read path with
      | .error obstacle => .error (.access path obstacle) machine
      | .ok text => run text { machine with log := .running path :: machine.log } := by
  have opened : (do
      let text ← readFile path
      note (.running path)
      run text) machine =
      (ofExcept (.access path) (machine.disk.read path) >>= fun text => do
        note (.running path)
        run text) machine := rfl
  rw [opened]
  cases machine.disk.read path <;> rfl

theorem Input.perform_file (limit : Nat) (path : String) (machine : Machine) :
    (file path).perform limit machine =
      match machine.disk.read path with
      | .error obstacle => .error (.access path obstacle) machine
      | .ok text => submit limit text { machine with log := .running path :: machine.log } :=
  readFile_bind path (submit limit) machine

theorem Input.attempt_file (limit : Nat) (path : String) (machine : Machine) :
    (file path).attempt limit machine =
      match machine.disk.read path with
      | .error obstacle => .error (.access path obstacle) machine
      | .ok text =>
        Session.attempt limit text { machine with log := .running path :: machine.log } :=
  readFile_bind path (Session.attempt limit) machine

instance (limit : Nat) (source : String) : Evolving (Session.attempt limit source) := by
  unfold Session.attempt
  infer_instance

/-! ## One input -/

/-- A machine after a failed input: the output and the files are those at the point of failure, all
else is as it was before, on the top level. -/
structure RolledBack (before failed after : Machine) : Prop where
  stack : after.stack = before.stack
  vocabulary : after.vocabulary = before.vocabulary
  depth : after.depth = 0
  sink : after.sink = failed.sink
  disk : after.disk = failed.disk

theorem submit_of_ok {limit : Nat} {source : String} {machine after : Machine}
    (tried : Session.attempt limit source machine = .ok () after) :
    submit limit source machine = .ok () after := by
  rw [submit, tried]

theorem submit_of_error {limit : Nat} {source : String} {machine failed : Machine} {fault : Fault}
    (tried : Session.attempt limit source machine = .error fault failed) :
    ∃ after, submit limit source machine = .error fault after ∧ RolledBack machine failed after := by
  refine ⟨failed.rollBack machine fault, ?_, rfl, rfl, rfl, rfl, rfl⟩
  rw [submit, tried]

/-- A source either succeeds as it would without a session, or fails so and is rolled back. -/
theorem submit_cases (limit : Nat) (source : String) (machine : Machine) :
    (∃ after, Session.attempt limit source machine = .ok () after ∧
      submit limit source machine = .ok () after) ∨
    ∃ fault failed after, Session.attempt limit source machine = .error fault failed ∧
      submit limit source machine = .error fault after ∧ RolledBack machine failed after := by
  cases tried : Session.attempt limit source machine with
  | ok value after => exact .inl ⟨after, rfl, submit_of_ok tried⟩
  | error fault failed =>
    obtain ⟨after, done, back⟩ := submit_of_error tried
    exact .inr ⟨fault, failed, after, rfl, done, back⟩

/-- A source from a machine at rest leads to a later stage of it. -/
theorem evolves_submit (limit : Nat) (source : String) {machine : Machine}
    (rest : machine.depth = 0) : machine.Evolves (machineAfter (submit limit source machine)) := by
  have inner := evolves (Session.attempt limit source) machine
  rcases submit_cases limit source machine with
    ⟨after, tried, done⟩ | ⟨fault, failed, after, tried, done, back⟩
  · rw [done]
    rwa [tried] at inner
  · rw [tried] at inner
    rw [done]
    obtain ⟨more, written⟩ := inner.output
    refine ⟨back.depth.trans rest.symm, ⟨more, ?_⟩, fun name definition found => ?_,
      fun name found => .inl ?_⟩
    · show after.sink.written = _
      rw [back.sink]
      exact written
    · show after.vocabulary.get? name = _
      rw [back.vocabulary, found]
    · rw [← back.vocabulary]
      exact found

namespace Input

/-- A failed input was tried, and what it did to the stack and the vocabulary was undone. -/
theorem perform_error {limit : Nat} {input : Input} {machine after : Machine} {fault : Fault}
    (rest : machine.depth = 0) (h : input.perform limit machine = .error fault after) :
    ∃ failed, input.attempt limit machine = .error fault failed ∧
      RolledBack machine failed after := by
  -- Submitting succeeds or fails with the attempt, whatever notes were made before.
  have submitted : ∀ source log,
      submit limit source { machine with log } = .error fault after →
      ∃ failed, Session.attempt limit source { machine with log } = .error fault failed ∧
        RolledBack machine failed after := by
    intro source log failure
    rcases submit_cases limit source { machine with log } with
      ⟨_, _, done⟩ | ⟨_, failed, _, tried, done, back⟩
    · rw [failure] at done
      cases done
    · rw [failure] at done
      cases done
      exact ⟨failed, tried, back.stack, back.vocabulary, back.depth, back.sink, back.disk⟩
  cases input with
  | source text => exact submitted text machine.log h
  | file path =>
    rw [perform_file] at h
    rw [attempt_file]
    cases read : machine.disk.read path with
    | error obstacle =>
      rw [read] at h
      cases h
      exact ⟨machine, rfl, rfl, rfl, rest, rfl, rfl⟩
    | ok text =>
      rw [read] at h
      exact submitted text _ h

/-- An input from a machine at rest leads to a later stage of it. -/
theorem evolves_perform (limit : Nat) (input : Input) {machine : Machine}
    (rest : machine.depth = 0) :
    machine.Evolves (machineAfter (input.perform limit machine)) := by
  cases input with
  | source text => exact evolves_submit limit text rest
  | file path =>
    rw [perform_file]
    cases machine.disk.read path with
    | error obstacle => exact .refl machine
    | ok text =>
      have noted := evolves (note (.running path)) machine
      exact noted.trans (evolves_submit limit text rest)

/-- Between two inputs a session is at rest. -/
theorem depth_perform (limit : Nat) (input : Input) {machine : Machine}
    (rest : machine.depth = 0) : (machineAfter (input.perform limit machine)).depth = 0 :=
  (evolves_perform limit input rest).depth.trans rest

end Input

/-! ## Sessions -/

/-- Whether a session that was on one machine can come to another, input by input. In between, the
output and the files may change by themselves. -/
inductive Reaches (limit : Nat) (start : Machine) : Machine → Prop
  | refl : Reaches limit start start
  | input {machine : Machine} (input : Input) (earlier : Reaches limit start machine) :
    Reaches limit start (machineAfter (input.perform limit machine))
  | outside {machine : Machine} (sink : Sink) (disk : Disk) (earlier : Reaches limit start machine) :
    Reaches limit start { machine with sink, disk }

/-- A session that began at rest is at rest after each input. -/
theorem Reaches.depth {limit : Nat} {start machine : Machine}
    (reached : Reaches limit start machine) (rest : start.depth = 0) : machine.depth = 0 := by
  induction reached with
  | refl => exact rest
  | input input _ ih => exact input.depth_perform limit ih
  | outside sink disk _ ih => exact ih

end Session

/-! ## Inputs in lockstep -/

namespace Lockstep.Relates

variable {L : Lockstep} (laws : L.Lawful) (level : L.shift = 0) (permitted : L.Permits .parse)
  {limit : Nat} (tooDeep : L.faults (.tooDeep limit) (.tooDeep limit))

include laws level permitted tooDeep

theorem attempt (source : String) :
    L.Relates Eq (Session.attempt limit source) (Session.attempt limit source) := by
  refine (Relates.parse laws permitted source).bind laws fun p q words => ?_
  exact fun _ _ machines => outcome_evaluate_of_level laws level tooDeep words machines

/-- What is put back was in step before, whatever became of it. -/
theorem submit (source : String) :
    L.Relates Eq (Session.submit limit source) (Session.submit limit source) := by
  intro left right machines
  have outcome := attempt laws level permitted tooDeep source left right machines
  unfold Session.submit
  generalize Session.attempt limit source left = result at outcome
  generalize Session.attempt limit source right = result' at outcome
  cases outcome with
  | done value after => exact .done value after
  | failed fault after =>
    refine .failed fault ⟨machines.stack, machines.vocabulary, ?_, after.sink, after.disk⟩
    simp [Machine.rollBack, level]
  | leftStopped stop => cases result' <;> exact .leftStopped stop
  | rightStopped stop => exact .rightStopped stop

/-- A lockstep between machines on the same level that programs keep is kept by every input. -/
theorem input (input : Session.Input) :
    L.Relates Eq (input.perform limit) (input.perform limit) := by
  cases input with
  | source text => exact submit laws level permitted tooDeep text
  | file path =>
    intro left right machines
    have same : right.disk.read path = left.disk.read path := by rw [machines.disk]
    rw [Session.Input.perform_file, Session.Input.perform_file, same]
    cases left.disk.read path with
    | error obstacle => exact .failed (laws.fault (.access path obstacle)) machines
    | ok text =>
      refine submit laws level permitted tooDeep text _ _ ?_
      exact ⟨machines.stack, machines.vocabulary, machines.depth, machines.sink, machines.disk⟩

end Lockstep.Relates

end Concatenative
