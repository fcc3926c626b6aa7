import Concatenative.Proofs.Session

/-!
# All or nothing

A failed input leaves the stack and the vocabulary as they were; only what it wrote stays. What was
written earlier does not matter to a session whose sink never fails, so a failed input that changed
no file might as well not have been there: leaving out any of them leaves every other step as it is
(`Session.perform_all_or_nothing`).
-/

namespace Concatenative

open Exec

/-! ## Earlier output -/

/-- The bytes that a sink has taken since an earlier stage of it. -/
def Sink.since (sink earlier : Sink) : ByteArray :=
  sink.written.extract earlier.written.size sink.written.size

theorem Sink.since_eq {sink earlier : Sink} {more : ByteArray}
    (written : sink.written = earlier.written ++ more) : sink.since earlier = more := by
  rw [Sink.since, written]
  exact ByteArray.extract_append_eq_right rfl ByteArray.size_append

namespace EarlierOutput

/-- Two runs on sinks that never fail, after `front` was written on the left and `front'` on the
right. -/
def lockstep (front front' : ByteArray) : Lockstep where
  sinks s t := s.NeverFails ∧ t.NeverFails ∧
    ∃ more, s.written = front ++ more ∧ t.written = front' ++ more

theorem lawful {front front' : ByteArray} : (lockstep front front').Lawful := by
  refine .of_eq rfl rfl rfl (fun _ _ => rfl) ?_ fun stop _ => stop
  rintro s t text ⟨left, right, more, written, written'⟩
  rw [Sink.write_of_unlimited left.room left.flushes,
    Sink.write_of_unlimited right.room right.flushes]
  refine .both none ⟨⟨left.room, left.flushes⟩, ⟨right.room, right.flushes⟩,
    more ++ text.toByteArray, ?_, ?_⟩
  · rw [Sink.append, written, ByteArray.append_assoc]
  · rw [Sink.append, written', ByteArray.append_assoc]

end EarlierOutput

/-- Whether two machines with sinks that never fail differ at most in what was written to them and
in their notes. -/
structure Machine.Parallel (left right : Machine) : Prop where
  stack : right.stack = left.stack
  vocabulary : right.vocabulary = left.vocabulary
  depth : right.depth = left.depth
  disk : right.disk = left.disk
  sink : left.sink.NeverFails
  sink' : right.sink.NeverFails

theorem Machine.Parallel.refl {machine : Machine} (sink : machine.sink.NeverFails) :
    machine.Parallel machine :=
  ⟨rfl, rfl, rfl, rfl, sink, sink⟩

/-- Machines parallel to the same one are parallel. -/
theorem Machine.Parallel.of_common {machine left right : Machine} (h : machine.Parallel left)
    (k : machine.Parallel right) : left.Parallel right :=
  ⟨k.stack.trans h.stack.symm, k.vocabulary.trans h.vocabulary.symm, k.depth.trans h.depth.symm,
    k.disk.trans h.disk.symm, h.sink', k.sink'⟩

namespace Session

/-- An input does the same on parallel machines and adds the same to their output. -/
theorem Input.perform_parallel (limit : Nat) (input : Input) {left right : Machine}
    (parallel : left.Parallel right) :
    SameEnd (fun left' right' => left'.Parallel right' ∧
        ∃ more, left'.sink.written = left.sink.written ++ more ∧
          right'.sink.written = right.sink.written ++ more)
      (input.perform limit left) (input.perform limit right) := by
  have machines : (EarlierOutput.lockstep left.sink.written right.sink.written).Machines
      left right :=
    { stack := Lockstep.stack_of_eq rfl rfl parallel.stack
      vocabulary := parallel.vocabulary.symm
      depth := parallel.depth
      sink := ⟨parallel.sink, parallel.sink', .empty, ByteArray.append_empty.symm,
        ByteArray.append_empty.symm⟩
      disk := parallel.disk }
  have back : ∀ {left' right' : Machine},
      (EarlierOutput.lockstep left.sink.written right.sink.written).Machines left' right' →
      left'.Parallel right' ∧ ∃ more, left'.sink.written = left.sink.written ++ more ∧
        right'.sink.written = right.sink.written ++ more := by
    intro left' right' after
    obtain ⟨sink, sink', more⟩ := after.sink
    exact ⟨⟨after.stack_eq (fun _ _ names => names) rfl, after.vocabulary.symm, after.depth,
      after.disk, sink, sink'⟩, more⟩
  have outcome : Lockstep.Outcome _ Eq (input.perform limit left) (input.perform limit right) :=
    Lockstep.Relates.input EarlierOutput.lawful rfl ⟨"parse", "parse", rfl, rfl⟩ rfl input left right
      machines
  generalize input.perform limit left = result at outcome ⊢
  generalize input.perform limit right = result' at outcome ⊢
  cases outcome with
  | done value after =>
    subst value
    exact .ok (back after)
  | failed fault after =>
    subst fault
    exact .error (back after)
  | leftStopped stop => exact stop.elim
  | rightStopped stop => exact stop.elim

/-! ## Steps of a session -/

/-- A step of a session: an input, the machine it was given to, and how that ended. -/
structure Step where
  input : Input
  before : Machine
  result : EStateM.Result Fault Machine Unit

namespace Step

/-- The machine after the step. -/
def after (step : Step) : Machine :=
  machineAfter step.result

/-- The fault with which the step ended, if it failed. -/
def fault? (step : Step) : Option Fault :=
  match step.result with
  | .ok .. => none
  | .error fault _ => some fault

/-- The bytes that the step wrote. -/
def output (step : Step) : ByteArray :=
  step.after.sink.since step.before.sink

/-- Whether the step failed without changing a file. -/
def Idle (step : Step) : Prop :=
  step.fault? ≠ none ∧ step.after.disk = step.before.disk

/-- Whether two steps took the same input, ended the same way, left the same stack, vocabulary and
files, and wrote the same. -/
structure Agrees (step other : Step) : Prop where
  input : other.input = step.input
  fault? : other.fault? = step.fault?
  stack : other.after.stack = step.after.stack
  vocabulary : other.after.vocabulary = step.after.vocabulary
  disk : other.after.disk = step.after.disk
  output : other.output = step.output

end Step

/-- The steps of a session, each from the machine that the one before it left. -/
def steps (limit : Nat) : List Input → Machine → List Step
  | [], _ => []
  | input :: inputs, machine =>
    ⟨input, machine, input.perform limit machine⟩ ::
      steps limit inputs (machineAfter (input.perform limit machine))

/-- Whether `kept` is what remains of `all` when some failed steps that changed no file are left
out. -/
inductive Thinned : (all kept : List Step) → Prop
  | nil : Thinned [] []
  | keep (step : Step) {all kept : List Step} (rest : Thinned all kept) :
    Thinned (step :: all) (step :: kept)
  | leaveOut {step : Step} {all kept : List Step} (idle : step.Idle) (rest : Thinned all kept) :
    Thinned (step :: all) kept

/-- Steps from parallel machines agree, and leave parallel machines. -/
theorem step_parallel (limit : Nat) (input : Input) {left right : Machine}
    (parallel : left.Parallel right) :
    Step.Agrees ⟨input, left, input.perform limit left⟩ ⟨input, right, input.perform limit right⟩ ∧
      (machineAfter (input.perform limit left)).Parallel
        (machineAfter (input.perform limit right)) := by
  have same := input.perform_parallel limit parallel
  generalize input.perform limit left = result at same ⊢
  generalize input.perform limit right = result' at same ⊢
  cases same with
  | ok h | error h =>
    obtain ⟨after, more, written, written'⟩ := h
    refine ⟨⟨rfl, rfl, after.stack, after.vocabulary, after.disk, ?_⟩, after⟩
    exact (Sink.since_eq written').trans (Sink.since_eq written).symm

/-- After a failed step that changed no file a machine is parallel to what it was parallel to
before. -/
theorem parallel_of_idle {limit : Nat} {input : Input} {left right : Machine}
    (rest : left.depth = 0) (parallel : left.Parallel right)
    (idle : Step.Idle ⟨input, left, input.perform limit left⟩) :
    (machineAfter (input.perform limit left)).Parallel right := by
  obtain ⟨failed, files⟩ := idle
  -- The sink still never fails, as the step goes on beside itself.
  have sink := (step_parallel limit input (.refl parallel.sink)).2.sink
  cases result : input.perform limit left with
  | ok value after =>
    rw [Step.fault?, result] at failed
    exact absurd rfl failed
  | error fault after =>
    obtain ⟨_, _, back⟩ := Input.perform_error rest result
    rw [result] at sink
    rw [Step.after, result] at files
    exact ⟨parallel.stack.trans back.stack.symm, parallel.vocabulary.trans back.vocabulary.symm,
      by rw [parallel.depth, rest]; exact back.depth.symm, parallel.disk.trans files.symm, sink,
      parallel.sink'⟩

/-- A session of the inputs that are left, on a parallel machine, has steps that agree with those
that are left. -/
theorem steps_of_thinned {limit : Nat} {inputs : List Input} {left right : Machine}
    {kept : List Step} (rest : left.depth = 0) (parallel : left.Parallel right)
    (thinned : Thinned (steps limit inputs left) kept) :
    List.Forall₂ Step.Agrees kept (steps limit (kept.map Step.input) right) := by
  induction inputs generalizing left right kept with
  | nil =>
    cases thinned
    exact .nil
  | cons input inputs ih =>
    have rest' := input.depth_perform limit rest
    cases thinned with
    | keep step thinned =>
      obtain ⟨agrees, parallel'⟩ := step_parallel limit input parallel
      exact .cons agrees (ih rest' parallel' thinned)
    | leaveOut idle thinned => exact ih rest' (parallel_of_idle rest parallel idle) thinned

/-- Wherever a session has come to, an input that fails leaves the stack and the vocabulary as they
were, on the top level, and the output and the files as they were at the point of failure. From
there on, over a sink that never fails, leaving out any failed steps that changed no file leaves
every other step with its result, stack, vocabulary and output. -/
theorem perform_all_or_nothing {limit : Nat} {start machine : Machine} (fresh : start.Fresh)
    (reached : Reaches limit start machine) :
    (∀ (input : Input) fault after, input.perform limit machine = .error fault after →
      (∃ failed, input.attempt limit machine = .error fault failed ∧
        RolledBack machine failed after) ∧
      ∃ more, after.sink.written = machine.sink.written ++ more) ∧
    (machine.sink.NeverFails → ∀ inputs kept, Thinned (steps limit inputs machine) kept →
      List.Forall₂ Step.Agrees kept (steps limit (kept.map Step.input) machine)) := by
  have rest := reached.depth fresh.depth
  refine ⟨fun input fault after failure => ⟨Input.perform_error rest failure, ?_⟩,
    fun sink inputs kept thinned => steps_of_thinned rest (.refl sink) thinned⟩
  have output := (input.evolves_perform limit rest).output
  rwa [failure] at output

/-- Showing the stack after an input that fails with the stack changed, and without that input. -/
theorem perform_all_or_nothing_unknown :
    ∃ after, submit 1 ".s drop x" { stack := [.text "a"] } = .error (.unknown "x") after ∧
      after.stack = [.text "a"] ∧
      Step.Agrees ⟨.source ".s", after, submit 1 ".s" after⟩
        ⟨.source ".s", { stack := [.text "a"] }, submit 1 ".s" { stack := [.text "a"] }⟩ := by
  have read : Quote.ofSource ".s drop x" = .ok [.symbol ".s", .symbol "drop", .symbol "x"] := rfl
  obtain ⟨log, tried⟩ := attempt_of_ok read 1 { stack := [.text "a"] }
  have fails : ∃ failed, evaluate 1 [.symbol ".s", .symbol "drop", .symbol "x"]
      { stack := [.text "a"], log } = .error (.unknown "x") failed ∧ failed.disk = default :=
    ⟨_, rfl, rfl⟩
  obtain ⟨failed, ends, files⟩ := fails
  rw [ends] at tried
  obtain ⟨after, failure, back⟩ := submit_of_error tried
  have session : steps 1 [.source ".s drop x", .source ".s"] { stack := [.text "a"] } =
      [⟨.source ".s drop x", { stack := [.text "a"] }, .error (.unknown "x") after⟩,
        ⟨.source ".s", after, submit 1 ".s" after⟩] := by
    rw [steps, steps, steps, Input.perform, failure]
    rfl
  have thinned : Thinned (steps 1 [.source ".s drop x", .source ".s"] { stack := [.text "a"] })
      [⟨.source ".s", after, submit 1 ".s" after⟩] := by
    rw [session]
    exact .leaveOut ⟨nofun, back.disk.trans files⟩ (.keep _ .nil)
  have fresh : Machine.Fresh { stack := [.text "a"] } := ⟨rfl, rfl⟩
  obtain ⟨undone, thinning⟩ := perform_all_or_nothing fresh (.refl : Reaches 1 _ _)
  obtain ⟨⟨_, _, back⟩, _⟩ := undone (.source ".s drop x") _ _ failure
  have agree := thinning ⟨rfl, rfl⟩ _ _ thinned
  exact ⟨after, failure, back.stack, (List.forall₂_cons.1 agree).1⟩

end Session

end Concatenative
