import Concatenative.Proofs.SmallStep
import Concatenative.Settings

/-!
# Counting levels

The level of a machine is a count that goes up by one when a quote is begun and down by one when it is
done. At each stage of a run it is the level on which the run began and one more for each quote that is
begun and not done (`Stage.Levelled`), and it is never beyond the number of levels. A count of 64 bits
is therefore enough, as long as the number of levels is one of 64 bits. A host that uses a fresh machine
finds it on the top level after whatever it has done with it (`depth_answerAll`).
-/

namespace Concatenative

open Exec

/-! ## What begins and what ends a level -/

/-- How many levels are left by a job. -/
def Job.levels : Job → Nat
  | leaveLevel => 1
  | _ => 0

/-- How many levels are left by jobs. -/
@[simp]
def Job.openLevels : List Job → Nat
  | [] => 0
  | job :: jobs => job.levels + openLevels jobs

@[simp]
theorem Job.openLevels_append (jobs more : List Job) :
    openLevels (jobs ++ more) = openLevels jobs + openLevels more := by
  induction jobs with
  | nil => simp
  | cons job jobs ih => simp [ih, Nat.add_assoc]

/-- Whether an action stays on the level where it is and gives jobs that leave no level. -/
structure Exec.KeepsLevel (action : Exec (List Job)) : Prop where
  depth : ∀ machine, (machineAfter (action machine)).depth = machine.depth
  levels : ∀ machine more after, action machine = .ok more after → Job.openLevels more = 0

namespace Exec.KeepsLevel

theorem pure {jobs : List Job} (none : Job.openLevels jobs = 0) : KeepsLevel (pure jobs) where
  depth _ := rfl
  levels _ _ _ done := by
    cases done
    exact none

theorem throw (fault : Fault) : KeepsLevel (throw fault) where
  depth _ := rfl
  levels _ _ _ done := by cases done

theorem bind {α : Type} {action : Exec α} {next : α → Exec (List Job)} [Evolving action]
    (rest : ∀ value, KeepsLevel (next value)) : KeepsLevel (action >>= next) where
  depth machine := by
    have later := (evolves action machine).depth
    cases first : action machine with
    | ok value after =>
      rw [first] at later
      rw [bind_of_ok first, (rest value).depth after]
      exact later
    | error fault after =>
      rw [first] at later
      rw [bind_of_error first]
      exact later
  levels machine more after done := by
    cases first : action machine with
    | ok value middle =>
      rw [bind_of_ok first] at done
      exact (rest value).levels middle more after done
    | error fault middle =>
      rw [bind_of_error first] at done
      cases done

end Exec.KeepsLevel

theorem Builtin.keepsLevel_begin (builtin : Builtin) : KeepsLevel builtin.begin := by
  have simple : ∀ builtin : Builtin, builtin.runsQuotes = false → KeepsLevel builtin.begin := by
    intro builtin simple
    rw [begin_of_simple simple fun _ => pure ()]
    exact .bind fun _ => .pure rfl
  cases builtin with
  | eval => exact .bind fun words => .pure rfl
  | dip => exact .bind fun words => .bind fun kept => .pure rfl
  | ifte =>
    exact .bind fun negative => .bind fun positive => .bind fun condition => .bind fun machine =>
      .pure rfl
  | _ => exact simple _ rfl

theorem Definition.keepsLevel_begin (definition : Definition) : KeepsLevel definition.begin := by
  unfold Definition.begin
  cases definition.scope with
  | isolated => exact .bind fun machine => .pure rfl
  | shared => exact .pure rfl

theorem keepsLevel_beginCall (name : String) : KeepsLevel (beginCall name) := by
  unfold beginCall
  cases Builtin.ofName? name with
  | some builtin => exact .pure rfl
  | none =>
    refine .bind fun machine => ?_
    cases machine.vocabulary.get? name with
    | none => exact .throw _
    | some definition => exact .bind fun _ => definition.keepsLevel_begin

theorem Word.keepsLevel_begin (word : Word) : KeepsLevel word.begin := by
  cases word with
  | symbol name => exact keepsLevel_beginCall name
  | _ => exact .bind fun _ => .pure rfl

/-- Only a quote, when it is begun, changes the level. -/
theorem Task.keepsLevel_begin (limit : Nat) {task : Task} (other : ∀ words, task ≠ .quote words) :
    KeepsLevel (task.begin limit) := by
  cases task with
  | quote words => exact absurd rfl (other words)
  | row words => cases words <;> exact .pure rfl
  | word single => exact single.keepsLevel_begin
  | builtin called => exact called.keepsLevel_begin

/-! ## Steps -/

/-- What may become of the level in one step. -/
inductive LevelStep (limit : Nat) : Nat → Nat → Prop
  | same (level : Nat) : LevelStep limit level level
  | down {level : Nat} (room : level < limit) : LevelStep limit level (level + 1)
  | up (level : Nat) : LevelStep limit (level + 1) level

namespace Stage

/-- Whether a stage of a run that began on the level `entry` is on the level on which it should be:
one further down for each level that is still to be left, and not beyond the last one. -/
structure Levelled (entry limit : Nat) (stage : Stage) : Prop where
  depth : stage.machine.depth = entry + Job.openLevels stage.jobs
  within : stage.machine.depth ≤ limit

namespace Levelled

variable {entry limit : Nat} {job : Job} {jobs : List Job} {machine : Machine} {stage next : Stage}

/-- A step after which the level is the same and as many levels are to be left. -/
theorem of_same (levelled : stage.Levelled entry limit)
    (depth : next.machine.depth = stage.machine.depth)
    (levels : Job.openLevels next.jobs = Job.openLevels stage.jobs) :
    next.Levelled entry limit ∧ LevelStep limit stage.machine.depth next.machine.depth := by
  refine ⟨⟨?_, ?_⟩, ?_⟩
  · rw [depth, levels]
    exact levelled.depth
  · rw [depth]
    exact levelled.within
  · rw [depth]
    exact .same _

theorem step_of_keepsLevel (levelled : (running (job :: jobs) machine).Levelled entry limit)
    (inside : job.levels = 0) (keeps : KeepsLevel (job.begin limit))
    (step : step? limit (running (job :: jobs) machine) = some next) :
    next.Levelled entry limit ∧ LevelStep limit machine.depth next.machine.depth := by
  have depth := keeps.depth machine
  cases begun : job.begin limit machine with
  | ok more after =>
    rw [begun] at depth
    rw [step?_of_ok begun] at step
    cases step
    have levels := keeps.levels machine more after begun
    exact levelled.of_same depth (by simp [inside, levels])
  | error fault after =>
    rw [begun] at depth
    rw [step?_of_error begun] at step
    cases step
    exact levelled.of_same depth (by simp [inside])

/-- A quote goes one level down if there is one. -/
theorem step_of_quote {words : Quote}
    (levelled : (running (.task (.quote words) :: jobs) machine).Levelled entry limit)
    (step : step? limit (running (.task (.quote words) :: jobs) machine) = some next) :
    next.Levelled entry limit ∧ LevelStep limit machine.depth next.machine.depth := by
  have depth : machine.depth = entry + Job.openLevels jobs := by
    simpa [Job.levels] using levelled.depth
  rcases Nat.lt_or_ge machine.depth limit with above | bottom
  · rw [step?_of_ok (Job.begin_of_above above words)] at step
    cases step
    refine ⟨⟨?_, above⟩, .down above⟩
    show machine.depth + 1 = entry + (0 + (1 + Job.openLevels jobs))
    omega
  · rw [step?_of_error (Job.begin_of_bottom bottom words)] at step
    cases step
    exact levelled.of_same rfl (by simp [Job.levels])

/-- Leaving a level goes back up to the one above, which is there. -/
theorem leaveLevel {stage next : Stage} (levelled : stage.Levelled entry limit)
    (first : stage.jobs = .leaveLevel :: next.jobs)
    (left : next.machine = stage.machine.leaveLevel) :
    next.Levelled entry limit ∧ LevelStep limit stage.machine.depth next.machine.depth := by
  have depth := levelled.depth
  have within := levelled.within
  rw [first, Job.openLevels, Job.levels] at depth
  have above : stage.machine.depth = next.machine.depth + 1 := by
    rw [left]
    show _ = stage.machine.depth - 1 + 1
    omega
  refine ⟨⟨?_, ?_⟩, ?_⟩
  · omega
  · omega
  · rw [above]
    exact .up _

/-- What one step does to the level. -/
theorem step (levelled : stage.Levelled entry limit) (step : stage.step? limit = some next) :
    next.Levelled entry limit ∧ LevelStep limit stage.machine.depth next.machine.depth := by
  cases stage with
  | running jobs machine =>
    cases jobs with
    | nil => cases step
    | cons job jobs =>
      cases job with
      | task task =>
        by_cases quote : ∃ words, task = .quote words
        · obtain ⟨words, rfl⟩ := quote
          exact levelled.step_of_quote step
        · refine levelled.step_of_keepsLevel rfl ?_ step
          exact Task.keepsLevel_begin limit fun words same => quote ⟨words, same⟩
      | leaveLevel =>
        cases step
        exact levelled.leaveLevel rfl rfl
      | restore vocabulary =>
        cases step
        exact levelled.of_same rfl (by simp [Job.levels])
      | put word =>
        cases step
        exact levelled.of_same rfl (by simp [Job.levels])
  | failing fault jobs machine =>
    cases jobs with
    | nil => cases step
    | cons job jobs =>
      cases step
      cases job with
      | leaveLevel => exact levelled.leaveLevel rfl rfl
      | task | restore | put => exact levelled.of_same rfl (by simp [Job.levels])

/-- A run stays on the levels on which it should be. -/
theorem leads (levelled : stage.Levelled entry limit) (leads : Leads limit stage next) :
    next.Levelled entry limit := by
  induction leads with
  | refl => exact levelled
  | tail _ last ih => exact (ih.step last).1

end Levelled

end Stage

/-! ## A count of 64 bits -/

/-- What may be done to a count of 64 bits without leaving the range of such counts. -/
inductive CountStep : UInt64 → UInt64 → Prop
  | same (count : UInt64) : CountStep count count
  | increment {count : UInt64} (room : count.toNat + 1 < UInt64.size) : CountStep count (count + 1)
  | decrement {count : UInt64} (room : 0 < count.toNat) : CountStep count (count - 1)

/-- The level of a machine as a count of 64 bits. -/
def Machine.levelCount (machine : Machine) : UInt64 :=
  .ofNat machine.depth

theorem toNat_levelCount {limit : Nat} {machine : Machine} (fits : limit ≤ Settings.greatest)
    (within : machine.depth ≤ limit) : machine.levelCount.toNat = machine.depth := by
  apply UInt64.toNat_ofNat_of_lt
  unfold Settings.greatest at fits
  show _ < 2 ^ 64
  omega

theorem LevelStep.count {limit : Nat} {before after : Machine} (fits : limit ≤ Settings.greatest)
    (within : before.depth ≤ limit) (step : LevelStep limit before.depth after.depth) :
    CountStep before.levelCount after.levelCount := by
  have faithful : before.levelCount.toNat = before.depth := toNat_levelCount fits within
  unfold Machine.levelCount at *
  generalize before.depth = level at *
  generalize after.depth = level' at *
  cases step with
  | same => exact .same _
  | down room =>
    rw [UInt64.ofNat_add]
    refine .increment ?_
    rw [faithful]
    unfold Settings.greatest at fits
    show _ < 2 ^ 64
    omega
  | up =>
    have back : UInt64.ofNat level' = UInt64.ofNat (level' + 1) - 1 := by
      rw [UInt64.ofNat_add]
      simp
    rw [back]
    refine .decrement ?_
    rw [faithful]
    exact Nat.succ_pos _

/-! ## Hosts -/

/-- What a host may ask of a machine. Quotes and builtins are run with a vocabulary of the host. -/
inductive Request
  | evaluate (vocabulary : Vocabulary) (words : Quote)
  | call (vocabulary : Vocabulary) (builtin : Builtin)
  | push (word : Word)
  | take (accepted : List Kind)
  | takeNumber
  | takeText
  | takeTruth
  | takeQuote
  /-- To put back a stack, on the top level. -/
  | restore (stack : List Word)
  | write (text : String)

namespace Request

/-- Does what is asked. What a host takes is no longer on the machine. -/
def answer (limit : Nat) : Request → Exec Unit
  | evaluate vocabulary words => do
    modify fun machine => { machine with vocabulary }
    Concatenative.evaluate limit words
  | call vocabulary builtin => do
    modify fun machine => { machine with vocabulary }
    builtin.perform (Concatenative.evaluate limit)
  | push word => Exec.push word
  | take accepted => discard (Exec.take accepted)
  | takeNumber => discard Exec.takeNumber
  | takeText => discard Exec.takeText
  | takeTruth => discard Exec.takeTruth
  | takeQuote => discard Exec.takeQuote
  | restore stack => modify fun machine => { machine with stack, depth := 0 }
  | write text => emit text

/-- The machine after requests, some of which may have failed. -/
def answerAll (limit : Nat) (requests : List Request) (machine : Machine) : Machine :=
  requests.foldl (fun machine request => machineAfter (request.answer limit machine)) machine

theorem depth_answer (limit : Nat) (request : Request) {machine : Machine}
    (top : machine.depth = 0) : (machineAfter (request.answer limit machine)).depth = 0 := by
  have keeps : ∀ (action : Exec Unit) [Evolving action],
      (machineAfter (action machine)).depth = 0 := fun action _ =>
    (evolves action machine).depth.trans top
  cases request with
  | evaluate vocabulary words =>
    exact (evolves (Concatenative.evaluate limit words) { machine with vocabulary }).depth.trans top
  | call vocabulary builtin =>
    exact (evolves (builtin.perform (Concatenative.evaluate limit))
      { machine with vocabulary }).depth.trans top
  | push word => exact keeps (Exec.push word)
  | take accepted => exact keeps (Exec.take accepted >>= fun _ => pure ())
  | takeNumber => exact keeps (Exec.takeNumber >>= fun _ => pure ())
  | takeText => exact keeps (Exec.takeText >>= fun _ => pure ())
  | takeTruth => exact keeps (Exec.takeTruth >>= fun _ => pure ())
  | takeQuote => exact keeps (Exec.takeQuote >>= fun _ => pure ())
  | restore stack => rfl
  | write text => exact keeps (emit text)

/-- A machine on the top level is there again after each of any requests. -/
theorem depth_answerAll (limit : Nat) (requests : List Request) {machine : Machine}
    (top : machine.depth = 0) : (answerAll limit requests machine).depth = 0 := by
  induction requests generalizing machine with
  | nil => exact top
  | cons request requests ih => exact ih (depth_answer limit request top)

end Request

/-- A run that begins on one of the levels ends on the same one, however it ends. At each stage on its
way it is on a level that is neither above the one where it began nor beyond the last one. If the
number of levels is one of 64 bits, so is the count at each stage, and no step overflows or underflows.
A fresh machine of a host is on the top level after all that it is asked, and so between any two
requests. -/
theorem evaluate_counts_levels (limit : Nat) (words : Quote) (machine : Machine)
    (within : machine.depth ≤ limit) :
    (machineAfter (evaluate limit words machine)).depth = machine.depth ∧
      Stage.Leads limit (.running [.task (.quote words)] machine)
        (.ofEnding [] (evaluate limit words machine)) ∧
      (∀ stage, Stage.Leads limit (.running [.task (.quote words)] machine) stage →
        Stage.Leads limit stage (.ofEnding [] (evaluate limit words machine)) ∧
        machine.depth ≤ stage.machine.depth ∧ stage.machine.depth ≤ limit ∧
        (∀ next, stage.step? limit = some next →
          LevelStep limit stage.machine.depth next.machine.depth) ∧
        (limit ≤ Settings.greatest →
          stage.machine.levelCount.toNat = stage.machine.depth ∧
          ∀ next, stage.step? limit = some next →
            CountStep stage.machine.levelCount next.machine.levelCount)) ∧
      ∀ (sink : Sink) (disk : Disk) (requests : List Request),
        (Request.answerAll limit requests { sink, disk }).depth = 0 := by
  have whole := evaluate_leads limit words machine
  have start : (Stage.running [.task (.quote words)] machine).Levelled machine.depth limit :=
    ⟨rfl, within⟩
  refine ⟨(evolves (evaluate limit words) machine).depth, whole, fun stage reached => ?_,
    fun sink disk requests => Request.depth_answerAll limit requests rfl⟩
  have levelled := start.leads reached
  refine ⟨.of_reached reached whole, ?_, levelled.within, fun next step => (levelled.step step).2,
    fun fits => ⟨toNat_levelCount fits levelled.within, fun next step => ?_⟩⟩
  · rw [levelled.depth]
    exact Nat.le_add_right _ _
  · exact (levelled.step step).2.count fits levelled.within

/-- On the second of two levels, a quote that needs a third is cut short there and comes back. -/
theorem evaluate_counts_levels_cut :
    ({ depth := 1 } : Machine).depth ≤ 2 ∧
      evaluate 2 [.quote [], .symbol "eval"] { depth := 1 } =
        .error (.tooDeep 2) { depth := 1 } ∧
      (machineAfter (evaluate 2 [.quote [], .symbol "eval"] { depth := 1 })).depth = 1 := by
  have within : ({ depth := 1 } : Machine).depth ≤ 2 := by decide
  exact ⟨within, rfl, (evaluate_counts_levels 2 _ _ within).1⟩

end Concatenative
