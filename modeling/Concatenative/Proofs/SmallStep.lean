import Mathlib.Logic.Relation
import Concatenative.Proofs.BigStep

/-!
# Runs step by step

The evaluator says how a run ends. To speak of what holds in its midst, a run is here taken apart into
steps: a stage of a run (`Stage`) is a machine and the jobs that are still to be done on it, and a step
does the first job, which may put others in its place. Going back to the level above, putting a
vocabulary back and putting back a word that was set aside are jobs of their own. After a fault the
jobs are only skipped, but levels and vocabularies are still put in order on the way.

The steps from a quote lead to the end that the evaluator computes (`evaluate_leads`).
-/

namespace Concatenative

open Exec

/-! ## Jobs and stages -/

/-- What is still to be done in a run. -/
inductive Job
  | task (task : Task)
  /-- To go back to the level above. -/
  | leaveLevel
  /-- To put a vocabulary back. -/
  | restore (vocabulary : Vocabulary)
  /-- To put back a word that was set aside. -/
  | put (word : Word)

/-- Does what a builtin does before any quote runs, and says what is then to be done. -/
def Builtin.begin : Builtin → Exec (List Job)
  | eval => do
    let words ← takeQuote
    return [.task (.quote words)]
  | dip => do
    let words ← takeQuote
    let kept ← takeAny
    return [.task (.quote words), .put kept]
  | ifte => do
    let negative ← takeQuote
    let positive ← takeQuote
    let condition ← takeTruth
    let machine ← get
    return [.task (.quote (if condition then positive else negative)),
      .restore machine.vocabulary]
  | builtin => do
    builtin.perform fun _ => pure ()
    return []

/-- What is to be done for a definition that is called. -/
def Definition.begin (definition : Definition) : Exec (List Job) := do
  match definition.scope with
  | .isolated =>
    let machine ← get
    return [.task (.quote definition.body), .restore machine.vocabulary]
  | .shared => return [.task (.quote definition.body)]

/-- Looks up a name that is called, and says what is then to be done. -/
def beginCall (name : String) : Exec (List Job) := do
  match Builtin.ofName? name with
  | some builtin => return [.task (.builtin builtin)]
  | none =>
    let machine ← get
    match machine.vocabulary.get? name with
    | none => throw (.unknown name)
    | some definition =>
      note (.called name definition.scope machine.depth)
      definition.begin

/-- Does the first step of a word, and says what is then to be done. -/
def Word.begin : Word → Exec (List Job)
  | .symbol name => beginCall name
  | word => do
    push word
    return []

/-- Does the first step of a task, and says what is then to be done. -/
def Task.begin (limit : Nat) : Task → Exec (List Job)
  | .quote words => fun machine =>
    if limit ≤ machine.depth then .error (.tooDeep limit) machine
    else .ok [.task (.row words), .leaveLevel] { machine with depth := machine.depth + 1 }
  | .row [] => return []
  | .row (first :: rest) => return [.task (.word first), .task (.row rest)]
  | .word single => single.begin
  | .builtin called => called.begin

namespace Job

/-- The machine after a job that is skipped because of a fault. -/
def skip : Job → Machine → Machine
  | leaveLevel, machine => machine.leaveLevel
  | restore vocabulary, machine => { machine with vocabulary }
  | _, machine => machine

/-- Does the first step of a job, and says what is then to be done. -/
def begin (limit : Nat) : Job → Exec (List Job)
  | .task begun => begun.begin limit
  | .put word => do
    push word
    return []
  | job => do
    modify job.skip
    return []

end Job

/-- A stage of a run: the jobs that are still to be done, the next one first, and the machine on which
they are to be done. After a fault they will be skipped. -/
inductive Stage
  | running (jobs : List Job) (machine : Machine)
  | failing (fault : Fault) (jobs : List Job) (machine : Machine)

namespace Stage

/-- The machine at a stage. -/
@[simp]
def machine : Stage → Machine
  | running _ machine => machine
  | failing _ _ machine => machine

/-- The jobs left at a stage. -/
@[simp]
def jobs : Stage → List Job
  | running jobs _ => jobs
  | failing _ jobs _ => jobs

/-- The stage at which a part of a run has ended, with the jobs that are left. -/
def ofEnding (jobs : List Job) : Ending → Stage
  | .ok () machine => running jobs machine
  | .error fault machine => failing fault jobs machine

/-- Does or skips the next job. There is no next stage when no job is left. -/
def step? (limit : Nat) : Stage → Option Stage
  | running (job :: jobs) machine =>
    match job.begin limit machine with
    | .ok more after => some (running (more ++ jobs) after)
    | .error fault after => some (failing fault jobs after)
  | failing fault (job :: jobs) machine => some (failing fault jobs (job.skip machine))
  | running [] _ | failing _ [] _ => none

section

variable {limit : Nat} {jobs more : List Job} {job : Job} {machine after : Machine} {fault : Fault}

theorem step?_of_ok (begun : job.begin limit machine = .ok more after) :
    step? limit (running (job :: jobs) machine) = some (running (more ++ jobs) after) := by
  rw [step?, begun]

theorem step?_of_error (failed : job.begin limit machine = .error fault after) :
    step? limit (running (job :: jobs) machine) = some (failing fault jobs after) := by
  rw [step?, failed]

end

/-- Whether steps lead from a stage to another. -/
def Leads (limit : Nat) : Stage → Stage → Prop :=
  Relation.ReflTransGen fun stage next => stage.step? limit = some next

namespace Leads

variable {limit : Nat} {jobs more : List Job} {job : Job} {machine after : Machine} {fault : Fault}
  {target : Stage}

/-- A job that is begun, and the way from there. -/
theorem running (begun : job.begin limit machine = .ok more after)
    (rest : Leads limit (running (more ++ jobs) after) target) :
    Leads limit (running (job :: jobs) machine) target :=
  .head (step?_of_ok begun) rest

/-- A job that fails. -/
theorem failing (failed : job.begin limit machine = .error fault after) :
    Leads limit (.running (job :: jobs) machine) (failing fault jobs after) :=
  .single (step?_of_error failed)

/-- A job that does what it does even when it is skipped. -/
theorem skipped (same : job.begin limit = (do modify job.skip; return [])) (ending : Ending) :
    Leads limit (ofEnding (job :: jobs) ending) (ofEnding jobs (mapMachine job.skip ending)) := by
  refine .single ?_
  cases ending with
  | ok value machine =>
    have begun : job.begin limit machine = .ok [] (job.skip machine) := by
      rw [same]
      rfl
    simp only [ofEnding, step?, begun]
    rfl
  | error fault machine => rfl

/-- A stage on the way to an end leads to it: there is only one way. -/
theorem of_reached {start stage : Stage} {ending : Ending} (reached : Leads limit start stage)
    (whole : Leads limit start (ofEnding [] ending)) : Leads limit stage (ofEnding [] ending) := by
  have unique : Relator.RightUnique fun stage next : Stage => stage.step? limit = some next :=
    fun _ _ _ one other => Option.some.inj (one.symm.trans other)
  rcases reached.total_of_right_unique unique whole with before | behind
  · exact before
  · -- Behind the end there is nothing.
    rcases behind.cases_head with same | ⟨next, step, -⟩
    · exact same ▸ .refl
    · cases ending <;> cases step

end Leads

end Stage

/-! ## The first part of quotes, and of builtins that run them -/

section Quotes

variable {limit : Nat} {machine : Machine}

theorem Job.begin_of_bottom (bottom : limit ≤ machine.depth) (words : Quote) :
    begin limit (.task (.quote words)) machine = .error (.tooDeep limit) machine :=
  if_pos bottom

theorem Job.begin_of_above (above : machine.depth < limit) (words : Quote) :
    begin limit (.task (.quote words)) machine =
      .ok [.task (.row words), .leaveLevel] { machine with depth := machine.depth + 1 } :=
  if_neg (Nat.not_le.2 above)

end Quotes

namespace Builtin

variable {machine : Machine} {left : List Word} {fault : Fault} {words negative positive : Quote}
  {kept : Word} {condition : Bool} {rest : List Word}

theorem begin_eval (stack : machine.stack = .quote words :: rest) :
    begin .eval machine = .ok [.task (.quote words)] { machine with stack := rest } :=
  takeQuote_bind_of_stack stack

theorem begin_eval_of_refuses (refused : Refuses [[.quote]] machine.stack fault left) :
    begin .eval machine = .error fault { machine with stack := left } :=
  refused.eval_bind

theorem begin_dip (stack : machine.stack = .quote words :: kept :: rest) :
    begin .dip machine =
      .ok [.task (.quote words), .put kept] { machine with stack := rest } :=
  (takeQuote_bind_of_stack stack).trans (takeAny_bind_of_stack rfl)

theorem begin_dip_of_refuses (refused : Refuses [[.quote], Kind.all] machine.stack fault left) :
    begin .dip machine = .error fault { machine with stack := left } :=
  refused.dip_bind

theorem begin_ifte
    (stack : machine.stack = .quote negative :: .quote positive :: .truth condition :: rest) :
    begin .ifte machine =
      .ok [.task (.quote (if condition then positive else negative)),
        .restore machine.vocabulary] { machine with stack := rest } := by
  refine (takeQuote_bind_of_stack stack).trans ?_
  refine (takeQuote_bind_of_stack rfl).trans ?_
  exact (takeTruth_bind_of_stack rfl).trans rfl

theorem begin_ifte_of_refuses
    (refused : Refuses [[.quote], [.quote], [.truth]] machine.stack fault left) :
    begin .ifte machine = .error fault { machine with stack := left } :=
  refused.ifte_bind

/-- A builtin that runs no quotes is done in one step. -/
theorem begin_of_simple {builtin : Builtin} (simple : builtin.runsQuotes = false)
    (run : Quote → Exec Unit) :
    builtin.begin = (builtin.perform run >>= fun _ => return []) := by
  rw [perform_of_simple simple run fun _ => pure ()]
  cases builtin with
  | dip | eval | ifte => cases simple
  | _ => rfl

end Builtin

/-! ## The first part of calls -/

section Calls

variable {machine : Machine} {name : String}

theorem Word.begin_of_plain {word : Word} (plain : ∀ name, word ≠ .symbol name) :
    word.begin machine = .ok [] { machine with stack := word :: machine.stack } := by
  cases word with
  | symbol name => exact absurd rfl (plain name)
  | _ => rfl

theorem beginCall_of_named {builtin : Builtin} (meaning : Builtin.ofName? name = some builtin) :
    beginCall name = pure [.task (.builtin builtin)] := by
  unfold beginCall
  rw [meaning]

theorem beginCall_of_unknown (free : Builtin.ofName? name = none)
    (missing : machine.vocabulary.get? name = none) :
    beginCall name machine = .error (.unknown name) machine := by
  unfold beginCall
  rw [free]
  refine get_bind.trans ?_
  rw [missing]
  rfl

theorem beginCall_of_found {definition : Definition} (free : Builtin.ofName? name = none)
    (found : machine.vocabulary.get? name = some definition) :
    beginCall name machine = definition.begin
      { machine with log := .called name definition.scope machine.depth :: machine.log } := by
  unfold beginCall
  rw [free]
  refine get_bind.trans ?_
  rw [found]
  rfl

end Calls

/-! ## Steps and the evaluator -/

/-- The steps of a task lead to its end, and then to the jobs behind it. -/
theorem Runs.leads {limit : Nat} {task : Task} {machine : Machine} {calls : List Builtin}
    {ending : Ending} (runs : Runs limit task machine calls ending) (jobs : List Job) :
    Stage.Leads limit (.running (.task task :: jobs) machine) (.ofEnding jobs ending) := by
  induction runs generalizing jobs with
  | tooDeep bottom => exact .failing (Job.begin_of_bottom bottom _)
  | deeper above _ ih =>
    refine .running (Job.begin_of_above above _) ((ih (.leaveLevel :: jobs)).trans ?_)
    exact Stage.Leads.skipped rfl _
  | nil => exact .running rfl .refl
  | cons _ _ ih ih' => exact .running rfl ((ih _).trans (ih' jobs))
  | stop _ ih => exact .running rfl ((ih _).tail rfl)
  | data plain => exact .running (Word.begin_of_plain plain) .refl
  | named meaning _ ih => exact .running (congrFun (beginCall_of_named meaning) _) (ih jobs)
  | unknown free missing => exact .failing (beginCall_of_unknown free missing)
  | @isolated _ _ machine _ _ free found _ ih =>
    refine .running (beginCall_of_found free found) ?_
    refine (ih (.restore machine.vocabulary :: jobs)).trans ?_
    exact Stage.Leads.skipped rfl _
  | shared free found _ ih => exact .running (beginCall_of_found free found) (ih jobs)
  | @primitive builtin simple machine run =>
    have begun : Job.begin limit (.task (.builtin builtin)) =
        (builtin.perform run >>= fun _ => return []) := Builtin.begin_of_simple simple run
    cases done : builtin.perform run machine with
    | ok value after => exact .running ((congrFun begun machine).trans (bind_of_ok done)) .refl
    | error fault after => exact .failing ((congrFun begun machine).trans (bind_of_error done))
  | eval stack _ ih => exact .running (Builtin.begin_eval stack) (ih jobs)
  | evalRefused refused => exact .failing (Builtin.begin_eval_of_refuses refused)
  | dip stack _ ih =>
    exact .running (Builtin.begin_dip stack) ((ih _).trans (Stage.Leads.running rfl .refl))
  | dipStop stack _ ih => exact .running (Builtin.begin_dip stack) ((ih _).tail rfl)
  | dipRefused refused => exact .failing (Builtin.begin_dip_of_refuses refused)
  | @ifte _ _ _ _ machine _ _ stack _ ih =>
    refine .running (Builtin.begin_ifte stack) ((ih (.restore machine.vocabulary :: jobs)).trans ?_)
    exact Stage.Leads.skipped rfl _
  | ifteRefused refused => exact .failing (Builtin.begin_ifte_of_refuses refused)

/-- The steps from a quote lead to the end that the evaluator computes, with nothing left to do. -/
theorem evaluate_leads (limit : Nat) (words : Quote) (machine : Machine) :
    Stage.Leads limit (.running [.task (.quote words)] machine)
      (.ofEnding [] (evaluate limit words machine)) := by
  obtain ⟨calls, ending, runs⟩ := Ends.quote limit words machine
  have same : evaluate limit words machine = ending := runs.perform_eq
  rw [same]
  exact runs.leads []

end Concatenative
