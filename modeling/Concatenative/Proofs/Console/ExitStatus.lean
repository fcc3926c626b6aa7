import Concatenative.Proofs.Console.Transcript
import Concatenative.Proofs.Leaving

/-!
# Exit statuses

A command line runs up to two files, the bootstrap file and then the program file, or it answers
lines. A program that comes to `exit` is the last thing that is run, in all three places. To the
program file and to the lines this is a good end, with status 0. A bootstrap file that comes to
`exit` is reported as if it had failed, with status 1 (`Console.launch_exits_quietly_iff`); so
`exit` is not everywhere a way to leave with status 0 (`Console.not_quiet_of_exit_in_bootstrap`).

Two ways not to end quietly have nothing to do with programs: the thread does not come to its end,
or the line editor cannot begin.
-/

namespace Concatenative

open Exec Session

namespace Session.Step

/-! ## Ends of steps -/

/-- Whether the program of a step comes to `exit`, and on which machine. -/
def ComesToExit (limit : Nat) (step : Step) (point : Machine) : Prop :=
  step.input.ComesToExit limit step.before point

/-- Whether a step succeeds or ends by `exit`. -/
def EndsWell (limit : Nat) (step : Step) : Prop :=
  step.fault? = none ∨ ∃ point, step.ComesToExit limit point

variable {step : Step}

theorem result_of_fault?_eq_some {fault : Fault} (failed : step.fault? = some fault) :
    step.result = .error fault step.after := by
  obtain ⟨input, before, result⟩ := step
  cases result with
  | ok value after => cases failed
  | error fault' after =>
    cases failed
    rfl

theorem result_of_fault?_eq_none (succeeded : step.fault? = none) :
    step.result = .ok () step.after := by
  obtain ⟨input, before, result⟩ := step
  cases result with
  | ok value after => rfl
  | error fault after => cases succeeded

end Session.Step

namespace Console

/-! ## Files -/

/-- The step of a session in which a file is run. -/
def fileStep (limit : Nat) (path : String) (machine : Machine) : Step :=
  ⟨.file path, machine, runFile limit path machine⟩

/-- The step in which the program file is run, if the arguments name one. -/
def programSteps (limit : Nat) (machine : Machine) : List String → List Step
  | [path] => [fileStep limit path machine]
  | _ => []

/-- The steps in which the files of a command line are run: the bootstrap file if there is one, and
then the program file, unless the bootstrap file stopped with a fault. -/
def fileSteps (limit : Nat) (core : Option String) (arguments : List String) (machine : Machine) :
    List Step :=
  (core.toList.map fun path => fileStep limit path machine) ++
    match bootstrap limit core machine with
    | .ok _ opened => programSteps limit opened arguments
    | .error .. => []

section Files

variable {limit : Nat} {path : String} {machine point : Machine}

/-- A file stops with the request to leave exactly if its program comes to `exit`. -/
theorem fault?_fileStep_eq_exit_iff :
    (fileStep limit path machine).fault? = some .exit ↔
      ∃ point, (fileStep limit path machine).ComesToExit limit point := by
  have input : (∃ point, (fileStep limit path machine).ComesToExit limit point) ↔
      ∃ after, runFile limit path machine = .error .exit after :=
    @Input.exists_comesToExit_iff limit machine (.file path)
  rw [input]
  constructor
  · exact fun left => ⟨_, Step.result_of_fault?_eq_some left⟩
  · rintro ⟨after, left⟩
    rw [Step.fault?, fileStep, left]

theorem endsWell_fileStep_iff :
    (fileStep limit path machine).EndsWell limit ↔
      (fileStep limit path machine).fault? = none ∨
        (fileStep limit path machine).fault? = some .exit :=
  or_congr_right fault?_fileStep_eq_exit_iff.symm

/-- A file that comes to `exit` stops with the request to leave, and leaves the machine there. -/
theorem leftAt_after_fileStep (comes : (fileStep limit path machine).ComesToExit limit point) :
    (fileStep limit path machine).fault? = some .exit ∧
      LeftAt machine point (fileStep limit path machine).after := by
  obtain ⟨after, left, place⟩ := Input.perform_of_comesToExit comes
  have ended : runFile limit path machine = .error .exit after := left
  rw [Step.fault?, Step.after, fileStep, ended]
  exact ⟨rfl, place⟩

end Files

/-! ## Outcomes -/

/-- Whether a command line ends with status 0 and without complaints. -/
structure Outcome.Quiet (outcome : Outcome) : Prop where
  status : outcome.status = 0
  complaints : outcome.complaints = ""

/-- Whether a command line reports a fault and ends with status 1. -/
structure Outcome.Reports (outcome : Outcome) (fault : Fault) : Prop where
  status : outcome.status = 1
  complaints : outcome.complaints = "Error: " ++ fault.message ++ "\n"

theorem Outcome.Reports.not_quiet {outcome : Outcome} {fault : Fault}
    (reports : outcome.Reports fault) : ¬ outcome.Quiet := by
  intro quiet
  have same := quiet.status.symm.trans reports.status
  cases same

theorem reports_failed (fault : Fault) (machine : Machine) :
    (Outcome.failed fault machine).Reports fault :=
  ⟨rfl, rfl⟩

section Conclusion

variable {step : Step}

theorem machine_concludeFile (step : Step) :
    (concludeFile step.result).machine = step.after := by
  obtain ⟨input, before, result⟩ := step
  cases result with
  | ok value after => rfl
  | error fault after => cases fault <;> rfl

/-- A program file that fails is reported. -/
theorem reports_concludeFile {fault : Fault} (failed : step.fault? = some fault)
    (stays : fault ≠ .exit) : (concludeFile step.result).Reports fault := by
  rw [Step.result_of_fault?_eq_some failed]
  cases fault with
  | exit => exact absurd rfl stays
  | _ => exact reports_failed _ _

/-- After a program file all is quiet exactly if it succeeded or asked to leave. -/
theorem quiet_concludeFile_iff :
    (concludeFile step.result).Quiet ↔ step.fault? = none ∨ step.fault? = some .exit := by
  cases ended : step.fault? with
  | none =>
    rw [Step.result_of_fault?_eq_none ended]
    exact ⟨fun _ => .inl rfl, fun _ => ⟨rfl, rfl⟩⟩
  | some fault =>
    by_cases leaves : fault = .exit
    · subst leaves
      rw [Step.result_of_fault?_eq_some ended]
      exact ⟨fun _ => .inr rfl, fun _ => ⟨rfl, rfl⟩⟩
    · have reports := reports_concludeFile ended leaves
      simp [reports.not_quiet, leaves]

end Conclusion

/-! ## Behind the bootstrap file -/

section Program

variable {limit : Nat} {delivery : Except String Delivery} {machine : Machine}
  {arguments : List String}

/-- A complaint says something. -/
theorem complaint_ne_empty (message : String) : complaint message ≠ "" := by
  intro same
  have bytes := congrArg String.utf8ByteSize same
  simp [complaint, errorLine] at bytes

/-- A conversation is quiet, and the lack of one is not. -/
theorem quiet_concludeConversation_iff :
    (concludeConversation limit machine delivery).Quiet ↔ ∃ lines, delivery = .ok lines := by
  cases delivery with
  | ok lines => exact ⟨fun _ => ⟨lines, rfl⟩, fun _ => ⟨rfl, rfl⟩⟩
  | error message =>
    refine ⟨fun quiet => absurd quiet.complaints (complaint_ne_empty message), ?_⟩
    rintro ⟨lines, same⟩
    cases same

/-- What the arguments ask for is done quietly exactly if there is at most one, the file that it
names ends well, and a conversation can begin if there is to be one. -/
theorem quiet_serve_iff :
    (serve limit delivery machine arguments).Quiet ↔
      arguments.length ≤ 1 ∧ (∀ step ∈ programSteps limit machine arguments, step.EndsWell limit) ∧
        (arguments = [] → ∃ lines, delivery = .ok lines) := by
  match arguments with
  | [] =>
    have few : ([] : List String).length ≤ 1 := Nat.zero_le 1
    have none : ∀ step ∈ programSteps limit machine [], step.EndsWell limit := List.forall_mem_nil _
    rw [serve, quiet_concludeConversation_iff]
    exact ⟨fun begins => ⟨few, none, fun _ => begins⟩, fun quiet => quiet.2.2 rfl⟩
  | [path] =>
    have one : (∀ step ∈ programSteps limit machine [path], step.EndsWell limit) ↔
        (fileStep limit path machine).EndsWell limit := List.forall_mem_singleton
    rw [one, endsWell_fileStep_iff, ← quiet_concludeFile_iff]
    exact ⟨fun quiet => ⟨Nat.le_refl 1, quiet, nofun⟩, fun quiet => quiet.2.1⟩
  | first :: second :: rest =>
    constructor
    · intro quiet
      cases quiet.status
    · rintro ⟨few, -, -⟩
      simp only [List.length_cons] at few
      omega

/-- A program file that fails is reported. -/
theorem reports_serve {step : Step} (mem : step ∈ programSteps limit machine arguments)
    {fault : Fault} (failed : step.fault? = some fault) (stays : fault ≠ .exit) :
    (serve limit delivery machine arguments).Reports fault := by
  match arguments with
  | [] | _ :: _ :: _ => cases mem
  | [path] =>
    obtain rfl := List.mem_singleton.1 mem
    exact reports_concludeFile failed stays

/-- A program file is the last thing that is run. -/
theorem machine_serve {step : Step} (mem : step ∈ programSteps limit machine arguments) :
    (serve limit delivery machine arguments).machine = step.after := by
  match arguments with
  | [] | _ :: _ :: _ => cases mem
  | [path] =>
    obtain rfl := List.mem_singleton.1 mem
    exact machine_concludeFile (fileStep limit path machine)

end Program

/-! ## Lines -/

/-- Whether the console, from some lines and a machine on, comes to run a source, and on which
machine. -/
inductive ComesToRun (limit : Nat) : Delivery → Machine → String → Machine → Prop
  | now {written : ByteArray} {text source : String} {later : Delivery} {machine : Machine}
    (asks : Command.ofLine text = .run source) :
    ComesToRun limit (.line written text later) machine source (machine.append written)
  | later {written : ByteArray} {text source : String} {lines : Delivery}
    {machine after before : Machine}
    (answered : answer limit (machine.append written) (.ofLine text) = (after, true))
    (comes : ComesToRun limit lines after source before) :
    ComesToRun limit (.line written text lines) machine source before

/-- When a line comes to `exit`, the lines behind it are not read. -/
theorem converse_of_comesToExit {limit : Nat} {lines : Delivery} {machine before point : Machine}
    {source : String} (comes : ComesToRun limit lines machine source before)
    (exits : SourceComesToExit limit source before point) :
    LeftAt before point (converse limit lines machine) := by
  -- Each line before the one that comes to `exit` is answered, and the console goes on behind it.
  induction comes with
  | @now written text source later machine asks =>
    obtain ⟨after, left, place⟩ := submit_of_comesToExit exits
    have answered : answer limit (machine.append written) (.ofLine text) = (after, false) := by
      rw [asks, answer, left]
      rfl
    rw [converse]
    simp only [answered]
    exact place
  | @later written text source lines machine after before answered _ ih =>
    rw [converse]
    simp only [answered]
    exact ih exits

/-! ## The command line -/

/-- A bootstrap file that stopped with a fault is the only file that is run. -/
theorem fileSteps_of_error {limit : Nat} {core : Option String} {machine after : Machine}
    {fault : Fault} (failed : bootstrap limit core machine = .error fault after)
    (arguments : List String) :
    ∃ path, core = some path ∧
      fileSteps limit core arguments machine = [fileStep limit path machine] ∧
      (fileStep limit path machine).fault? = some fault ∧
      (fileStep limit path machine).after = after := by
  cases core with
  | none => cases failed
  | some path =>
    have result : (fileStep limit path machine).result = .error fault after := failed
    refine ⟨path, rfl, ?_, ?_, ?_⟩
    · rw [fileSteps, failed]
      rfl
    · rw [Step.fault?, result]
    · rw [Step.after, result]
      rfl

/-- A bootstrap file that did not stop with a fault is followed by the program file. -/
theorem mem_fileSteps_of_ok {limit : Nat} {core : Option String} {machine opened : Machine}
    (succeeded : bootstrap limit core machine = .ok () opened) {arguments : List String}
    {step : Step} (mem : step ∈ fileSteps limit core arguments machine) :
    (∃ path, core = some path ∧ step = fileStep limit path machine ∧ step.fault? = none) ∨
      step ∈ programSteps limit opened arguments := by
  rw [fileSteps, succeeded, List.mem_append] at mem
  refine mem.imp_left fun first => ?_
  cases core with
  | none => cases first
  | some path =>
    have result : (fileStep limit path machine).result = .ok () opened := succeeded
    obtain rfl := List.mem_singleton.1 first
    refine ⟨path, rfl, rfl, ?_⟩
    rw [Step.fault?, result]

section Work

variable {limit : Nat} {core : Option String} {delivery : Except String Delivery}
  {arguments : List String} {machine opened after : Machine} {fault : Fault}

theorem work_of_bootstrap_ok (succeeded : bootstrap limit core machine = .ok () opened) :
    work limit core delivery arguments machine = serve limit delivery opened arguments := by
  rw [work, succeeded]

theorem work_of_bootstrap_error (failed : bootstrap limit core machine = .error fault after) :
    work limit core delivery arguments machine = .failed fault after := by
  rw [work, failed]

/-- Every file that is run is one that a path names. -/
theorem exists_fileStep {limit : Nat} {core : Option String} {machine : Machine} {step : Step}
    (mem : step ∈ fileSteps limit core arguments machine) :
    ∃ path before, step = fileStep limit path before := by
  have program : ∀ opened, step ∈ programSteps limit opened arguments →
      ∃ path before, step = fileStep limit path before := by
    intro opened mem
    match arguments with
    | [] | _ :: _ :: _ => cases mem
    | [path] => exact ⟨path, opened, List.mem_singleton.1 mem⟩
  cases booted : bootstrap limit core machine with
  | error fault after =>
    obtain ⟨path, -, files, -, -⟩ := fileSteps_of_error booted arguments
    rw [files] at mem
    exact ⟨path, machine, List.mem_singleton.1 mem⟩
  | ok value opened =>
    rcases mem_fileSteps_of_ok booted mem with ⟨path, -, same, -⟩ | mem
    · exact ⟨path, machine, same⟩
    · exact program opened mem

/-- A file that stops with a fault is the last thing that is run, and a fault that is no request to
leave is reported. -/
theorem work_of_fault {step : Step} (mem : step ∈ fileSteps limit core arguments machine)
    (failed : step.fault? = some fault) :
    (work limit core delivery arguments machine).machine = step.after ∧
      (fault ≠ .exit → (work limit core delivery arguments machine).Reports fault) := by
  cases booted : bootstrap limit core machine with
  | error fault' after =>
    obtain ⟨path, -, files, failed', left⟩ := fileSteps_of_error booted arguments
    rw [files] at mem
    obtain rfl := List.mem_singleton.1 mem
    rw [failed, Option.some.injEq] at failed'
    subst failed'
    rw [work_of_bootstrap_error booted, left]
    exact ⟨rfl, fun _ => reports_failed fault after⟩
  | ok value opened =>
    rw [work_of_bootstrap_ok booted]
    rcases mem_fileSteps_of_ok booted mem with ⟨_, _, _, succeeded⟩ | mem
    · rw [failed] at succeeded
      cases succeeded
    · exact ⟨machine_serve mem, reports_serve mem failed⟩

/-- The work is done quietly exactly if there is at most one argument, all files that are run end
well, the bootstrap file does not ask to leave, and a conversation can begin if there is to be one.
-/
theorem quiet_work_iff :
    (work limit core delivery arguments machine).Quiet ↔
      arguments.length ≤ 1 ∧
      (∀ step ∈ fileSteps limit core arguments machine, step.EndsWell limit) ∧
      (¬ ∃ after, bootstrap limit core machine = .error .exit after) ∧
      (arguments = [] → ∃ lines, delivery = .ok lines) := by
  cases booted : bootstrap limit core machine with
  | error fault after =>
    obtain ⟨path, -, files, failed, -⟩ := fileSteps_of_error booted arguments
    rw [work_of_bootstrap_error booted, files, List.forall_mem_singleton, endsWell_fileStep_iff,
      failed]
    refine ⟨fun quiet => absurd quiet (reports_failed fault after).not_quiet, ?_⟩
    rintro ⟨-, succeeded | leaves, stays, -⟩
    · cases succeeded
    · cases leaves
      exact absurd ⟨after, rfl⟩ stays
  | ok value opened =>
    rw [work_of_bootstrap_ok booted, quiet_serve_iff]
    have stays : ¬ ∃ after, (.ok value opened : EStateM.Result Fault Machine Unit) =
        .error .exit after := by
      rintro ⟨after, same⟩
      cases same
    constructor
    · rintro ⟨few, well, begins⟩
      refine ⟨few, fun step mem => ?_, stays, begins⟩
      rcases mem_fileSteps_of_ok booted mem with ⟨_, _, _, succeeded⟩ | mem
      · exact .inl succeeded
      · exact well step mem
    · rintro ⟨few, well, -, begins⟩
      refine ⟨few, fun step mem => well step ?_, begins⟩
      rw [fileSteps, booted]
      exact List.mem_append_right _ mem

end Work

/-- Whether the bootstrap file of an environment comes to `exit`. -/
def Environment.LeavesAtOnce (environment : Environment) (disk : Disk) : Prop :=
  ∃ path, environment.core = some path ∧
    ∃ point, (fileStep environment.levels path { disk }).ComesToExit environment.levels point

theorem Environment.leavesAtOnce_iff {environment : Environment} {disk : Disk} :
    environment.LeavesAtOnce disk ↔
      ∃ after, bootstrap environment.levels environment.core { disk } = .error .exit after := by
  constructor
  · rintro ⟨path, core, leaves⟩
    rw [core]
    exact ⟨_, Step.result_of_fault?_eq_some (fault?_fileStep_eq_exit_iff.2 leaves)⟩
  · rintro ⟨after, left⟩
    obtain ⟨path, core, -, asks, -⟩ := fileSteps_of_error left []
    exact ⟨path, core, fault?_fileStep_eq_exit_iff.1 asks⟩

/-! ## The thread -/

section Launch

variable {host : Host} {editor : LineEditor} {arguments : List String} {environment : Environment}
  {input : ByteArray} {disk : Disk}

/-- A command line ends quietly exactly if its thread comes to its end, there is at most one
argument, all files that are run end well, the bootstrap file does not come to `exit`, and a
conversation can begin if there is to be one. -/
theorem quiet_launch_iff :
    (launch host editor arguments environment input disk).Quiet ↔
      host.Finishes environment ∧ arguments.length ≤ 1 ∧
      (∀ step ∈ fileSteps environment.levels environment.core arguments { disk },
        step.EndsWell environment.levels) ∧
      ¬ environment.LeavesAtOnce disk ∧
      (arguments = [] → editor.Begins environment.terminal input) := by
  -- An unfinished thread decides the status by itself, and a finished one leaves it to the work.
  by_cases finishes : host.Finishes environment
  · rw [launch_of_finishes finishes, quiet_work_iff, ← Environment.leavesAtOnce_iff]
    exact (and_iff_right finishes).symm
  · have status : (launch host editor arguments environment input disk).status = 1 :=
      status_of_not_finishes finishes
    refine ⟨fun quiet => ?_, fun ⟨finishes', _⟩ => absurd finishes' finishes⟩
    cases quiet.status.symm.trans status

end Launch

/-- A command line ends with status 0 and without complaints exactly if there is at most one
argument, each file that is run succeeds or comes to `exit`, and this is not the bootstrap file,
provided that the thread comes to its end and a conversation can begin. A bootstrap file that comes
to `exit` is reported, with status 1. So is any other fault of a file. Nothing is run any more when
a file or a line has come to `exit`: the output and the files are those of that point. -/
theorem launch_exits_quietly_iff (host : Host) (editor : LineEditor) (arguments : List String)
    (environment : Environment) (input : ByteArray) (disk : Disk) :
    let limit := environment.levels
    let steps := fileSteps limit environment.core arguments { disk }
    let outcome := launch host editor arguments environment input disk
    (outcome.Quiet ↔ host.Finishes environment ∧ arguments.length ≤ 1 ∧
      (∀ step ∈ steps, step.EndsWell limit) ∧ ¬ environment.LeavesAtOnce disk ∧
      (arguments = [] → editor.Begins environment.terminal input)) ∧
    (¬ host.Finishes environment → outcome.status = 1) ∧
    (host.Finishes environment →
      (environment.LeavesAtOnce disk → outcome.Reports .exit) ∧
      (∀ step ∈ steps, ∀ fault, step.fault? = some fault → fault ≠ .exit →
        outcome.Reports fault) ∧
      (∀ step ∈ steps, ∀ point, step.ComesToExit limit point →
        LeftAt step.before point outcome.machine) ∧
      ∀ opened lines source before point, arguments = [] →
        bootstrap limit environment.core { disk } = .ok () opened →
        editor.deliver environment.terminal input = .ok lines →
        ComesToRun limit lines (opened.say banner) source before →
        SourceComesToExit limit source before point → LeftAt before point outcome.machine) := by
  refine ⟨quiet_launch_iff, status_of_not_finishes, fun finishes => ?_⟩
  rw [launch_of_finishes finishes]
  refine ⟨fun leaves => ?_, fun step mem fault failed => (work_of_fault mem failed).2,
    fun step mem point comes => ?_, fun opened lines source before point none booted delivers => ?_⟩
  · obtain ⟨after, left⟩ := Environment.leavesAtOnce_iff.1 leaves
    rw [work_of_bootstrap_error left]
    exact reports_failed .exit after
  · obtain ⟨path, before, rfl⟩ := exists_fileStep mem
    obtain ⟨asks, place⟩ := leftAt_after_fileStep comes
    rw [(work_of_fault mem asks).1]
    exact place
  · intro comes exits
    subst none
    rw [work_of_bootstrap_ok booted, serve, delivers]
    exact converse_of_comesToExit comes exits

/-- Behind a bootstrap file that defines a way out, a program file that takes it ends quietly and
has written no more than before, a program file with an unknown name is reported, and a line that
takes the way out ends the conversation. -/
theorem launch_exits_quietly_by_way_out :
    let host : Host := { thread := fun _ => .finished }
    let editor : LineEditor := { deliver := fun _ _ => .ok (.plain ["out", "1"]) }
    let environment : Environment := { core := some "core" }
    let disk := (((Disk.empty []).provide "core" "(1 (exit) dip) (out) defm".toByteArray).provide
      "main" "\"a\" print out \"b\" print".toByteArray).provide "bad" "oops".toByteArray
    let input := joinLines ["out", "1"]
    let launch := fun arguments => launch host editor arguments environment input disk
    let opened := (fileStep 128 "core" { disk }).after
    (launch ["main"]).Quiet ∧
      (∃ point, LeftAt opened point (launch ["main"]).machine ∧
        point.sink.written = "a".toByteArray) ∧
      (launch ["bad"]).Reports (.unknown "oops") ∧
      ∃ point, SourceComesToExit 128 "out" (opened.say banner) point ∧
        LeftAt (opened.say banner) point (launch []).machine := by
  intro host editor environment disk input launch opened
  have defines : (fileStep 128 "core" { disk }).fault? = none := by decide +kernel
  have booted : bootstrap 128 (some "core") { disk } = .ok () opened :=
    Step.result_of_fault?_eq_none defines
  have files : ∀ path, fileSteps 128 (some "core") [path] { disk } =
      [fileStep 128 "core" { disk }, fileStep 128 path opened] := by
    intro path
    rw [fileSteps, booted]
    rfl
  have asks : (fileStep 128 "main" opened).fault? = some .exit := by decide +kernel
  obtain ⟨point, comes⟩ := fault?_fileStep_eq_exit_iff.1 asks
  have mem : fileStep 128 "main" opened ∈ fileSteps 128 (some "core") ["main"] { disk } := by
    simp [files]
  have mem' : fileStep 128 "bad" opened ∈ fileSteps 128 (some "core") ["bad"] { disk } := by
    simp [files]
  have all := fun arguments =>
    launch_exits_quietly_iff host editor arguments environment input disk
  obtain ⟨quiet, -, finished⟩ := all ["main"]
  obtain ⟨-, -, left, -⟩ := finished rfl
  obtain ⟨-, reports, -⟩ := (all ["bad"]).2.2 rfl
  obtain ⟨-, -, -, lines⟩ := (all []).2.2 rfl
  refine ⟨quiet.2 ⟨rfl, Nat.le_refl 1, fun step mem => ?_, ?_, nofun⟩,
    ⟨point, left _ mem point comes, ?_⟩, reports _ mem' (.unknown "oops") (by decide +kernel) nofun,
    ?_⟩
  · rcases mem_fileSteps_of_ok booted mem with ⟨_, _, _, succeeded⟩ | mem
    · exact .inl succeeded
    · obtain rfl := List.mem_singleton.1 mem
      exact .inr ⟨point, comes⟩
  · rw [Environment.leavesAtOnce_iff]
    rintro ⟨after, left⟩
    cases booted.symm.trans left
  · rw [← (left _ mem point comes).sink]
    decide +kernel
  · have asks : (sourceStep 128 "out" (opened.say banner)).fault? = some .exit := by decide +kernel
    obtain ⟨point, exits⟩ := sourceComesToExit_of_submit (Step.result_of_fault?_eq_some asks)
    have reads : Command.ofLine "out" = .run "out" := by decide +kernel
    have comes : ComesToRun 128 (.plain ["out", "1"]) (opened.say banner) "out"
        ((opened.say banner).append .empty) := .now reads
    rw [Machine.append_empty] at comes
    exact ⟨point, exits, lines opened _ "out" _ point rfl booted rfl comes exits⟩

/-- A bootstrap file that comes to `exit` is the only file that is run, and it ends well, but not
quietly. -/
theorem not_quiet_of_exit_in_bootstrap :
    ¬ ∀ (host : Host) (editor : LineEditor) (arguments : List String) (environment : Environment)
      (input : ByteArray) (disk : Disk), host.Finishes environment →
      editor.Begins environment.terminal input →
      ((launch host editor arguments environment input disk).Quiet ↔ arguments.length ≤ 1 ∧
        ∀ step ∈ fileSteps environment.levels environment.core arguments { disk },
          step.EndsWell environment.levels) := by
  intro always
  let host : Host := { thread := fun _ => .finished }
  let editor : LineEditor := { deliver := fun _ _ => .ok (.plain []) }
  let environment : Environment := { core := some "core" }
  let disk := (Disk.empty []).provide "core" "exit".toByteArray
  have asks : (fileStep 128 "core" { disk }).fault? = some .exit := by decide +kernel
  have left : bootstrap 128 (some "core") { disk } =
      .error .exit (fileStep 128 "core" { disk }).after :=
    Step.result_of_fault?_eq_some asks
  have quiet := (always host editor ["main"] environment .empty disk rfl ⟨_, rfl⟩).2
    ⟨Nat.le_refl 1, by
      obtain ⟨path, core, files, _⟩ := fileSteps_of_error left ["main"]
      cases core
      show ∀ step ∈ fileSteps 128 (some "core") ["main"] { disk }, step.EndsWell 128
      rw [files, List.forall_mem_singleton, endsWell_fileStep_iff]
      exact .inr asks⟩
  have status : (launch host editor ["main"] environment .empty disk).status = 1 := by
    decide +kernel
  cases quiet.status.symm.trans status

end Console

end Concatenative
