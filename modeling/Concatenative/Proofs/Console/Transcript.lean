import Concatenative.Proofs.Console.Delivery
import Concatenative.Proofs.Session.Rollback

/-!
# Transcripts of conversations

A conversation is a session with answers. Each line that the console reads is a turn: a blank line,
a command, or a source that is the next step of the session. What the console writes is the banner
followed by the answers to the turns, one after the other, and the session behind them is the one
that takes the sources alone. So lines that leave the session as it is can be left out, and what the
console writes lacks their answers and nothing else (`Console.launch_transcribes`).

Of the host it is assumed that the thread comes to its end (`Host.Finishes`), and of the line editor
that it delivers the lines in order and writes nothing in between (`LineEditor.Delivers`).
-/

namespace Concatenative

open Exec Session

namespace Console

/-! ## Turns -/

/-- The step of a session that takes a source. -/
def sourceStep (limit : Nat) (source : String) (machine : Machine) : Step :=
  ⟨.source source, machine, submit limit source machine⟩

/-- A line that the console has read, and the machine of the session at that point. -/
structure Turn where
  line : String
  machine : Machine

namespace Turn

/-- What the line asks for: the line without the blanks at its ends. -/
def text (turn : Turn) : String :=
  Text.trim turn.line

theorem trim_line (turn : Turn) : Text.trim turn.line = turn.text :=
  rfl

/-- The texts that are no source: the empty one and the commands. -/
def noSource : List String :=
  ["", ":quit", ":exit", ":vocab", ":words"]

variable (limit : Nat)

/-- The step of the session that the line asks for, unless it is blank or a command. -/
def step? (turn : Turn) : Option Step :=
  if turn.text ∈ noSource then none else some (sourceStep limit turn.text turn.machine)

/-- The machine of the session after the turn. -/
def after (turn : Turn) : Machine :=
  ((turn.step? limit).map Step.after).getD turn.machine

/-- Whether the console leaves after the turn. -/
def leaves (turn : Turn) : Bool :=
  turn.text = ":quit" || turn.text = ":exit" ||
    (turn.step? limit).any fun step => step.fault? = some .exit

/-- The lines that follow what a step wrote: the stack after success, the fault after failure, and
nothing after a request to leave. -/
def verdict (step : Step) : List String :=
  match step.fault? with
  | none => [step.after.renderStack]
  | some fault => if fault = .exit then [] else ["Error: " ++ fault.message]

/-- The answer of the console. -/
def reply (turn : Turn) : ByteArray :=
  match turn.step? limit with
  | some step => step.output ++ joinLines (verdict step)
  | none =>
    if turn.text = ":vocab" then joinLines (vocabularyLines turn.machine.vocabulary)
    else if turn.text = ":words" then joinLines [" ".intercalate Builtin.names]
    else .empty

end Turn

/-- The turns of a conversation, up to the first after which the console leaves. -/
def turns (limit : Nat) : List String → Machine → List Turn
  | [], _ => []
  | line :: lines, machine =>
    let turn : Turn := ⟨line, machine⟩
    turn :: if turn.leaves limit then [] else turns limit lines (turn.after limit)

/-- The machine of the session after some turns. -/
def machineAfterTurns (limit : Nat) (turns : List Turn) (machine : Machine) : Machine :=
  turns.foldl (fun _ turn => turn.after limit) machine

theorem machineAfterTurns_cons (limit : Nat) (turn : Turn) (turns : List Turn) (machine : Machine) :
    machineAfterTurns limit (turn :: turns) machine =
      machineAfterTurns limit turns (turn.after limit) :=
  rfl

/-- Whether a command line ended well, and wrote the banner and the answers to some turns. -/
structure Outcome.Transcribes (outcome : Outcome) (limit : Nat) (turns : List Turn) : Prop where
  status : outcome.status = 0
  complaints : outcome.complaints = ""
  written : outcome.machine.sink.written =
    joinLines [banner] ++ concat (turns.map (Turn.reply limit))

/-! ## Lines that can be left out -/

/-- Whether a turn leaves the session as it is: its line is blank or lists something, or it asks for
a step that fails without changing a file, and not by asking to leave. -/
def Turn.Dispensable (limit : Nat) (turn : Turn) : Prop :=
  turn.text ∈ ["", ":vocab", ":words"] ∨
    ∃ step, turn.step? limit = some step ∧ step.Idle ∧ step.fault? ≠ some .exit

/-- Whether `kept` is what remains of `all` when some dispensable turns are left out. -/
inductive Thinned (limit : Nat) : (all kept : List Turn) → Prop
  | nil : Thinned limit [] []
  | keep (turn : Turn) {all kept : List Turn} (rest : Thinned limit all kept) :
    Thinned limit (turn :: all) (turn :: kept)
  | leaveOut {turn : Turn} {all kept : List Turn} (dispensable : turn.Dispensable limit)
    (rest : Thinned limit all kept) : Thinned limit (turn :: all) kept

theorem Thinned.refl (limit : Nat) (all : List Turn) : Thinned limit all all := by
  induction all with
  | nil => exact .nil
  | cons turn all ih => exact .keep turn ih

/-! ## One turn -/

namespace Turn

section Equations

variable {limit : Nat} {turn : Turn}

theorem step?_of_mem (mem : turn.text ∈ noSource) : turn.step? limit = none :=
  if_pos mem

theorem step?_of_notMem (mem : turn.text ∉ noSource) :
    turn.step? limit = some (sourceStep limit turn.text turn.machine) :=
  if_neg mem

theorem after_of_mem (mem : turn.text ∈ noSource) : turn.after limit = turn.machine := by
  rw [after, step?_of_mem mem, Option.map_none, Option.getD_none]

theorem after_of_notMem (mem : turn.text ∉ noSource) :
    turn.after limit = (sourceStep limit turn.text turn.machine).after := by
  rw [after, step?_of_notMem mem, Option.map_some, Option.getD_some]

theorem leaves_of_notMem (mem : turn.text ∉ noSource) :
    turn.leaves limit = ((sourceStep limit turn.text turn.machine).fault? = some .exit) := by
  rw [leaves, step?_of_notMem mem, Option.any_some]
  simp only [noSource, List.mem_cons, List.not_mem_nil, or_false, not_or] at mem
  simp only [mem, decide_false, Bool.false_or, decide_eq_true_eq]

theorem reply_of_notMem (mem : turn.text ∉ noSource) :
    turn.reply limit = (sourceStep limit turn.text turn.machine).output ++
      joinLines (verdict (sourceStep limit turn.text turn.machine)) := by
  rw [reply, step?_of_notMem mem]

/-- What is neither blank nor a command is run. -/
theorem ofLine_of_notMem (mem : turn.text ∉ noSource) :
    Command.ofLine turn.line = .run turn.text := by
  simp only [noSource, List.mem_cons, List.not_mem_nil, or_false, not_or] at mem
  obtain ⟨blank, quit, exit, vocab, words⟩ := mem
  unfold Command.ofLine
  rw [trim_line]
  simp [blank, quit, exit, vocab, words]

end Equations

end Turn

/-- Lines that the console writes leave a parallel machine parallel. -/
theorem parallel_say {machine console : Machine} (parallel : machine.Parallel console)
    (lines : List String) :
    machine.Parallel (lines.foldl Machine.say console) ∧
      (lines.foldl Machine.say console).sink.written =
        console.sink.written ++ joinLines lines := by
  induction lines generalizing console with
  | nil => exact ⟨parallel, ByteArray.append_empty.symm⟩
  | cons line lines ih =>
    have said : machine.Parallel (console.say line) :=
      { parallel with sink' := ⟨parallel.sink'.room, parallel.sink'.flushes⟩ }
    obtain ⟨after, written⟩ := ih said
    refine ⟨after, written.trans ?_⟩
    exact ByteArray.append_assoc

/-- The end of a source is answered with the verdict on the step. -/
theorem conclude_eq (step : Step) :
    conclude step.result =
      ((Turn.verdict step).foldl Machine.say step.after, step.fault? != some .exit) := by
  obtain ⟨input, before, result⟩ := step
  cases result with
  | ok value after => rfl
  | error fault after => cases fault <;> rfl

/-- Steps that agree have the same verdict. -/
theorem Turn.verdict_of_agrees {step other : Step} (agrees : step.Agrees other) :
    verdict other = verdict step := by
  have shown : other.after.renderStack = step.after.renderStack := by
    unfold Machine.renderStack
    rw [agrees.stack]
  rw [verdict, verdict, agrees.fault?, shown]

/-- A source on a parallel machine is a step that agrees, leaves a parallel machine and adds the
same output to what was written there. -/
theorem sourceStep_parallel (limit : Nat) (source : String) {machine console : Machine}
    (parallel : machine.Parallel console) :
    (sourceStep limit source machine).Agrees (sourceStep limit source console) ∧
      (sourceStep limit source machine).after.Parallel (sourceStep limit source console).after ∧
      (sourceStep limit source console).after.sink.written =
        console.sink.written ++ (sourceStep limit source machine).output := by
  obtain ⟨agrees, after⟩ := step_parallel limit (.source source) parallel
  obtain ⟨_, more, written, written'⟩ :=
    (Input.perform_parallel limit (.source source) parallel).machineAfter
  refine ⟨agrees, after, written'.trans ?_⟩
  exact congrArg (console.sink.written ++ ·) (Sink.since_eq written).symm

/-- A failed source that changed no file leaves a machine parallel to what it was parallel to
before. -/
theorem sourceStep_parallel_of_idle {limit : Nat} {source : String} {machine console : Machine}
    (rest : machine.depth = 0) (parallel : machine.Parallel console)
    (idle : (sourceStep limit source machine).Idle) :
    (sourceStep limit source machine).after.Parallel console :=
  parallel_of_idle rest parallel idle

theorem depth_after_sourceStep (limit : Nat) (source : String) {machine : Machine}
    (rest : machine.depth = 0) : (sourceStep limit source machine).after.depth = 0 :=
  Input.depth_perform limit (.source source) rest

/-- Whether the console, on a machine parallel to that of the session, answers a turn as it should.
-/
def Turn.Answered (limit : Nat) (turn : Turn) (console : Machine) : Prop :=
  ∃ next, answer limit console (.ofLine turn.line) = (next, !turn.leaves limit) ∧
    (turn.after limit).Parallel next ∧
    next.sink.written = console.sink.written ++ turn.reply limit

/-- Blank lines and commands are answered from the machine as it is. -/
theorem Turn.answered_of_mem {limit : Nat} {turn : Turn} {console : Machine}
    (parallel : turn.machine.Parallel console) (mem : turn.text ∈ noSource) :
    turn.Answered limit console := by
  have silent : console.sink.written = console.sink.written ++ .empty :=
    ByteArray.append_empty.symm
  unfold Answered Command.ofLine
  rw [trim_line, after_of_mem mem, leaves, reply, step?_of_mem mem]
  simp only [noSource, List.mem_cons, List.not_mem_nil, or_false] at mem
  rcases mem with text | text | text | text | text
  · rw [text]
    exact ⟨console, rfl, parallel, silent⟩
  · rw [text]
    exact ⟨console, rfl, parallel, silent⟩
  · rw [text]
    exact ⟨console, rfl, parallel, silent⟩
  · obtain ⟨said, written⟩ := parallel_say parallel (vocabularyLines console.vocabulary)
    rw [text, ← parallel.vocabulary]
    exact ⟨_, rfl, said, written⟩
  · obtain ⟨said, written⟩ := parallel_say parallel [" ".intercalate Builtin.names]
    rw [text]
    exact ⟨_, rfl, said, written⟩

/-- A source is answered with what its step writes and the verdict on it. -/
theorem Turn.answered_of_notMem {limit : Nat} {turn : Turn} {console : Machine}
    (parallel : turn.machine.Parallel console) (mem : turn.text ∉ noSource) :
    turn.Answered limit console := by
  unfold Answered
  rw [ofLine_of_notMem mem, after_of_notMem mem, reply_of_notMem mem]
  have goesOn : (!turn.leaves limit) =
      ((sourceStep limit turn.text turn.machine).fault? != some .exit) := by
    rw [Bool.eq_iff_iff, Bool.not_eq_true', ← Bool.not_eq_true, leaves_of_notMem mem]
    exact bne_iff_ne.symm
  rw [goesOn]
  generalize turn.text = source
  obtain ⟨agrees, after, written⟩ := sourceStep_parallel limit source parallel
  obtain ⟨said, writtenThen⟩ := parallel_say after (verdict (sourceStep limit source turn.machine))
  have concluded := conclude_eq (sourceStep limit source console)
  rw [verdict_of_agrees agrees, agrees.fault?] at concluded
  rw [written, ByteArray.append_assoc] at writtenThen
  have answers : answer limit console (.run source) =
      conclude (sourceStep limit source console).result := rfl
  exact ⟨_, answers.trans concluded, said, writtenThen⟩

/-- Every turn is answered on a machine that is parallel to that of the session. -/
theorem Turn.answered (limit : Nat) (turn : Turn) {console : Machine}
    (parallel : turn.machine.Parallel console) : turn.Answered limit console := by
  by_cases mem : turn.text ∈ noSource
  · exact answered_of_mem parallel mem
  · exact answered_of_notMem parallel mem

/-! ## A conversation -/

/-- Between two turns the session is at rest. -/
theorem Turn.depth_after (limit : Nat) (turn : Turn) (rest : turn.machine.depth = 0) :
    (turn.after limit).depth = 0 := by
  by_cases mem : turn.text ∈ noSource
  · rw [after_of_mem mem]
    exact rest
  · rw [after_of_notMem mem]
    exact depth_after_sourceStep limit turn.text rest

/-- A blank line or a listing is not the last turn, and leaves the session as it is. -/
theorem Turn.stays_of_mem (limit : Nat) {turn : Turn}
    (text : turn.text ∈ ["", ":vocab", ":words"]) :
    turn.leaves limit = false ∧ turn.after limit = turn.machine := by
  have listed : ["", ":vocab", ":words"] ⊆ noSource := by decide
  have mem : turn.text ∈ noSource := listed text
  rw [after_of_mem mem, leaves, step?_of_mem mem]
  simp only [List.mem_cons, List.not_mem_nil, or_false] at text
  rcases text with text | text | text
  all_goals
    rw [text]
    exact ⟨rfl, rfl⟩

/-- A dispensable turn is not the last one, and the session after it is parallel to what it was
parallel to before. -/
theorem Turn.Dispensable.parallel {limit : Nat} {turn : Turn} {console : Machine}
    (dispensable : turn.Dispensable limit) (rest : turn.machine.depth = 0)
    (parallel : turn.machine.Parallel console) :
    turn.leaves limit = false ∧ (turn.after limit).Parallel console := by
  rcases dispensable with text | ⟨step, asked, idle, stays⟩
  · obtain ⟨stays, after⟩ := stays_of_mem limit text
    rw [after]
    exact ⟨stays, parallel⟩
  · have mem : turn.text ∉ noSource := by
      intro mem
      rw [step?_of_mem mem] at asked
      cases asked
    rw [step?_of_notMem mem, Option.some.injEq] at asked
    subst asked
    rw [after_of_notMem mem, ← Bool.not_eq_true, leaves_of_notMem mem]
    exact ⟨stays, sourceStep_parallel_of_idle rest parallel idle⟩

/-- The console answers a line, and goes on with the next ones unless it leaves. -/
theorem exists_converse_cons (limit : Nat) (turn : Turn) (lines : List String) {console : Machine}
    (parallel : turn.machine.Parallel console) :
    ∃ next, (turn.after limit).Parallel next ∧
      next.sink.written = console.sink.written ++ turn.reply limit ∧
      converse limit (.plain (turn.line :: lines)) console =
        if turn.leaves limit then next else converse limit (.plain lines) next := by
  obtain ⟨next, answers, after, written⟩ := turn.answered limit parallel
  refine ⟨next, after, written, ?_⟩
  rw [Delivery.plain, converse, Machine.append_empty]
  simp only [answers]
  cases turn.leaves limit <;> rfl

/-- On the lines of the turns that are kept, and any more behind a turn after which it leaves, the
console adds the answers to the turns that are kept, and the session is parallel to the one behind
all turns. -/
theorem converse_of_thinned {limit : Nat} {lines unread : List String} {machine console : Machine}
    {kept : List Turn} (rest : machine.depth = 0) (parallel : machine.Parallel console)
    (thinned : Thinned limit (turns limit lines machine) kept)
    (ends : unread = [] ∨ ∃ turn ∈ kept, turn.leaves limit = true) :
    ∃ last, converse limit (.plain (kept.map Turn.line ++ unread)) console = last ∧
      (machineAfterTurns limit (turns limit lines machine) machine).Parallel last ∧
      last.sink.written = console.sink.written ++ concat (kept.map (Turn.reply limit)) := by
  induction lines generalizing machine console kept with
  | nil =>
    cases thinned
    rcases ends with rfl | ⟨_, mem, _⟩
    · exact ⟨console, Machine.append_empty console, parallel, ByteArray.append_empty.symm⟩
    · exact absurd mem List.not_mem_nil
  | cons line lines ih =>
    have rest' := Turn.depth_after limit ⟨line, machine⟩ rest
    rw [turns] at thinned ⊢
    rw [machineAfterTurns_cons]
    cases thinned with
    | @keep _ _ kept thinned =>
      obtain ⟨next, parallel', written, goesOn⟩ :=
        exists_converse_cons limit ⟨line, machine⟩ (kept.map Turn.line ++ unread) parallel
      rw [List.map_cons, List.cons_append, goesOn, List.map_cons, concat_cons]
      cases leaves : Turn.leaves limit ⟨line, machine⟩ with
      | true =>
        rw [leaves, if_pos rfl] at thinned
        cases thinned
        rw [if_pos rfl, if_pos rfl, List.map_nil, concat_nil, ByteArray.append_empty]
        exact ⟨next, rfl, parallel', written⟩
      | false =>
        rw [leaves, if_neg Bool.false_ne_true] at thinned
        rw [if_neg Bool.false_ne_true, if_neg Bool.false_ne_true, ← ByteArray.append_assoc,
          ← written]
        refine ih rest' parallel' thinned (ends.imp_right fun ⟨turn, mem, last⟩ => ?_)
        -- The turn after which the console leaves is not the first one.
        rcases List.mem_cons.1 mem with same | mem
        · rw [same, leaves] at last
          cases last
        · exact ⟨turn, mem, last⟩
    | leaveOut dispensable thinned =>
      obtain ⟨stays, parallel'⟩ := dispensable.parallel rest parallel
      rw [stays, if_neg Bool.false_ne_true] at thinned ⊢
      exact ih rest' parallel' thinned ends

/-- The lines of the turns come first, and more lines only after a turn after which the console
leaves. -/
theorem exists_unread (limit : Nat) (lines : List String) (machine : Machine) :
    ∃ unread, lines = (turns limit lines machine).map Turn.line ++ unread ∧
      (unread = [] ∨ ∃ turn ∈ turns limit lines machine, turn.leaves limit = true) := by
  induction lines generalizing machine with
  | nil => exact ⟨[], rfl, .inl rfl⟩
  | cons line lines ih =>
    rw [turns]
    cases leaves : Turn.leaves limit ⟨line, machine⟩ with
    | true => exact ⟨lines, rfl, .inr ⟨_, List.mem_cons_self, leaves⟩⟩
    | false =>
      obtain ⟨unread, split, ends⟩ := ih (Turn.after limit ⟨line, machine⟩)
      rw [if_neg Bool.false_ne_true]
      refine ⟨unread, congrArg (line :: ·) split, ends.imp_right fun ⟨turn, mem, last⟩ => ?_⟩
      exact ⟨turn, List.mem_cons_of_mem _ mem, last⟩

theorem steps_source (limit : Nat) (source : String) (inputs : List Input) (machine : Machine) :
    steps limit (.source source :: inputs) machine =
      sourceStep limit source machine ::
        steps limit inputs (sourceStep limit source machine).after :=
  rfl

/-- If the later turns ask for the steps of a session, so do they together with the first one. -/
theorem steps_filterMap_cons {limit : Nat} {turn : Turn} {later : List Turn}
    (h : steps limit ((later.filterMap (Turn.step? limit)).map Step.input) (turn.after limit) =
      later.filterMap (Turn.step? limit)) :
    steps limit (((turn :: later).filterMap (Turn.step? limit)).map Step.input) turn.machine =
      (turn :: later).filterMap (Turn.step? limit) := by
  by_cases mem : turn.text ∈ Turn.noSource
  · rw [Turn.after_of_mem mem] at h
    rw [List.filterMap_cons_none (Turn.step?_of_mem mem)]
    exact h
  · rw [Turn.after_of_notMem mem] at h
    rw [List.filterMap_cons_some (Turn.step?_of_notMem mem), List.map_cons]
    rw [show (sourceStep limit turn.text turn.machine).input = .source turn.text from rfl,
      steps_source, h]

/-- The steps that the turns ask for are those of the session that takes their sources. -/
theorem steps_filterMap (limit : Nat) (lines : List String) (machine : Machine) :
    steps limit (((turns limit lines machine).filterMap (Turn.step? limit)).map Step.input)
        machine =
      (turns limit lines machine).filterMap (Turn.step? limit) := by
  induction lines generalizing machine with
  | nil => rfl
  | cons line lines ih =>
    rw [turns]
    apply steps_filterMap_cons
    split
    · rfl
    · exact ih _

/-! ## The command line -/

/-- The entries of a vocabulary, in the order of their names. -/
structure Entries (vocabulary : Vocabulary) (entries : List (String × Definition)) : Prop where
  ascending : entries.Pairwise fun entry next => compare entry.1 next.1 = .lt
  mem_iff : ∀ name definition,
    (name, definition) ∈ entries ↔ vocabulary.get? name = some definition

/-- A vocabulary is shown entry by entry. -/
theorem vocabularyLines_eq (vocabulary : Vocabulary) :
    ∃ entries, Entries vocabulary entries ∧ vocabularyLines vocabulary =
      if entries = [] then ["No user definitions."] else entries.map definitionLine := by
  have empty : vocabulary.size = 0 ↔ vocabulary.toList = [] := by
    rw [← List.length_eq_zero_iff, Vocabulary.toList, Std.ExtTreeMap.length_toList]
    exact Iff.rfl
  have ascending : vocabulary.toList.Pairwise fun entry next => compare entry.1 next.1 = .lt :=
    Std.ExtTreeMap.ordered_keys_toList
  refine ⟨vocabulary.toList, ⟨ascending, fun _ _ => Vocabulary.mem_toList⟩, ?_⟩
  rw [vocabularyLines, if_congr empty rfl rfl]

section Launch

variable {host : Host} {editor : LineEditor} {environment : Environment} {input : ByteArray}
  {disk : Disk}

/-- Without arguments and without a bootstrap file, a command line is a conversation. -/
theorem launch_eq_converse (finishes : host.Finishes environment) (core : environment.core = none)
    {delivery : Delivery} (delivers : editor.deliver environment.terminal input = .ok delivery) :
    launch host editor [] environment input disk =
      { status := 0
        machine := converse environment.levels delivery (Machine.say { disk } banner) } := by
  rw [launch_of_finishes finishes, core, delivers]
  rfl

/-- Reading the lines of the turns that are kept, and any more behind a turn after which it leaves,
the console answers the turns that are kept, and ends with the stack, the vocabulary and the files
of the session behind all turns. -/
theorem launch_of_thinned (finishes : host.Finishes environment) (core : environment.core = none)
    (able : environment.terminal ≠ some "dumb") {lines unread : List String} {kept : List Turn}
    (thinned : Thinned environment.levels (turns environment.levels lines { disk }) kept)
    (ends : unread = [] ∨ ∃ turn ∈ kept, turn.leaves environment.levels = true)
    (delivered : editor.Delivers environment.terminal input (kept.map Turn.line ++ unread)) :
    (launch host editor [] environment input disk).Transcribes environment.levels kept ∧
      (machineAfterTurns environment.levels (turns environment.levels lines { disk })
        { disk }).Parallel (launch host editor [] environment input disk).machine := by
  have opened : Machine.Parallel { disk } (Machine.say { disk } banner) :=
    (parallel_say (.refl ⟨rfl, rfl⟩) [banner]).1
  obtain ⟨last, converses, parallel, written⟩ := converse_of_thinned rfl opened thinned ends
  rw [launch_eq_converse finishes core (delivered.deliver_eq able), converses]
  refine ⟨⟨rfl, rfl, written.trans ?_⟩, parallel⟩
  exact congrArg (· ++ _) (parallel_say (.refl ⟨rfl, rfl⟩) [banner]).2

end Launch

/-- Without arguments and without a bootstrap file, in a terminal that is not dumb, the console
writes the banner and the answers to the turns, one after the other, and its exit status is 0. The
steps that the turns ask for are those of one session that takes their sources, and a vocabulary is
shown entry by entry in the order of the names. Leaving out blank lines, listings, and sources that
fail without asking to leave and without changing a file leaves out their answers and nothing else,
whatever lines there are behind the last turn. -/
theorem launch_transcribes (host : Host) (editor : LineEditor) (environment : Environment)
    (disk : Disk) (input : ByteArray) (lines : List String) (finishes : host.Finishes environment)
    (core : environment.core = none) (able : environment.terminal ≠ some "dumb")
    (delivered : editor.Delivers environment.terminal input lines) :
    (launch host editor [] environment input disk).Transcribes environment.levels
        (turns environment.levels lines { disk }) ∧
      steps environment.levels
          (((turns environment.levels lines { disk }).filterMap
            (Turn.step? environment.levels)).map Step.input) { disk } =
        (turns environment.levels lines { disk }).filterMap (Turn.step? environment.levels) ∧
      (∀ turn ∈ turns environment.levels lines { disk }, turn.text = ":vocab" →
        ∃ entries, Entries turn.machine.vocabulary entries ∧ turn.reply environment.levels =
          joinLines (if entries = [] then ["No user definitions."]
            else entries.map definitionLine)) ∧
      ∀ kept unread input',
        Thinned environment.levels (turns environment.levels lines { disk }) kept →
        (unread = [] ∨ ∃ turn ∈ kept, turn.leaves environment.levels = true) →
        editor.Delivers environment.terminal input' (kept.map Turn.line ++ unread) →
        (launch host editor [] environment input' disk).Transcribes environment.levels kept ∧
          (launch host editor [] environment input disk).machine.Parallel
            (launch host editor [] environment input' disk).machine := by
  obtain ⟨unread, split, ends⟩ := exists_unread environment.levels lines { disk }
  rw [split] at delivered
  obtain ⟨transcribes, parallel⟩ := launch_of_thinned finishes core able (.refl _ _) ends delivered
  refine ⟨transcribes, steps_filterMap _ _ _, fun turn _ text => ?_, ?_⟩
  · obtain ⟨entries, ordered, shown⟩ := vocabularyLines_eq turn.machine.vocabulary
    refine ⟨entries, ordered, ?_⟩
    have mem : turn.text ∈ Turn.noSource := by
      rw [text]
      decide
    rw [Turn.reply, Turn.step?_of_mem mem, ← shown]
    exact if_pos text
  · intro kept unread' input' thinned ends' delivered'
    obtain ⟨transcribes', parallel'⟩ :=
      launch_of_thinned finishes core able thinned ends' delivered'
    exact ⟨transcribes', parallel.of_common parallel'⟩

/-- A conversation with a source that names nothing, and the same one without it. -/
theorem launch_transcribes_unknown :
    let all := ["oops", "true", ":quit", "false"]
    let fewer := ["true", ":quit", "false"]
    let editor : LineEditor :=
      { deliver := fun _ input =>
          .ok (.plain (if input.data = (joinLines all).data then all else fewer)) }
    let host : Host := { thread := fun _ => .finished }
    let environment : Environment := { terminal := some "xterm" }
    (launch host editor [] environment (joinLines all) default).machine.sink.written =
        joinLines ["Lion 0.1.0:", "Error: unrecognised word oops", "[true]"] ∧
      (launch host editor [] environment (joinLines fewer) default).machine.sink.written =
        joinLines ["Lion 0.1.0:", "[true]"] := by
  intro all fewer editor host environment
  have delivered : editor.Delivers (some "xterm") (joinLines all) all := by
    refine ⟨_, rfl, ?_⟩
    rw [if_pos rfl]
    exact Delivery.orderly_plain _ all
  have delivered' : editor.Delivers (some "xterm") (joinLines fewer) fewer := by
    refine ⟨_, rfl, ?_⟩
    rw [if_neg (by decide +kernel)]
    exact Delivery.orderly_plain _ fewer
  obtain ⟨transcribes, -, -, thinning⟩ :=
    launch_transcribes host editor environment default (joinLines all) all rfl rfl (by decide)
      delivered
  let behind := turns 128 fewer (Turn.after 128 ⟨"oops", {}⟩)
  have first : turns 128 all {} = ⟨"oops", {}⟩ :: behind := by
    rw [turns, if_neg (by decide +kernel)]
  have mem : Turn.text ⟨"oops", {}⟩ ∉ Turn.noSource := by decide +kernel
  have text : Turn.text ⟨"oops", {}⟩ = "oops" := by decide +kernel
  have dispensable : Turn.Dispensable 128 ⟨"oops", {}⟩ := by
    refine .inr ⟨_, Turn.step?_of_notMem mem, ?_⟩
    rw [text]
    exact ⟨⟨by decide +kernel, by rfl⟩, by decide +kernel⟩
  have thinned : Thinned 128 (turns 128 all {}) behind := by
    rw [first]
    exact .leaveOut dispensable (.refl 128 _)
  constructor
  · rw [transcribes.written]
    decide +kernel
  · have read : fewer = behind.map Turn.line ++ ["false"] := by decide +kernel
    have shorter := thinning _ ["false"] (joinLines fewer) thinned (.inr (by decide +kernel))
      (read ▸ delivered')
    refine shorter.1.written.trans ?_
    decide +kernel

end Console

end Concatenative
