import Mathlib.Data.List.Forall2
import Concatenative.Proofs.Evolution

/-!
# Runs as derivations

What a run does, said by rules (`Runs`): a quote takes one level if there is one, words are done in a
row, a name stands for its builtin or else for its definition, and the three builtins that run quotes
do so once they have taken their operands. No rule counts the levels that are left; each only looks at
the level of the machine. That there is nevertheless a derivation for everything that can be run, and
only one, is the statement that every program ends (`existsUnique_runs`).

The evaluator recurses over the levels left. It meets the same equation as the rules (`evaluate_eq`),
because whatever runs on a level comes back to it.
-/

namespace Concatenative

open Exec

/-! ## The rules -/

/-- How a run ends: on a machine, and with a fault if it failed. -/
abbrev Ending := EStateM.Result Fault Machine Unit

/-- The same end on another machine. -/
def Exec.mapMachine {α : Type} (change : Machine → Machine) :
    EStateM.Result Fault Machine α → EStateM.Result Fault Machine α
  | .ok value machine => .ok value (change machine)
  | .error fault machine => .error fault (change machine)

/-- The machine one level further up. -/
def Machine.leaveLevel (machine : Machine) : Machine :=
  { machine with depth := machine.depth - 1 }

/-- The machine with the vocabulary of `before`. -/
def Machine.withVocabularyOf (before machine : Machine) : Machine :=
  { machine with vocabulary := before.vocabulary }

/-- What can be run. -/
inductive Task
  /-- A quote, on a level of its own. -/
  | quote (words : Quote)
  /-- Words in a row, on the level where they stand. -/
  | row (words : List Word)
  | word (word : Word)
  | builtin (builtin : Builtin)

/-- Whether a builtin runs quotes that it takes. -/
def Builtin.runsQuotes : Builtin → Bool
  | dip | eval | ifte => true
  | _ => false

/-- Whether operands of the given kinds, the one on top first, cannot be taken from a stack. The
operand that is refused, if there is one, stays on top of what is left. -/
inductive Refuses : List (List Kind) → List Word → Fault → List Word → Prop
  | nothing (accepted : List Kind) (more : List (List Kind)) :
    Refuses (accepted :: more) [] (.mismatch accepted none) []
  | other {accepted : List Kind} {word : Word} (kind : word.kind ∉ accepted)
    (more : List (List Kind)) (rest : List Word) :
    Refuses (accepted :: more) (word :: rest) (.mismatch accepted (some word.kind)) (word :: rest)
  | later {accepted : List Kind} {word : Word} (kind : word.kind ∈ accepted)
    {more : List (List Kind)} {rest left : List Word} {fault : Fault}
    (refused : Refuses more rest fault left) :
    Refuses (accepted :: more) (word :: rest) fault left

/-- The rules for running a task on a machine: the builtins that are called on the way, in the order of
their calls, and the end. A builtin that runs no quotes does what it does in one step. -/
inductive Runs (limit : Nat) : Task → Machine → List Builtin → Ending → Prop
  | tooDeep {words : Quote} {machine : Machine} (bottom : limit ≤ machine.depth) :
    Runs limit (.quote words) machine [] (.error (.tooDeep limit) machine)
  | deeper {words : Quote} {machine : Machine} {calls : List Builtin} {ending : Ending}
    (above : machine.depth < limit)
    (inside : Runs limit (.row words) { machine with depth := machine.depth + 1 } calls ending) :
    Runs limit (.quote words) machine calls (mapMachine Machine.leaveLevel ending)
  | nil {machine : Machine} : Runs limit (.row []) machine [] (.ok () machine)
  | cons {word : Word} {words : List Word} {machine middle : Machine} {calls more : List Builtin}
    {ending : Ending} (first : Runs limit (.word word) machine calls (.ok () middle))
    (rest : Runs limit (.row words) middle more ending) :
    Runs limit (.row (word :: words)) machine (calls ++ more) ending
  | stop {word : Word} {words : List Word} {machine after : Machine} {calls : List Builtin}
    {fault : Fault} (first : Runs limit (.word word) machine calls (.error fault after)) :
    Runs limit (.row (word :: words)) machine calls (.error fault after)
  | data {word : Word} {machine : Machine} (plain : ∀ name, word ≠ .symbol name) :
    Runs limit (.word word) machine [] (.ok () { machine with stack := word :: machine.stack })
  | named {name : String} {builtin : Builtin} {machine : Machine} {calls : List Builtin}
    {ending : Ending} (meaning : Builtin.ofName? name = some builtin)
    (call : Runs limit (.builtin builtin) machine calls ending) :
    Runs limit (.word (.symbol name)) machine calls ending
  | unknown {name : String} {machine : Machine} (free : Builtin.ofName? name = none)
    (missing : machine.vocabulary.get? name = none) :
    Runs limit (.word (.symbol name)) machine [] (.error (.unknown name) machine)
  | isolated {name : String} {body : Quote} {machine : Machine} {calls : List Builtin}
    {ending : Ending} (free : Builtin.ofName? name = none)
    (found : machine.vocabulary.get? name = some ⟨.isolated, body⟩)
    (call : Runs limit (.quote body)
      { machine with log := .called name .isolated machine.depth :: machine.log } calls ending) :
    Runs limit (.word (.symbol name)) machine calls (mapMachine machine.withVocabularyOf ending)
  | shared {name : String} {body : Quote} {machine : Machine} {calls : List Builtin}
    {ending : Ending} (free : Builtin.ofName? name = none)
    (found : machine.vocabulary.get? name = some ⟨.shared, body⟩)
    (call : Runs limit (.quote body)
      { machine with log := .called name .shared machine.depth :: machine.log } calls ending) :
    Runs limit (.word (.symbol name)) machine calls ending
  | primitive {builtin : Builtin} (simple : builtin.runsQuotes = false) (machine : Machine)
    (run : Quote → Exec Unit) :
    Runs limit (.builtin builtin) machine [builtin] (builtin.perform run machine)
  | eval {words : Quote} {rest : List Word} {machine : Machine} {calls : List Builtin}
    {ending : Ending} (stack : machine.stack = .quote words :: rest)
    (inside : Runs limit (.quote words) { machine with stack := rest } calls ending) :
    Runs limit (.builtin .eval) machine (.eval :: calls) ending
  | evalRefused {left : List Word} {machine : Machine} {fault : Fault}
    (refused : Refuses [[.quote]] machine.stack fault left) :
    Runs limit (.builtin .eval) machine [.eval] (.error fault { machine with stack := left })
  | dip {words : Quote} {kept : Word} {rest : List Word} {machine after : Machine}
    {calls : List Builtin} (stack : machine.stack = .quote words :: kept :: rest)
    (inside : Runs limit (.quote words) { machine with stack := rest } calls (.ok () after)) :
    Runs limit (.builtin .dip) machine (.dip :: calls)
      (.ok () { after with stack := kept :: after.stack })
  | dipStop {words : Quote} {kept : Word} {rest : List Word} {machine after : Machine}
    {calls : List Builtin} {fault : Fault} (stack : machine.stack = .quote words :: kept :: rest)
    (inside : Runs limit (.quote words) { machine with stack := rest } calls
      (.error fault after)) :
    Runs limit (.builtin .dip) machine (.dip :: calls) (.error fault after)
  | dipRefused {left : List Word} {machine : Machine} {fault : Fault}
    (refused : Refuses [[.quote], Kind.all] machine.stack fault left) :
    Runs limit (.builtin .dip) machine [.dip] (.error fault { machine with stack := left })
  | ifte {negative positive : Quote} {condition : Bool} {rest : List Word} {machine : Machine}
    {calls : List Builtin} {ending : Ending}
    (stack : machine.stack = .quote negative :: .quote positive :: .truth condition :: rest)
    (inside : Runs limit (.quote (if condition then positive else negative))
      { machine with stack := rest } calls ending) :
    Runs limit (.builtin .ifte) machine (.ifte :: calls)
      (mapMachine machine.withVocabularyOf ending)
  | ifteRefused {left : List Word} {machine : Machine} {fault : Fault}
    (refused : Refuses [[.quote], [.quote], [.truth]] machine.stack fault left) :
    Runs limit (.builtin .ifte) machine [.ifte] (.error fault { machine with stack := left })

/-! ## Actions on one level -/

/-- Whether two actions do the same on machines on the given level. -/
def Exec.SameAt (level : Nat) {α : Type} (action other : Exec α) : Prop :=
  ∀ machine : Machine, machine.depth = level → action machine = other machine

namespace Exec.SameAt

variable {level : Nat} {α β : Type}

theorem refl (action : Exec α) : SameAt level action action :=
  fun _ _ => rfl

/-- After the first action the machine is on the same level as before. -/
theorem bind {action other : Exec α} {next next' : α → Exec β} [Evolving action]
    (first : SameAt level action other) (rest : ∀ value, SameAt level (next value) (next' value)) :
    SameAt level (action >>= next) (other >>= next') := by
  intro machine here
  have later := (evolves action machine).depth
  show EStateM.bind action next machine = EStateM.bind other next' machine
  unfold EStateM.bind
  rw [← first machine here]
  cases result : action machine with
  | ok value after =>
    rw [result] at later
    exact rest value after (later.trans here)
  | error fault after => rfl

theorem isolated {action other : Exec α} (inside : SameAt level action other) :
    SameAt level (isolated action) (isolated other) := by
  intro machine here
  unfold Exec.isolated
  rw [inside machine here]

variable {run run' : Quote → Exec Unit} [∀ words, Evolving (run words)]
  (runs : ∀ words, SameAt level (run words) (run' words))

include runs

theorem builtin (builtin : Builtin) :
    SameAt level (builtin.perform run) (builtin.perform run') := by
  cases builtin with
  | dip =>
    refine (refl takeQuote).bind fun words => ?_
    refine (refl takeAny).bind fun kept => ?_
    exact (runs words).bind fun _ => refl (push kept)
  | eval => exact (refl takeQuote).bind runs
  | ifte =>
    refine (refl takeQuote).bind fun negative => ?_
    refine (refl takeQuote).bind fun positive => ?_
    exact (refl takeTruth).bind fun condition => (runs _).isolated
  | _ => exact refl _

omit [∀ words, Evolving (run words)] in
theorem definition (definition : Definition) :
    SameAt level (definition.perform run) (definition.perform run') := by
  unfold Definition.perform
  cases definition.scope with
  | isolated => exact (runs definition.body).isolated
  | shared => exact runs definition.body

theorem word (word : Word) : SameAt level (word.perform run) (word.perform run') := by
  cases word with
  | symbol name =>
    show SameAt level (call run name) (call run' name)
    unfold call
    cases Builtin.ofName? name with
    | some builtin => exact SameAt.builtin runs builtin
    | none =>
      refine (refl get).bind fun machine => ?_
      cases machine.vocabulary.get? name with
      | none => exact refl _
      | some meaning => exact (refl _).bind fun _ => definition runs meaning
  | _ => exact refl _

theorem row (words : List Word) :
    SameAt level (Quote.perform run words) (Quote.perform run' words) := by
  induction words with
  | nil => exact refl _
  | cons head words ih => exact (word runs head).bind fun _ => ih

end Exec.SameAt

/-- The evaluator meets the equation by which quotes run: the level is checked, and the words are run
one level deeper. -/
theorem evaluate_eq (limit : Nat) (words : Quote) (machine : Machine) :
    evaluate limit words machine =
      if limit ≤ machine.depth then .error (.tooDeep limit) machine
      else deeper (Quote.perform (evaluate limit) words) machine := by
  unfold evaluate
  split
  · next bottom =>
    rw [Nat.sub_eq_zero_of_le bottom]
    rfl
  · next above =>
    obtain ⟨levels, count⟩ : ∃ levels, limit - machine.depth = levels + 1 :=
      ⟨limit - machine.depth - 1, by omega⟩
    -- One level further down so many levels are left as the evaluator has counted.
    have inner : ∀ inside, SameAt (machine.depth + 1) (evaluateWithin limit levels inside)
        (evaluate limit inside) := by
      intro inside below here
      have left : limit - below.depth = levels := by omega
      rw [evaluate, left]
    have rows := SameAt.row inner words { machine with depth := machine.depth + 1 } rfl
    rw [count, evaluateWithin]
    unfold deeper
    rw [rows]
    rfl

/-! ## Operands -/

/-- Whether each operand has one of the kinds that are accepted in its place. -/
abbrev Fits (operands : List Word) (kinds : List (List Kind)) : Prop :=
  List.Forall₂ (fun word accepted => word.kind ∈ accepted) operands kinds

theorem fits_eval (words : Quote) : Fits [.quote words] [[.quote]] :=
  .cons (List.mem_singleton_self Kind.quote) .nil

theorem fits_dip (words : Quote) (kept : Word) : Fits [.quote words, kept] [[.quote], Kind.all] :=
  .cons (List.mem_singleton_self Kind.quote) (.cons (Kind.mem_all kept.kind) .nil)

theorem fits_ifte (negative positive : Quote) (condition : Bool) :
    Fits [.quote negative, .quote positive, .truth condition] [[.quote], [.quote], [.truth]] :=
  .cons (List.mem_singleton_self Kind.quote)
    (.cons (List.mem_singleton_self Kind.quote) (.cons (List.mem_singleton_self Kind.truth) .nil))

namespace Refuses

variable {kinds : List (List Kind)} {stack left : List Word} {fault : Fault}

/-- Operands can be taken from a stack, or one of them is refused. -/
theorem taken_or_refused : (kinds : List (List Kind)) → (stack : List Word) →
    (∃ operands rest, stack = operands ++ rest ∧ Fits operands kinds) ∨
    ∃ fault left, Refuses kinds stack fault left
  | [], stack => .inl ⟨[], stack, rfl, .nil⟩
  | accepted :: more, [] => .inr ⟨_, _, .nothing accepted more⟩
  | accepted :: more, word :: stack => by
    by_cases kind : word.kind ∈ accepted
    · rcases taken_or_refused more stack with ⟨operands, rest, rfl, fit⟩ | ⟨fault, left, refused⟩
      · exact .inl ⟨word :: operands, rest, rfl, .cons kind fit⟩
      · exact .inr ⟨fault, left, .later kind refused⟩
    · exact .inr ⟨_, _, .other kind more stack⟩

/-- Operands that can be taken are not refused. -/
theorem not_taken {operands rest : List Word} (refused : Refuses kinds stack fault left)
    (fit : Fits operands kinds) : stack ≠ operands ++ rest := by
  induction refused generalizing operands with
  | nothing accepted more =>
    cases fit
    exact (List.cons_ne_nil _ _).symm
  | other kind more rest =>
    cases fit with
    | cons accepted _ =>
      rintro same
      cases same
      exact kind accepted
  | later kind _ ih =>
    cases fit with
    | cons _ others =>
      intro same
      exact ih others (List.cons.inj same).2

/-- What comes behind an operand is reached if it is not the operand that is refused. -/
theorem takeAs_bind {α β : Type} {accepted : List Kind} {more : List (List Kind)}
    {machine : Machine} {view : Word → Option α} {next : α → Exec β}
    (refused : Refuses (accepted :: more) machine.stack fault left)
    (fits : ∀ word, word.kind ∈ accepted ↔ (view word).isSome = true)
    (later : ∀ value rest, Refuses more rest fault left →
      next value { machine with stack := rest } = .error fault { machine with stack := left }) :
    (takeAs accepted view >>= next) machine = .error fault { machine with stack := left } := by
  obtain ⟨stack, _, _, _, _, _⟩ := machine
  show EStateM.bind _ _ _ = _
  unfold EStateM.bind takeAs
  cases refused with
  | nothing => rfl
  | @other _ word kind =>
    rw [fits, Option.isSome_iff_ne_none, not_not] at kind
    simp only [kind]
  | @later _ word kind _ rest _ _ refused =>
    rw [fits] at kind
    obtain ⟨value, seen⟩ := Option.isSome_iff_exists.1 kind
    simp only [seen]
    exact later value rest refused

end Refuses

theorem Word.kind_mem_quote_iff (word : Word) :
    word.kind ∈ [Kind.quote] ↔ word.quote?.isSome = true := by
  cases word <;> simp [kind, quote?]

theorem Word.kind_mem_truth_iff (word : Word) :
    word.kind ∈ [Kind.truth] ↔ word.truth?.isSome = true := by
  cases word <;> simp [kind, truth?]

theorem Word.eq_quote_of_kind {word : Word} (kind : word.kind ∈ [Kind.quote]) :
    ∃ words, word = .quote words := by
  cases word with
  | quote words => exact ⟨words, rfl⟩
  | _ => simp [Word.kind] at kind

theorem Word.eq_truth_of_kind {word : Word} (kind : word.kind ∈ [Kind.truth]) :
    ∃ value, word = .truth value := by
  cases word with
  | truth value => exact ⟨value, rfl⟩
  | _ => simp [Word.kind] at kind

/-! What operands that fit are. -/

section Operands

variable {operands : List Word}

theorem eq_of_fits_eval (fit : Fits operands [[.quote]]) : ∃ words, operands = [.quote words] := by
  cases fit with
  | cons kind fit =>
    cases fit
    obtain ⟨words, rfl⟩ := Word.eq_quote_of_kind kind
    exact ⟨words, rfl⟩

theorem eq_of_fits_dip (fit : Fits operands [[.quote], Kind.all]) :
    ∃ words kept, operands = [.quote words, kept] := by
  cases fit with
  | cons kind fit =>
    cases fit with
    | @cons kept _ _ _ _ fit =>
      cases fit
      obtain ⟨words, rfl⟩ := Word.eq_quote_of_kind kind
      exact ⟨words, kept, rfl⟩

theorem eq_of_fits_ifte (fit : Fits operands [[.quote], [.quote], [.truth]]) :
    ∃ negative positive condition,
      operands = [.quote negative, .quote positive, .truth condition] := by
  cases fit with
  | cons kind fit =>
    cases fit with
    | cons kind' fit =>
      cases fit with
      | cons kind'' fit =>
        cases fit
        obtain ⟨negative, rfl⟩ := Word.eq_quote_of_kind kind
        obtain ⟨positive, rfl⟩ := Word.eq_quote_of_kind kind'
        obtain ⟨condition, rfl⟩ := Word.eq_truth_of_kind kind''
        exact ⟨negative, positive, condition, rfl⟩

end Operands

/-! Taking the operands of a builtin, whatever is then done with them. -/

section Taking

variable {α : Type} {machine : Machine} {rest left : List Word} {fault : Fault}

theorem takeQuote_bind_of_stack {words : Quote} {next : Quote → Exec α}
    (stack : machine.stack = .quote words :: rest) :
    (takeQuote >>= next) machine = next words { machine with stack := rest } := by
  cases machine
  cases stack
  rfl

theorem takeTruth_bind_of_stack {value : Bool} {next : Bool → Exec α}
    (stack : machine.stack = .truth value :: rest) :
    (takeTruth >>= next) machine = next value { machine with stack := rest } := by
  cases machine
  cases stack
  rfl

theorem takeText_bind_of_stack {value : String} {next : String → Exec α}
    (stack : machine.stack = .text value :: rest) :
    (takeText >>= next) machine = next value { machine with stack := rest } := by
  cases machine
  cases stack
  rfl

theorem takeAny_bind_of_stack {word : Word} {next : Word → Exec α}
    (stack : machine.stack = word :: rest) :
    (takeAny >>= next) machine = next word { machine with stack := rest } := by
  cases machine
  cases stack
  show EStateM.bind takeAny _ _ = _
  unfold EStateM.bind takeAny take takeAs
  simp only [if_pos (Kind.mem_all word.kind)]

namespace Refuses

theorem eval_bind {next : Quote → Exec α} (refused : Refuses [[.quote]] machine.stack fault left) :
    (takeQuote >>= next) machine = .error fault { machine with stack := left } :=
  refused.takeAs_bind Word.kind_mem_quote_iff nofun

theorem dip_bind {next : Quote → Word → Exec α}
    (refused : Refuses [[.quote], Kind.all] machine.stack fault left) :
    (takeQuote >>= fun words => takeAny >>= next words) machine =
      .error fault { machine with stack := left } := by
  refine refused.takeAs_bind Word.kind_mem_quote_iff fun words rest refused => ?_
  refine refused.takeAs_bind (fun word => ?_) nofun
  simp [Kind.mem_all word.kind]

theorem ifte_bind {next : Quote → Quote → Bool → Exec α}
    (refused : Refuses [[.quote], [.quote], [.truth]] machine.stack fault left) :
    (takeQuote >>= fun negative => takeQuote >>= fun positive =>
      takeTruth >>= next negative positive) machine =
        .error fault { machine with stack := left } := by
  refine refused.takeAs_bind Word.kind_mem_quote_iff fun negative rest refused => ?_
  refine refused.takeAs_bind Word.kind_mem_quote_iff fun positive rest refused => ?_
  exact refused.takeAs_bind Word.kind_mem_truth_iff nofun

end Refuses

end Taking

namespace Builtin

variable {run : Quote → Exec Unit} {machine : Machine} {left : List Word} {fault : Fault}
  {words negative positive : Quote} {kept : Word} {condition : Bool} {rest : List Word}

/-- What a builtin does that runs no quotes does not depend on how quotes are run. -/
theorem perform_of_simple {builtin : Builtin} (simple : builtin.runsQuotes = false)
    (run run' : Quote → Exec Unit) : builtin.perform run = builtin.perform run' := by
  cases builtin with
  | dip | eval | ifte => cases simple
  | _ => rfl

theorem performEval_of_stack (stack : machine.stack = .quote words :: rest) :
    performEval run machine = run words { machine with stack := rest } :=
  takeQuote_bind_of_stack stack

theorem performEval_of_refuses (refused : Refuses [[.quote]] machine.stack fault left) :
    performEval run machine = .error fault { machine with stack := left } :=
  refused.eval_bind

theorem performDip_of_stack (stack : machine.stack = .quote words :: kept :: rest) :
    performDip run machine = (run words >>= fun _ => push kept) { machine with stack := rest } :=
  (takeQuote_bind_of_stack stack).trans (takeAny_bind_of_stack rfl)

theorem performDip_of_refuses (refused : Refuses [[.quote], Kind.all] machine.stack fault left) :
    performDip run machine = .error fault { machine with stack := left } :=
  refused.dip_bind

theorem performIfte_of_stack
    (stack : machine.stack = .quote negative :: .quote positive :: .truth condition :: rest) :
    performIfte run machine =
      isolated (run (if condition then positive else negative)) { machine with stack := rest } := by
  refine (takeQuote_bind_of_stack stack).trans ?_
  refine (takeQuote_bind_of_stack rfl).trans ?_
  exact takeTruth_bind_of_stack rfl

theorem performIfte_of_refuses
    (refused : Refuses [[.quote], [.quote], [.truth]] machine.stack fault left) :
    performIfte run machine = .error fault { machine with stack := left } :=
  refused.ifte_bind

end Builtin

/-! ## Derivations and the evaluator -/

/-- What the evaluator makes of a task. -/
def Task.perform (limit : Nat) : Task → Exec Unit
  | quote words => evaluate limit words
  | row words => Quote.perform (evaluate limit) words
  | word single => single.perform (evaluate limit)
  | builtin called => called.perform (evaluate limit)

theorem machineAfter_mapMachine {α : Type} (change : Machine → Machine)
    (ending : EStateM.Result Fault Machine α) :
    machineAfter (mapMachine change ending) = change (machineAfter ending) := by
  cases ending <;> rfl

/-- Runs that end the same way still do when the machines they leave are changed in a way that keeps
them related. -/
theorem Exec.SameEnd.mapMachine {α : Type} {machines machines' : Machine → Machine → Prop}
    {result result' : EStateM.Result Fault Machine α} (h : SameEnd machines result result')
    {change change' : Machine → Machine}
    (changed : ∀ {left right}, machines left right → machines' (change left) (change' right)) :
    SameEnd machines' (mapMachine change result) (mapMachine change' result') := by
  cases h with
  | ok h => exact .ok (changed h)
  | error h => exact .error (changed h)

theorem isolated_eq_mapMachine {α : Type} (action : Exec α) (machine : Machine) :
    isolated action machine = mapMachine machine.withVocabularyOf (action machine) := by
  unfold isolated
  cases action machine <;> rfl

theorem deeper_eq_mapMachine {α : Type} (action : Exec α) (machine : Machine) :
    deeper action machine =
      mapMachine Machine.leaveLevel (action { machine with depth := machine.depth + 1 }) := by
  unfold deeper
  cases action { machine with depth := machine.depth + 1 } <;> rfl

section Sequence

variable {α β : Type} {action : Exec α} {next : α → Exec β} {machine after : Machine}

theorem bind_of_ok {value : α} (first : action machine = .ok value after) :
    (action >>= next) machine = next value after := by
  show EStateM.bind action next machine = _
  rw [EStateM.bind, first]

theorem bind_of_error {fault : Fault} (first : action machine = .error fault after) :
    (action >>= next) machine = .error fault after := by
  show EStateM.bind action next machine = _
  rw [EStateM.bind, first]

theorem get_bind {next : Machine → Exec β} :
    ((get : Exec Machine) >>= next) machine = next machine machine := rfl

end Sequence

section Calls

variable {run : Quote → Exec Unit} {name : String} {body : Quote} {machine : Machine}

theorem call_of_named {builtin : Builtin} (meaning : Builtin.ofName? name = some builtin) :
    call run name = builtin.perform run := by
  unfold call
  rw [meaning]

theorem call_of_unknown (free : Builtin.ofName? name = none)
    (missing : machine.vocabulary.get? name = none) :
    call run name machine = .error (.unknown name) machine := by
  unfold call
  rw [free]
  refine get_bind.trans ?_
  rw [missing]
  rfl

theorem call_of_found {definition : Definition} (free : Builtin.ofName? name = none)
    (found : machine.vocabulary.get? name = some definition) :
    call run name machine = definition.perform run
      { machine with log := .called name definition.scope machine.depth :: machine.log } := by
  unfold call
  rw [free]
  refine get_bind.trans ?_
  rw [found]
  rfl

end Calls

namespace Runs

variable {limit : Nat} {task : Task} {machine : Machine} {calls calls' : List Builtin}
  {ending ending' : Ending}

/-- A derivation has the end that the evaluator computes. -/
theorem perform_eq (runs : Runs limit task machine calls ending) :
    task.perform limit machine = ending := by
  induction runs with
  | tooDeep bottom => exact (evaluate_eq limit _ _).trans (if_pos bottom)
  | deeper above _ ih =>
    refine (evaluate_eq limit _ _).trans ((if_neg (Nat.not_le.2 above)).trans ?_)
    exact (deeper_eq_mapMachine _ _).trans (congrArg _ ih)
  | nil => rfl
  | cons _ _ ih ih' => exact (bind_of_ok ih).trans ih'
  | stop _ ih => exact bind_of_error ih
  | @data word _ plain =>
    cases word with
    | symbol name => exact absurd rfl (plain name)
    | _ => rfl
  | named meaning _ ih => exact (congrFun (call_of_named meaning) _).trans ih
  | unknown free missing => exact call_of_unknown free missing
  | isolated free found _ ih =>
    refine (call_of_found free found).trans ?_
    exact (isolated_eq_mapMachine _ _).trans (congrArg _ ih)
  | shared free found _ ih => exact (call_of_found free found).trans ih
  | primitive simple machine run =>
    exact congrFun (Builtin.perform_of_simple simple (evaluate limit) run) machine
  | eval stack _ ih => exact (Builtin.performEval_of_stack stack).trans ih
  | evalRefused refused => exact Builtin.performEval_of_refuses refused
  | dip stack _ ih => exact (Builtin.performDip_of_stack stack).trans (bind_of_ok ih)
  | dipStop stack _ ih => exact (Builtin.performDip_of_stack stack).trans (bind_of_error ih)
  | dipRefused refused => exact Builtin.performDip_of_refuses refused
  | ifte stack _ ih =>
    refine (Builtin.performIfte_of_stack stack).trans ?_
    exact (isolated_eq_mapMachine _ _).trans (congrArg _ ih)
  | ifteRefused refused => exact Builtin.performIfte_of_refuses refused

/-- Two derivations for the same task on the same machine have the same end. -/
theorem ending_eq (runs : Runs limit task machine calls ending)
    (runs' : Runs limit task machine calls' ending') : ending = ending' :=
  runs.perform_eq.symm.trans runs'.perform_eq

/-- Two derivations for the same task on the same machine call the same builtins. -/
theorem calls_eq (runs : Runs limit task machine calls ending)
    (runs' : Runs limit task machine calls' ending') : calls = calls' := by
  induction runs generalizing calls' ending' with
  | tooDeep bottom =>
    cases runs' with
    | tooDeep => rfl
    | deeper above => exact absurd bottom (Nat.not_le.2 above)
  | deeper above _ ih =>
    cases runs' with
    | tooDeep bottom => exact absurd bottom (Nat.not_le.2 above)
    | deeper _ inside => exact ih inside
  | nil =>
    cases runs' with
    | nil => rfl
  | cons first _ ih ih' =>
    cases runs' with
    | cons first' rest' =>
      cases first.ending_eq first'
      rw [ih first', ih' rest']
    | stop first' => cases first.ending_eq first'
  | stop first ih =>
    cases runs' with
    | cons first' => cases first.ending_eq first'
    | stop first' => exact ih first'
  | data plain =>
    cases runs' with
    | data => rfl
    | _ => exact absurd rfl (plain _)
  | named meaning _ ih =>
    cases runs' with
    | data plain => exact absurd rfl (plain _)
    | named meaning' call =>
      cases meaning.symm.trans meaning'
      exact ih call
    | unknown free | isolated free | shared free => cases meaning.symm.trans free
  | unknown free missing =>
    cases runs' with
    | data plain => exact absurd rfl (plain _)
    | named meaning => cases meaning.symm.trans free
    | unknown => rfl
    | isolated _ found | shared _ found => cases missing.symm.trans found
  | isolated free found _ ih =>
    cases runs' with
    | data plain => exact absurd rfl (plain _)
    | named meaning => cases meaning.symm.trans free
    | unknown _ missing => cases missing.symm.trans found
    | isolated _ found' call =>
      cases found.symm.trans found'
      exact ih call
    | shared _ found' => cases found.symm.trans found'
  | shared free found _ ih =>
    cases runs' with
    | data plain => exact absurd rfl (plain _)
    | named meaning => cases meaning.symm.trans free
    | unknown _ missing => cases missing.symm.trans found
    | isolated _ found' => cases found.symm.trans found'
    | shared _ found' call =>
      cases found.symm.trans found'
      exact ih call
  | primitive simple =>
    cases runs' with
    | primitive => rfl
    | _ => cases simple
  | eval stack _ ih =>
    cases runs' with
    | primitive simple => cases simple
    | eval stack' inside =>
      cases stack.symm.trans stack'
      rw [ih inside]
    | evalRefused refused => exact absurd stack (refused.not_taken (fits_eval _))
  | evalRefused refused =>
    cases runs' with
    | primitive simple => cases simple
    | eval stack => exact absurd stack (refused.not_taken (fits_eval _))
    | evalRefused => rfl
  | dip stack _ ih | dipStop stack _ ih =>
    cases runs' with
    | primitive simple => cases simple
    | dip stack' inside | dipStop stack' inside =>
      cases stack.symm.trans stack'
      rw [ih inside]
    | dipRefused refused => exact absurd stack (refused.not_taken (fits_dip _ _))
  | dipRefused refused =>
    cases runs' with
    | primitive simple => cases simple
    | dip stack | dipStop stack => exact absurd stack (refused.not_taken (fits_dip _ _))
    | dipRefused => rfl
  | ifte stack _ ih =>
    cases runs' with
    | primitive simple => cases simple
    | ifte stack' inside =>
      cases stack.symm.trans stack'
      rw [ih inside]
    | ifteRefused refused => exact absurd stack (refused.not_taken (fits_ifte _ _ _))
  | ifteRefused refused =>
    cases runs' with
    | primitive simple => cases simple
    | ifte stack => exact absurd stack (refused.not_taken (fits_ifte _ _ _))
    | ifteRefused => rfl

/-- A run comes back to the level on which it began. -/
theorem depth_eq (runs : Runs limit task machine calls ending) :
    (machineAfter ending).depth = machine.depth := by
  have later : machine.Evolves (machineAfter (task.perform limit machine)) := by
    cases task <;> unfold Task.perform <;> exact evolves _ machine
  rw [runs.perform_eq] at later
  exact later.depth

end Runs

/-! ## There is always a derivation -/

/-- Whether a task, run on a machine, comes to an end. -/
def Ends (limit : Nat) (task : Task) (machine : Machine) : Prop :=
  ∃ calls ending, Runs limit task machine calls ending

namespace Ends

section OneLevel

variable {limit level : Nat} {machine : Machine}
  (quotes : ∀ words (machine : Machine), machine.depth = level → Ends limit (.quote words) machine)

include quotes

theorem eval (here : machine.depth = level) : Ends limit (.builtin .eval) machine := by
  rcases Refuses.taken_or_refused [[.quote]] machine.stack with
    ⟨operands, rest, stack, fit⟩ | ⟨fault, left, refused⟩
  · obtain ⟨words, rfl⟩ := eq_of_fits_eval fit
    obtain ⟨calls, ending, inside⟩ := quotes words { machine with stack := rest } here
    exact ⟨_, _, .eval stack inside⟩
  · exact ⟨_, _, .evalRefused refused⟩

theorem dip (here : machine.depth = level) : Ends limit (.builtin .dip) machine := by
  rcases Refuses.taken_or_refused [[.quote], Kind.all] machine.stack with
    ⟨operands, rest, stack, fit⟩ | ⟨fault, left, refused⟩
  · obtain ⟨words, kept, rfl⟩ := eq_of_fits_dip fit
    obtain ⟨calls, ending, inside⟩ := quotes words { machine with stack := rest } here
    cases ending with
    | ok value after => exact ⟨_, _, .dip stack inside⟩
    | error fault after => exact ⟨_, _, .dipStop stack inside⟩
  · exact ⟨_, _, .dipRefused refused⟩

theorem ifte (here : machine.depth = level) : Ends limit (.builtin .ifte) machine := by
  rcases Refuses.taken_or_refused [[.quote], [.quote], [.truth]] machine.stack with
    ⟨operands, rest, stack, fit⟩ | ⟨fault, left, refused⟩
  · obtain ⟨negative, positive, condition, rfl⟩ := eq_of_fits_ifte fit
    obtain ⟨calls, ending, inside⟩ :=
      quotes (if condition then positive else negative) { machine with stack := rest } here
    exact ⟨_, _, .ifte stack inside⟩
  · exact ⟨_, _, .ifteRefused refused⟩

theorem builtin (builtin : Builtin) (here : machine.depth = level) :
    Ends limit (.builtin builtin) machine := by
  cases builtin with
  | eval => exact eval quotes here
  | dip => exact dip quotes here
  | ifte => exact ifte quotes here
  | _ => exact ⟨_, _, .primitive rfl machine (evaluate limit)⟩

theorem word (word : Word) (here : machine.depth = level) : Ends limit (.word word) machine := by
  cases word with
  | symbol name =>
    cases meaning : Builtin.ofName? name with
    | some builtin =>
      obtain ⟨calls, ending, call⟩ := Ends.builtin quotes builtin here
      exact ⟨_, _, .named meaning call⟩
    | none =>
      cases found : machine.vocabulary.get? name with
      | none => exact ⟨_, _, .unknown meaning found⟩
      | some definition =>
        obtain ⟨scope, body⟩ := definition
        obtain ⟨calls, ending, call⟩ := quotes body
          { machine with log := .called name scope machine.depth :: machine.log } here
        cases scope with
        | isolated => exact ⟨_, _, .isolated meaning found call⟩
        | shared => exact ⟨_, _, .shared meaning found call⟩
  | _ => exact ⟨_, _, .data nofun⟩

theorem row (words : List Word) (here : machine.depth = level) :
    Ends limit (.row words) machine := by
  induction words generalizing machine with
  | nil => exact ⟨_, _, .nil⟩
  | cons head words ih =>
    obtain ⟨calls, ending, first⟩ := word quotes head here
    cases ending with
    | ok value middle =>
      -- The next word finds the machine on the same level.
      obtain ⟨more, ending, rest⟩ := ih (first.depth_eq.trans here)
      exact ⟨_, _, .cons first rest⟩
    | error fault after => exact ⟨_, _, .stop first⟩

end OneLevel

/-- A quote comes to an end because its words run one level deeper, and there are only so many
levels. The words on one level are done in a row, however many there are by then. -/
theorem quote (limit : Nat) (words : Quote) (machine : Machine) :
    Ends limit (.quote words) machine := by
  generalize left : limit - machine.depth = levels
  induction levels generalizing words machine with
  | zero => exact ⟨_, _, .tooDeep (Nat.sub_eq_zero_iff_le.1 left)⟩
  | succ levels ih =>
    have deeper : ∀ words (below : Machine), below.depth = machine.depth + 1 →
        Ends limit (.quote words) below := by
      intro words below here
      exact ih words below (by omega)
    obtain ⟨calls, ending, inside⟩ :=
      @row limit _ { machine with depth := machine.depth + 1 } deeper words rfl
    exact ⟨_, _, .deeper (by omega) inside⟩

theorem task (limit : Nat) (task : Task) (machine : Machine) : Ends limit task machine := by
  have quotes : ∀ words (other : Machine), other.depth = machine.depth →
      Ends limit (.quote words) other := fun words other _ => quote limit words other
  cases task with
  | quote words => exact quote limit words machine
  | row words => exact row quotes words rfl
  | word single => exact word quotes single rfl
  | builtin called => exact builtin quotes called rfl

end Ends

/-- Every task comes to an end on every machine: there is exactly one derivation by the rules, as far
as the builtins called and the end are concerned, and its end is the one that the evaluator computes.
This holds of quotes, on whatever level and with however many levels in all, and of each part of
their runs. -/
theorem existsUnique_runs (limit : Nat) (task : Task) (machine : Machine) :
    (∃! run : List Builtin × Ending, Runs limit task machine run.1 run.2) ∧
      ∀ calls ending, Runs limit task machine calls ending →
        task.perform limit machine = ending := by
  refine ⟨?_, fun calls ending runs => runs.perform_eq⟩
  obtain ⟨calls, ending, runs⟩ := Ends.task limit task machine
  refine ⟨(calls, ending), runs, fun other runs' => ?_⟩
  exact Prod.ext (runs'.calls_eq runs) (runs'.ending_eq runs)

end Concatenative
