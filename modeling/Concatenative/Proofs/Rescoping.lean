import Concatenative.Proofs.Frame

/-!
# Scopes without definitions

Where nothing is defined, it does not show in which vocabulary a body runs. Four builtins can define
a name or make a symbol: as long as none of their names is within reach, a run leaves the vocabulary
as it was, finds all its symbols in the quote, on the stack or in a body, and ends the same way if
every scope is changed (`evaluate_rescoped`). Symbols are put on the stack and into quotes in many
ways, so the argument is that each of them comes from a place that is known at the start.
-/

namespace Concatenative

open Exec

/-- The symbols through which a run may come to define a name or to make a symbol. -/
def definers : List String :=
  ["def", "defun", "defm", "defmacro", "symbol", "parse"]

/-- Whether two vocabularies have the same names with the same bodies, in whatever scopes. -/
def Vocabulary.Rescoped (vocabulary other : Vocabulary) : Prop :=
  ∀ name, (other.get? name).map Definition.body = (vocabulary.get? name).map Definition.body

namespace Machine

/-- Whether a name occurs on the stack or in a body of the vocabulary, at any depth. -/
def Mentions (machine : Machine) (name : String) : Prop :=
  name ∈ Quote.symbols machine.stack ∨
    ∃ other definition, machine.vocabulary.get? other = some definition ∧
      name ∈ Quote.symbols definition.body

/-- Whether the right machine is the left one with `other` for its vocabulary. -/
structure Rescoped (other : Vocabulary) (left right : Machine) : Prop where
  stack : right.stack = left.stack
  vocabulary : right.vocabulary = other
  depth : right.depth = left.depth
  sink : right.sink = left.sink
  disk : right.disk = left.disk

end Machine

namespace Rescoping

/-! ## The lockstep -/

/-- Two runs, one against each of two vocabularies that never change, with no symbols but those that
are known. -/
def lockstep (known : String → Prop) (vocabulary other : Vocabulary) : Lockstep where
  names m n := m = n ∧ known m
  vocabularies v w := v = vocabulary ∧ w = other

/-- What has to be known of the symbols: none leads to a definition, and those in bodies are among
them. -/
structure Closed (known : String → Prop) (vocabulary : Vocabulary) : Prop where
  undefining : ∀ name ∈ definers, ¬ known name
  bodies : ∀ name definition, vocabulary.get? name = some definition →
    ∀ symbol ∈ Quote.symbols definition.body, known symbol

variable {known : String → Prop} {vocabulary other : Vocabulary}

theorem not_permits (closed : Closed known vocabulary) {builtin : Builtin}
    (defines : builtin ∈ [.define .isolated, .define .shared, .symbol, .parse]) :
    ¬ (lockstep known vocabulary other).Permits builtin := by
  have avoided : ∀ m n, (lockstep known vocabulary other).names m n → m ∉ definers :=
    fun m _ names definer => closed.undefining m definer names.2
  exact Lockstep.not_permits (by decide) avoided defines

theorem unchanged (m n : String) (names : (lockstep known vocabulary other).names m n) : m = n :=
  names.1

/-- The symbols that occur in a quote are known if it matches itself. -/
theorem matches_self_iff {words : Quote} :
    Quote.Matches (lockstep known vocabulary other).names words words ↔
      ∀ name ∈ Quote.symbols words, known name := by
  rw [Quote.matches_self_iff]
  exact ⟨fun h name occurs => (h name occurs).2, fun h name occurs => ⟨rfl, h name occurs⟩⟩

/-- Each side has one vocabulary, so it makes no difference which one is put back. -/
theorem unscoped : (lockstep known vocabulary other).Unscoped :=
  fun _ _ _ _ before after => ⟨before.1, after.2⟩

theorem respectsWords (closed : Closed known vocabulary) :
    (lockstep known vocabulary other).RespectsWords :=
  .of_unchanged unchanged (fun _ _ matched => matched.eq unchanged)
    (fun permitted => absurd permitted (not_permits closed (by simp)))
    (fun permitted => absurd permitted (not_permits closed (by simp)))

theorem meanings (closed : Closed known vocabulary) (rescoped : vocabulary.Rescoped other)
    (name : String) :
    Option.Rel (lockstep known vocabulary other).Meanings (vocabulary.get? name)
      (other.get? name) := by
  have bodies := rescoped name
  have inside := closed.bodies name
  generalize vocabulary.get? name = left at bodies inside
  generalize other.get? name = right at bodies
  cases left with
  | none =>
    rw [Option.map_none, Option.map_eq_none_iff] at bodies
    rw [bodies]
    exact .none
  | some definition =>
    -- Nothing is known of the two scopes, so they must not matter.
    obtain ⟨definition', rfl, same⟩ := Option.map_eq_some_iff.1 bodies
    refine .some ⟨.inr unscoped, ?_⟩
    rw [same]
    exact matches_self_iff.2 (inside definition rfl)

theorem respectsMachines (closed : Closed known vocabulary) (rescoped : vocabulary.Rescoped other) :
    (lockstep known vocabulary other).RespectsMachines where
  underflow := .inl rfl
  write := Lockstep.writes_of_eq rfl
  showStack _ := Lockstep.writes_renderStack unchanged rfl (Lockstep.writes_of_eq rfl)
  lookup := by
    rintro v w m _ ⟨rfl, rfl⟩ ⟨rfl, _⟩ _
    exact .inl (meanings closed rescoped m)
  define := by
    -- Vocabularies that never change are kept because the law is never asked for.
    intro v w m n d e permitted
    refine absurd permitted (not_permits closed ?_)
    cases d.scope <;> simp
  stops stop _ := stop

theorem lawful (closed : Closed known vocabulary) (rescoped : vocabulary.Rescoped other) :
    (lockstep known vocabulary other).Lawful :=
  { respectsWords closed, respectsMachines closed rescoped with }

theorem sameEnd (closed : Closed known vocabulary) (rescoped : vocabulary.Rescoped other)
    (limit : Nat) {words : Quote} (inside : ∀ name ∈ Quote.symbols words, known name)
    {left right : Machine} (machines : (lockstep known vocabulary other).Machines left right) :
    SameEnd (lockstep known vocabulary other).Machines (evaluate limit words left)
      (evaluate limit words right) := by
  have tooDeep : (lockstep known vocabulary other).faults (.tooDeep limit) (.tooDeep limit) := rfl
  have outcome := Lockstep.outcome_evaluate_of_level (lawful closed rescoped) rfl tooDeep
    (matches_self_iff.2 inside) machines
  exact outcome.sameEnd (fun _ _ same => same) (fun _ _ _ stop => stop) fun _ stop => stop

theorem known_of_machines {left right : Machine}
    (machines : (lockstep known vocabulary other).Machines left right) :
    ∀ name ∈ Quote.symbols left.stack, known name := by
  obtain ⟨top, tops, _⟩ := machines.stack
  exact matches_self_iff.1 (tops.self_left unchanged)

theorem rescoped_of_machines {left right : Machine}
    (machines : (lockstep known vocabulary other).Machines left right) :
    left.Rescoped other right where
  stack := machines.stack_eq unchanged rfl
  vocabulary := machines.vocabulary.2
  depth := machines.depth
  sink := machines.sink.symm
  disk := machines.disk

/-- The symbols within reach when a quote begins to run. -/
def Known (words : Quote) (machine : Machine) (name : String) : Prop :=
  name ∈ Quote.symbols words ∨ machine.Mentions name

theorem closed_known {words : Quote} {machine : Machine} (quote : words.Avoids definers)
    (stack : Quote.Avoids definers machine.stack) (bodies : machine.vocabulary.Avoids definers) :
    Closed (Known words machine) machine.vocabulary := by
  refine ⟨fun name definer => ?_, fun name definition found symbol occurs => ?_⟩
  · rintro (occurs | occurs | ⟨other, definition, found, occurs⟩)
    · exact quote name definer occurs
    · exact stack name definer occurs
    · exact bodies other definition found name definer occurs
  · exact .inr (.inr ⟨name, definition, found, occurs⟩)

theorem machines_known (words : Quote) (machine : Machine) (other : Vocabulary) :
    (lockstep (Known words machine) machine.vocabulary other).Machines machine
      { machine with vocabulary := other } where
  stack := ⟨machine.stack, matches_self_iff.2 fun _ occurs => .inr (.inl occurs),
    (List.append_nil _).symm⟩
  vocabulary := ⟨rfl, rfl⟩
  depth := rfl
  sink := rfl
  disk := rfl

end Rescoping

/-! ## Runs that define nothing -/

/-- A run that has no symbol within reach through which a name is defined or a symbol is made leaves
its vocabulary as it was, and each symbol it leaves on the stack was in the quote, on the stack or in
a body before. Against a vocabulary with the same bodies in other scopes it ends the same way. -/
theorem evaluate_rescoped (limit : Nat) (words : Quote) (machine : Machine)
    (quote : words.Avoids definers) (stack : Quote.Avoids definers machine.stack)
    (bodies : machine.vocabulary.Avoids definers) :
    (machineAfter (evaluate limit words machine)).vocabulary = machine.vocabulary ∧
    (∀ name ∈ Quote.symbols (machineAfter (evaluate limit words machine)).stack,
      name ∈ Quote.symbols words ∨ machine.Mentions name) ∧
    ∀ other, machine.vocabulary.Rescoped other →
      SameEnd (Machine.Rescoped other) (evaluate limit words machine)
        (evaluate limit words { machine with vocabulary := other }) := by
  have ends : ∀ other, machine.vocabulary.Rescoped other → SameEnd
      (Rescoping.lockstep (Rescoping.Known words machine) machine.vocabulary other).Machines
      (evaluate limit words machine) (evaluate limit words { machine with vocabulary := other }) :=
    fun other rescoped => Rescoping.sameEnd (Rescoping.closed_known quote stack bodies) rescoped limit
      (fun _ occurs => .inl occurs) (Rescoping.machines_known words machine other)
  -- Against its own vocabulary a run is in step with itself: no symbol in it is unknown.
  have self := (ends machine.vocabulary fun _ => rfl).machineAfter
  refine ⟨self.vocabulary.1, Rescoping.known_of_machines self, fun other rescoped => ?_⟩
  exact (ends other rescoped).imp Rescoping.rescoped_of_machines

/-- The vocabulary in which one name has a body in the given scope. -/
def Rescoping.single (scope : Scope) (name : String) (body : Quote) : Vocabulary :=
  ⟨{ (name, ⟨scope, body⟩) }⟩

theorem Rescoping.get?_single (scope : Scope) (name : String) (body : Quote) (other : String) :
    (single scope name body).get? other = if name = other then some ⟨scope, body⟩ else none := by
  have defined : Vocabulary.empty.define name ⟨scope, body⟩ = .ok (single scope name body) := by
    simp [Vocabulary.define, Vocabulary.contains, Vocabulary.empty, single]
  rw [Vocabulary.get?_of_define defined, Vocabulary.get?_empty]

/-- A macro and a function with the same body, called on a text. -/
theorem evaluate_rescoped_function :
    ∃ left right,
      evaluate 128 [.text "a", .symbol "f"]
        { vocabulary := Rescoping.single .shared "f" [.symbol "dup", .symbol "wrap"] } =
        .ok () left ∧
      evaluate 128 [.text "a", .symbol "f"]
        { vocabulary := Rescoping.single .isolated "f" [.symbol "dup", .symbol "wrap"] } =
        .ok () right ∧
      left.stack = [.quote [.text "a"], .text "a"] ∧
      left.Rescoped (Rescoping.single .isolated "f" [.symbol "dup", .symbol "wrap"]) right := by
  have runs : ∃ left right,
      evaluate 128 [.text "a", .symbol "f"]
        { vocabulary := Rescoping.single .shared "f" [.symbol "dup", .symbol "wrap"] } =
        .ok () left ∧
      evaluate 128 [.text "a", .symbol "f"]
        { vocabulary := Rescoping.single .isolated "f" [.symbol "dup", .symbol "wrap"] } =
        .ok () right ∧
      left.stack = [.quote [.text "a"], .text "a"] := ⟨_, _, rfl, rfl, rfl⟩
  obtain ⟨left, right, run, run', stack⟩ := runs
  have bodies : (Rescoping.single .shared "f" [.symbol "dup", .symbol "wrap"]).Avoids definers := by
    intro name definition found
    rw [Rescoping.get?_single, Option.ite_none_right_eq_some] at found
    rw [← Option.some.inj found.2]
    unfold Quote.Avoids
    decide
  have rescoped : (Rescoping.single .shared "f" [.symbol "dup", .symbol "wrap"]).Rescoped
      (Rescoping.single .isolated "f" [.symbol "dup", .symbol "wrap"]) := by
    intro name
    rw [Rescoping.get?_single, Rescoping.get?_single]
    split <;> rfl
  have ends := (evaluate_rescoped 128 [.text "a", .symbol "f"]
    { vocabulary := Rescoping.single .shared "f" [.symbol "dup", .symbol "wrap"] }
    (by unfold Quote.Avoids; decide) (by unfold Quote.Avoids; decide) bodies).2.2 _ rescoped
  rw [run, run'] at ends
  cases ends with
  | ok rescoped => exact ⟨left, right, run, run', stack, rescoped⟩

end Concatenative
