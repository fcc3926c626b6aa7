import Concatenative.Proofs.Lockstep.Evaluation

/-!
# The words below the stack

A run does not see what lies below the words it takes. On a stack with more words underneath it ends
the same way and leaves those words in place, unless it is the empty stack that stopped it
(`evaluate_onto`). The one builtin that shows the whole stack writes something else then; where it
can neither be called nor made into a symbol, the output is the same too.
-/

namespace Concatenative

open Exec

/-- The machine with more words under its stack. -/
def Machine.onto (machine : Machine) (below : List Word) : Machine :=
  { machine with stack := machine.stack ++ below }

/-- The symbols through which a run may come to show the whole stack. -/
def stackObservers : List String :=
  [".s", "symbol", "parse"]

/-- Whether none of `names` occurs in a quote, at any depth. -/
def Quote.Avoids (names : List String) (words : Quote) : Prop :=
  ∀ name ∈ names, name ∉ Quote.symbols words

/-- Whether none of `names` occurs in a body of a vocabulary, at any depth. -/
def Vocabulary.Avoids (names : List String) (vocabulary : Vocabulary) : Prop :=
  ∀ name definition, vocabulary.get? name = some definition → definition.body.Avoids names

/-- Whether the right machine is the left one with more words under its stack, with the same output
if `quiet` holds. -/
structure Machine.Framed (below : List Word) (quiet : Prop) (left right : Machine) : Prop where
  stack : right.stack = left.stack ++ below
  vocabulary : right.vocabulary = left.vocabulary
  depth : right.depth = left.depth
  disk : right.disk = left.disk
  output : quiet → right.sink.written = left.sink.written

namespace Frame

/-! ## The lockstep -/

/-- Two runs, the right one with more words under its stack. If `quiet` holds, the symbols that lead
to a view of the whole stack are nowhere in reach. -/
def lockstep (below : List Word) (quiet : Prop) : Lockstep where
  names m n := m = n ∧ (quiet → m ∉ stackObservers)
  below := below
  vocabularies v w := v = w ∧ (quiet → v.Avoids stackObservers)
  sinks s t := s.NeverFails ∧ t.NeverFails ∧ (quiet → t.written = s.written)
  leftStops fault _ _ := ∃ accepted, fault = .mismatch accepted none

variable {below : List Word} {quiet : Prop}

/-- Where the symbols that lead to a view of the stack are out of reach, so are their builtins. -/
theorem not_quiet {builtin : Builtin} (permitted : (lockstep below quiet).Permits builtin)
    (observes : builtin ∈ [.showStack, .symbol, .parse]) : ¬ quiet := by
  intro holds
  have unobserved : ∀ m n, (lockstep below quiet).names m n → m ∉ stackObservers :=
    fun _ _ names => names.2 holds
  exact Lockstep.not_permits (by decide) unobserved observes permitted

theorem unchanged (m n : String) (names : (lockstep below quiet).names m n) : m = n :=
  names.1

theorem matches_self {words : Quote} (avoids : quiet → words.Avoids stackObservers) :
    Quote.Matches (lockstep below quiet).names words words := by
  refine (Quote.matches_self_iff words).2 fun name occurs => ⟨rfl, fun holds observer => ?_⟩
  exact avoids holds name observer occurs

theorem avoids_of_matches {p q : Quote} (matched : Quote.Matches (lockstep below quiet).names p q)
    (holds : quiet) : p.Avoids stackObservers := by
  intro name observer occurs
  exact ((Quote.matches_self_iff p).1 (matched.self_left unchanged) name occurs).2 holds observer

theorem respectsWords : (lockstep below quiet).RespectsWords := by
  refine .of_unchanged unchanged (fun f g matched => matched.eq unchanged) ?_ ?_
  · intro permitted name _
    exact ⟨rfl, fun holds => absurd holds (not_quiet permitted (by simp))⟩
  · intro permitted source words _
    exact matches_self fun holds => absurd holds (not_quiet permitted (by simp))

/-- Two sinks that never fail take any two texts. -/
theorem writes {s t : Sink} (sinks : (lockstep below quiet).sinks s t) {text text' : String}
    (same : quiet → text = text') : (lockstep below quiet).Writes (s.write text) (t.write text') := by
  obtain ⟨left, right, written⟩ := sinks
  rw [Sink.write_of_unlimited left.room left.flushes, Sink.write_of_unlimited right.room right.flushes]
  refine .both none ⟨⟨left.room, left.flushes⟩, ⟨right.room, right.flushes⟩, fun holds => ?_⟩
  simp only [Sink.append]
  rw [written holds, same holds]

theorem respectsMachines : (lockstep below quiet).RespectsMachines where
  underflow := .inr fun accepted _ _ => ⟨accepted, rfl⟩
  write text sinks := writes sinks fun _ => rfl
  showStack permitted machines :=
    writes machines.sink fun holds => absurd holds (not_quiet permitted (by simp))
  lookup := by
    rintro v _ m _ ⟨rfl, avoids⟩ ⟨rfl, _⟩ _
    refine .inl ?_
    cases found : v.get? m with
    | none => exact .none
    | some definition =>
      exact .some ⟨.inl rfl, matches_self fun holds => avoids holds m definition found⟩
  define := by
    rintro v _ m _ d e _ ⟨rfl, avoids⟩ ⟨rfl, _⟩ _ definitions
    have same : d = e := definitions.eq unchanged
    subst same
    cases defined : v.define m d with
    | error fault =>
      obtain ⟨_, rfl⟩ := Vocabulary.define_eq_error_iff.1 defined
      exact .neither
    | ok after =>
      refine .both ⟨rfl, fun holds name definition => ?_⟩
      exact Vocabulary.forall_get?_of_define defined (avoids holds)
        (avoids_of_matches definitions.body holds)
  stops stop _ := stop

theorem lawful : (lockstep below quiet).Lawful :=
  { respectsWords, respectsMachines with }

theorem framed_of_machines {left right : Machine}
    (machines : (lockstep below quiet).Machines left right) : left.Framed below quiet right where
  stack := by
    obtain ⟨top, tops, stack⟩ := machines.stack
    rw [stack, tops.eq unchanged]
    rfl
  vocabulary := machines.vocabulary.1.symm
  depth := machines.depth
  disk := machines.disk
  output := machines.sink.2.2

end Frame

/-! ## Runs on a longer stack -/

/-- A run on a machine whose sink never fails ends the same way with more words under the stack,
unless it ends because the stack is empty. The words below stay where they are, and vocabulary, level
and files are the same; so is the output if no symbol in the quote, in the words it runs on or in a
body leads to a view of the whole stack. -/
theorem evaluate_onto (limit : Nat) (words : Quote) (machine : Machine) (below : List Word)
    (sink : machine.sink.NeverFails)
    (reached : ∀ fault after, evaluate limit words machine = .error fault after →
      ∀ expected, fault.diagnostic ≠ .mismatch expected "empty stack") :
    SameEnd
      (Machine.Framed below (words.Avoids stackObservers ∧
        Quote.Avoids stackObservers machine.stack ∧ machine.vocabulary.Avoids stackObservers))
      (evaluate limit words machine) (evaluate limit words (machine.onto below)) := by
  -- Whether the symbols are out of reach stays open: the lockstep carries it along as `q`.
  generalize quiet : (words.Avoids stackObservers ∧ Quote.Avoids stackObservers machine.stack ∧
    machine.vocabulary.Avoids stackObservers) = q
  have machines : (Frame.lockstep below q).Machines machine (machine.onto below) :=
    { stack := ⟨machine.stack, Frame.matches_self fun holds => (quiet ▸ holds).2.1, rfl⟩
      vocabulary := ⟨rfl, fun holds => (quiet ▸ holds).2.2⟩
      depth := rfl
      sink := ⟨sink, sink, fun _ => rfl⟩
      disk := rfl }
  have last : ∀ p, (Frame.lockstep below q).Relates Eq
      (throw (.tooDeep limit)) (evaluateWithin limit 0 p) :=
    fun p => Lockstep.Relates.throw rfl
  have outcome := Lockstep.outcome_evaluate Frame.lawful last
    (Frame.matches_self fun holds => (quiet ▸ holds).1) machines rfl
  generalize evaluate limit words (machine.onto below) = result' at outcome
  generalize evaluate limit words machine = result at outcome reached
  cases outcome with
  | done value after =>
    subst value
    exact .ok (Frame.framed_of_machines after)
  | failed fault after =>
    subst fault
    exact .error (Frame.framed_of_machines after)
  | leftStopped stop =>
    obtain ⟨accepted, rfl⟩ := stop
    exact absurd rfl (reached _ _ rfl (Kind.describe accepted))
  | rightStopped stop => exact stop.elim

/-- Swapping the two words under a third, above a fourth one. -/
theorem evaluate_onto_dip_swap :
    ∃ after, evaluate 128 [.quote [.symbol "swap"], .symbol "dip"]
        { stack := [.truth true, .text "a", .text "b", .text "c"] } = .ok () after ∧
      after.stack = [.truth true, .text "b", .text "a", .text "c"] ∧
      after.sink.written = .empty := by
  have run : evaluate 128 [.quote [.symbol "swap"], .symbol "dip"]
      { stack := [.truth true, .text "a", .text "b"] } =
      .ok () { stack := [.truth true, .text "b", .text "a"] } := rfl
  have framed := evaluate_onto 128 [.quote [.symbol "swap"], .symbol "dip"]
    { stack := [.truth true, .text "a", .text "b"] } [.text "c"] ⟨rfl, rfl⟩
    (by rw [run]; nofun)
  rw [run] at framed
  generalize ends : evaluate 128 _ (Machine.onto _ _) = result at framed
  cases framed with
  | @ok _ _ after h =>
    refine ⟨after, ends, h.stack, h.output ⟨?_, ?_, ?_⟩⟩
    · unfold Quote.Avoids; decide
    · unfold Quote.Avoids; decide
    · intro name definition found
      simp at found

end Concatenative
