import Concatenative.Proofs.Lockstep.Evaluation

/-!
# A larger vocabulary

Definitions that a program does not know of do not change what it does. Against a vocabulary with
further names it ends the same way, unless it tries to define one of these names itself or would
have stopped at one of them without a meaning (`evaluate_union`). Names can be made while a program
runs, so this cannot be read off its text: the two runs are followed to the first point where they
differ, which is one of those two.
-/

namespace Concatenative

open Exec

namespace Vocabulary

/-! ## Vocabularies without common names -/

/-- All meanings of two vocabularies; the first one counts where both have a name. -/
def union (vocabulary extra : Vocabulary) : Vocabulary :=
  ⟨extra.entries ∪ vocabulary.entries⟩

/-- Whether no name has a meaning in both vocabularies. -/
def Apart (vocabulary extra : Vocabulary) : Prop :=
  ∀ name, vocabulary.get? name = none ∨ extra.get? name = none

variable {vocabulary extra : Vocabulary}

theorem get?_union (vocabulary extra : Vocabulary) (name : String) :
    (vocabulary.union extra).get? name = (vocabulary.get? name).or (extra.get? name) :=
  Std.ExtTreeMap.getElem?_union

/-- A name that neither vocabulary has is defined in their union as it is in the first one. -/
theorem define_union {after : Vocabulary} {name : String} {definition : Definition}
    (defined : vocabulary.define name definition = .ok after) (missing : extra.get? name = none) :
    (vocabulary.union extra).define name definition = .ok (after.union extra) := by
  have unused := get?_eq_none_of_define defined
  cases added : (vocabulary.union extra).define name definition with
  | error fault =>
    obtain ⟨used, _⟩ := define_eq_error_iff.1 added
    rw [contains_eq_isSome, get?_union, unused, missing] at used
    simp at used
  | ok result =>
    congr
    ext1 other
    rw [get?_of_define added, get?_union, get?_union, get?_of_define defined]
    by_cases same : name = other
    · rw [if_pos same, if_pos same, Option.some_or]
    · rw [if_neg same, if_neg same]

theorem Apart.define {after : Vocabulary} {name : String} {definition : Definition}
    (apart : vocabulary.Apart extra) (defined : vocabulary.define name definition = .ok after)
    (missing : extra.get? name = none) : after.Apart extra := by
  intro other
  rw [get?_of_define defined]
  by_cases same : name = other
  · exact .inr (same ▸ missing)
  · rw [if_neg same]
    exact apart other

end Vocabulary

/-- The machine with the meanings of `extra` besides those of its vocabulary. -/
def Machine.extend (machine : Machine) (extra : Vocabulary) : Machine :=
  { machine with vocabulary := machine.vocabulary.union extra }

/-- Whether the right machine is the left one with the meanings of `extra` in its vocabulary. -/
structure Machine.Extended (extra : Vocabulary) (left right : Machine) : Prop where
  stack : right.stack = left.stack
  vocabulary : right.vocabulary = left.vocabulary.union extra
  apart : left.vocabulary.Apart extra
  depth : right.depth = left.depth
  sink : right.sink = left.sink
  disk : right.disk = left.disk

namespace Extension

/-! ## The lockstep -/

/-- Two runs, the right one with further meanings. The left one may stop at a name that only these
give a meaning to, the right one at the definition of a name that has its meaning from them. -/
def lockstep (extra : Vocabulary) : Lockstep where
  vocabularies v w := w = v.union extra ∧ v.Apart extra
  leftStops fault _ _ := ∃ name, extra.contains name = true ∧ fault = .unknown name
  rightStops fault := ∃ name, extra.contains name = true ∧ fault = .alreadyDefined name

variable {extra : Vocabulary}

theorem lookup {v w : Vocabulary} (vocabularies : (lockstep extra).vocabularies v w)
    (name : String) : (lockstep extra).Finds name (v.get? name) (w.get? name) := by
  obtain ⟨rfl, apart⟩ := vocabularies
  rw [Vocabulary.get?_union]
  cases found : v.get? name with
  | some definition =>
    refine .inl (.some ⟨.inl rfl, Quote.matches_self (fun _ => rfl) _⟩)
  | none =>
    cases other : extra.get? name with
    | none => exact .inl .none
    | some definition =>
      -- Only the further meanings have one for this name: here the left run stops.
      refine .inr ⟨rfl, fun _ _ => ⟨name, ?_, rfl⟩⟩
      rw [Vocabulary.contains_eq_isSome, other, Option.isSome_some]

theorem define {v w : Vocabulary} (vocabularies : (lockstep extra).vocabularies v w)
    (name : String) (definition : Definition) :
    (lockstep extra).Defines name name (v.define name definition) (w.define name definition) := by
  obtain ⟨rfl, apart⟩ := vocabularies
  cases missing : extra.get? name with
  | some other =>
    -- The name has a meaning on the right, whether or not it has one on the left.
    have used : (v.union extra).contains name = true := by
      rw [Vocabulary.contains_eq_isSome, Vocabulary.get?_union, missing]
      cases v.get? name <;> rfl
    rw [Vocabulary.define_eq_error_iff.2 ⟨used, rfl⟩]
    refine .rightStops ⟨name, ?_, rfl⟩
    rw [Vocabulary.contains_eq_isSome, missing, Option.isSome_some]
  | none =>
    cases defined : v.define name definition with
    | ok after =>
      rw [Vocabulary.define_union defined missing]
      exact .both ⟨rfl, apart.define defined missing⟩
    | error fault =>
      obtain ⟨used, rfl⟩ := Vocabulary.define_eq_error_iff.1 defined
      have usedToo : (v.union extra).contains name = true := by
        rw [Vocabulary.contains_eq_isSome] at used ⊢
        rw [Vocabulary.get?_union, missing, Option.or_none]
        exact used
      rw [Vocabulary.define_eq_error_iff.2 ⟨usedToo, rfl⟩]
      exact .neither

theorem lawful : (lockstep extra).Lawful :=
  { Lockstep.RespectsWords.of_eq rfl fun _ _ => rfl with
    underflow := .inl rfl
    write := Lockstep.writes_of_eq rfl
    showStack := fun _ =>
      Lockstep.writes_renderStack (fun _ _ names => names) rfl (Lockstep.writes_of_eq rfl)
    lookup := by
      rintro v w m _ vocabularies rfl _
      exact lookup vocabularies m
    define := by
      rintro v w m _ d e _ vocabularies rfl _ definitions
      have same : d = e := definitions.eq fun _ _ names => names
      subst same
      exact define vocabularies m d
    stops := fun stop _ => stop }

theorem extended_of_machines {left right : Machine}
    (machines : (lockstep extra).Machines left right) : left.Extended extra right where
  stack := machines.stack_eq (fun _ _ names => names) rfl
  vocabulary := machines.vocabulary.1
  apart := machines.vocabulary.2
  depth := machines.depth
  sink := machines.sink.symm
  disk := machines.disk

end Extension

/-! ## Runs against a larger vocabulary -/

/-- With further meanings in its vocabulary, none of them for a name that has one, a run ends the
same way, or it stops at the definition of one of the further names, or it stops at one of them when
they are missing. -/
theorem evaluate_union (limit : Nat) (words : Quote) (machine : Machine) (extra : Vocabulary)
    (apart : machine.vocabulary.Apart extra) :
    SameEnd (Machine.Extended extra) (evaluate limit words machine)
      (evaluate limit words (machine.extend extra)) ∨
    (∃ name after, extra.contains name = true ∧
      evaluate limit words (machine.extend extra) = .error (.alreadyDefined name) after) ∨
    ∃ name after, extra.contains name = true ∧
      evaluate limit words machine = .error (.unknown name) after := by
  have machines : (Extension.lockstep extra).Machines machine (machine.extend extra) :=
    ⟨⟨machine.stack, Quote.matches_self (fun _ => rfl) _, (List.append_nil _).symm⟩, ⟨rfl, apart⟩,
      rfl, rfl, rfl⟩
  have last : ∀ q, (Extension.lockstep extra).Relates Eq
      (throw (.tooDeep limit)) (evaluateWithin limit 0 q) :=
    fun q => Lockstep.Relates.throw rfl
  have outcome := Lockstep.outcome_evaluate Extension.lawful last
    (Quote.matches_self (fun _ => rfl) words) machines rfl
  generalize evaluate limit words (machine.extend extra) = result' at outcome ⊢
  generalize evaluate limit words machine = result at outcome ⊢
  cases outcome with
  | done value after =>
    subst value
    exact .inl (.ok (Extension.extended_of_machines after))
  | failed fault after =>
    have same : _ = _ := fault
    subst same
    exact .inl (.error (Extension.extended_of_machines after))
  | leftStopped stop =>
    obtain ⟨name, known, rfl⟩ := stop
    exact .inr (.inr ⟨name, _, known, rfl⟩)
  | rightStopped stop =>
    obtain ⟨name, known, rfl⟩ := stop
    exact .inr (.inl ⟨name, _, known, rfl⟩)

/-- Defining a name and calling it, next to a definition of another name. -/
theorem evaluate_union_own_macro :
    ∃ left right,
      evaluate 128 [.quote [.text "a"], .quote [.symbol "g"], .symbol "defm", .symbol "g"] {} =
        .ok () left ∧
      evaluate 128 [.quote [.text "a"], .quote [.symbol "g"], .symbol "defm", .symbol "g"]
        (Machine.extend {} ⟨{ ("f", ⟨.shared, []⟩) }⟩) = .ok () right ∧
      left.Extended ⟨{ ("f", ⟨.shared, []⟩) }⟩ right := by
  have runs : ∃ left right,
      evaluate 128 [.quote [.text "a"], .quote [.symbol "g"], .symbol "defm", .symbol "g"] {} =
        .ok () left ∧
      evaluate 128 [.quote [.text "a"], .quote [.symbol "g"], .symbol "defm", .symbol "g"]
        (Machine.extend {} ⟨{ ("f", ⟨.shared, []⟩) }⟩) = .ok () right := ⟨_, _, rfl, rfl⟩
  obtain ⟨left, right, run, run'⟩ := runs
  have ends := evaluate_union 128
    [.quote [.text "a"], .quote [.symbol "g"], .symbol "defm", .symbol "g"] {}
    ⟨{ ("f", ⟨.shared, []⟩) }⟩ fun name => .inl (Vocabulary.get?_empty name)
  rw [run, run'] at ends
  rcases ends with ⟨⟨extended⟩⟩ | ⟨name, after, _, stopped⟩ | ⟨name, after, _, stopped⟩
  · exact ⟨left, right, run, run', extended⟩
  · cases stopped
  · cases stopped

end Concatenative
