import Mathlib.Logic.Basic
import Concatenative.Proofs.Action

/-!
# What a run does to a machine

Whatever a program does, and however it ends, the machine it leaves is a later stage of the machine
it started on (`Machine.Evolves`): it stands on the same level, what was written before is still
there in front of what was written since, every name has kept its meaning, and only names that no
builtin has were given one. Each action has this property when its parts have it, so that it is an
instance of a class, `Exec.Evolving`, for all of them.
-/

namespace Concatenative

/-! ## Later stages of a machine -/

/-- What every run leaves as it was and what it may only add to. -/
structure Machine.Evolves (before after : Machine) : Prop where
  depth : after.depth = before.depth
  output : ∃ more, after.sink.written = before.sink.written ++ more
  kept : ∀ name definition, before.vocabulary.get? name = some definition →
    after.vocabulary.get? name = some definition
  fresh : ∀ name, after.vocabulary.contains name = true →
    before.vocabulary.contains name = true ∨ Builtin.ofName? name = none

namespace Machine.Evolves

/-- A machine with the same level, output and vocabulary is a later stage. -/
theorem of_eq {before after : Machine} (depth : after.depth = before.depth)
    (sink : after.sink = before.sink) (vocabulary : after.vocabulary = before.vocabulary) :
    before.Evolves after where
  depth := depth
  output := ⟨.empty, by rw [sink, ByteArray.append_empty]⟩
  kept name definition h := by rw [vocabulary, h]
  fresh name h := .inl (by rwa [vocabulary] at h)

theorem refl (machine : Machine) : machine.Evolves machine :=
  of_eq rfl rfl rfl

theorem trans {first second third : Machine} (h : first.Evolves second)
    (k : second.Evolves third) : first.Evolves third where
  depth := k.depth.trans h.depth
  output := by
    obtain ⟨more, written⟩ := h.output
    obtain ⟨yetMore, writtenThen⟩ := k.output
    exact ⟨more ++ yetMore, by rw [writtenThen, written, ByteArray.append_assoc]⟩
  kept name definition found := k.kept name definition (h.kept name definition found)
  fresh name found := by
    rcases k.fresh name found with earlier | free
    · exact h.fresh name earlier
    · exact .inr free

end Machine.Evolves

/-- Only a name without a meaning is given one. -/
theorem Vocabulary.get?_eq_none_of_define {vocabulary after : Vocabulary} {name : String}
    {definition : Definition} (h : vocabulary.define name definition = .ok after) :
    vocabulary.get? name = none := by
  unfold define at h
  split at h
  · simp at h
  · next unused => simpa [contains_eq_isSome] using unused

/-! ## Actions -/

/-- An action after which the machine is at a later stage, whether it succeeds or fails. -/
class Exec.Evolving {α : Type} (action : Exec α) : Prop where
  evolves : ∀ machine : Machine, machine.Evolves (Exec.machineAfter (action machine))

namespace Exec

variable {α β : Type}

theorem evolves (action : Exec α) [Evolving action] (machine : Machine) :
    machine.Evolves (machineAfter (action machine)) :=
  Evolving.evolves machine

instance (value : α) : Evolving (pure value : Exec α) :=
  ⟨fun machine => .refl machine⟩

instance (fault : Fault) : Evolving (throw fault : Exec α) :=
  ⟨fun machine => .refl machine⟩

instance : Evolving (get : Exec Machine) :=
  ⟨fun machine => .refl machine⟩

instance (action : Exec α) (next : α → Exec β) [Evolving action] [∀ value, Evolving (next value)] :
    Evolving (action >>= next) := by
  refine ⟨fun machine => ?_⟩
  have first := evolves action machine
  show machine.Evolves (machineAfter (EStateM.bind action next machine))
  unfold EStateM.bind
  cases result : action machine with
  | ok value after =>
    rw [result] at first
    exact first.trans (evolves (next value) after)
  | error fault after =>
    rw [result] at first
    exact first

instance (condition : Prop) [Decidable condition] (action other : Exec α) [Evolving action]
    [Evolving other] : Evolving (if condition then action else other) := by
  split <;> infer_instance

instance {ε : Type} (fault : ε → Fault) (result : Except ε α) : Evolving (ofExcept fault result) := by
  cases result <;> unfold ofExcept <;> infer_instance

/-! The stack and the record of notes play no part in the stages. -/

instance (entry : Note) : Evolving (note entry) :=
  ⟨fun _ => .of_eq rfl rfl rfl⟩

instance (word : Word) : Evolving (push word) :=
  ⟨fun _ => .of_eq rfl rfl rfl⟩

instance (words : Quote) : Evolving (pushAll words) :=
  ⟨fun _ => .of_eq rfl rfl rfl⟩

instance (accepted : List Kind) (view : Word → Option α) : Evolving (takeAs accepted view) := by
  refine ⟨fun machine => ?_⟩
  unfold takeAs
  split
  · exact .refl machine
  · split
    · exact .of_eq rfl rfl rfl
    · exact .refl machine

instance (accepted : List Kind) : Evolving (take accepted) :=
  inferInstanceAs (Evolving (takeAs _ _))

instance : Evolving takeAny :=
  inferInstanceAs (Evolving (take _))

instance : Evolving takeNumber :=
  inferInstanceAs (Evolving (takeAs _ _))

instance : Evolving takeText :=
  inferInstanceAs (Evolving (takeAs _ _))

instance : Evolving takeTruth :=
  inferInstanceAs (Evolving (takeAs _ _))

instance : Evolving takeQuote :=
  inferInstanceAs (Evolving (takeAs _ _))

/-! Output is added at the end, and files are elsewhere. -/

instance (text : String) : Evolving (emit text) := by
  refine ⟨fun machine => ?_⟩
  obtain ⟨taken, written⟩ := machine.sink.written_write text
  unfold emit
  split
  all_goals
    next sink _ h =>
      rw [h] at written
      exact ⟨rfl, ⟨taken, written⟩, fun _ _ found => found, fun _ found => .inl found⟩

instance (path : String) : Evolving (readFile path) := by
  unfold readFile
  infer_instance

instance (disk : Disk) : Evolving (modify fun machine : Machine => { machine with disk }) :=
  ⟨fun _ => .of_eq rfl rfl rfl⟩

instance (path contents : String) : Evolving (writeFile path contents) := by
  unfold writeFile
  infer_instance

instance (source : String) : Evolving (parse source) := by
  unfold parse
  infer_instance

/-- Giving a meaning to a name that no builtin has adds this one name. -/
theorem evolving_define {name : String} (free : Builtin.ofName? name = none)
    (definition : Definition) : Evolving (define name definition) := by
  refine ⟨fun machine => ?_⟩
  rw [define_apply]
  split
  · exact .refl machine
  · next vocabulary defined =>
    have unused := Vocabulary.get?_eq_none_of_define defined
    refine ⟨rfl, ⟨.empty, ByteArray.append_empty.symm⟩, fun other meaning found => ?_,
      fun other found => ?_⟩
    · -- A name with a meaning is not the one that has just been given one.
      show vocabulary.get? other = some meaning
      rw [Vocabulary.get?_of_define defined, if_neg, found]
      rintro rfl
      simp [unused] at found
    · rw [Vocabulary.contains_eq_isSome] at found ⊢
      replace found : (vocabulary.get? other).isSome = true := found
      rw [Vocabulary.get?_of_define defined] at found
      by_cases same : name = other
      · exact .inr (same ▸ free)
      · rw [if_neg same] at found
        exact .inl found

/-! Scopes and levels. -/

instance (action : Exec α) [Evolving action] : Evolving (isolated action) := by
  refine ⟨fun machine => ?_⟩
  have inner := evolves action machine
  unfold isolated
  cases result : action machine <;> rw [result] at inner <;>
    exact ⟨inner.depth, inner.output, fun _ _ found => found, fun _ found => .inl found⟩

instance (action : Exec α) [Evolving action] : Evolving (deeper action) := by
  refine ⟨fun machine => ?_⟩
  have inner := evolves action { machine with depth := machine.depth + 1 }
  unfold deeper
  cases result : action { machine with depth := machine.depth + 1 } <;> rw [result] at inner <;>
    exact ⟨Nat.sub_eq_of_eq_add inner.depth, inner.output, inner.kept, inner.fresh⟩

end Exec

/-! ## Builtins and programs -/

section Running

open Exec

variable (run : Quote → Exec Unit) [∀ words, Evolving (run words)]

instance (operator : Operator) : Evolving operator.perform := by
  unfold Operator.perform
  infer_instance

instance : Evolving Builtin.performCat := by
  have branches : ∀ top : Quote ⊕ String, Evolving (match top with
      | .inl top => do
        let below ← takeQuote
        push (.quote (below ++ top))
      | .inr top => do
        let below ← takeText
        push (.text (below ++ top))) := by
    rintro (top | top) <;> infer_instance
  unfold Builtin.performCat
  infer_instance

instance : Evolving Builtin.performUncons := by
  have branches : ∀ words : Quote, Evolving (match words.uncons? with
      | none => throw .unconsEmpty
      | some (head, tail) => do
        push head
        push (.quote tail)) := by
    intro words
    split <;> infer_instance
  unfold Builtin.performUncons
  infer_instance

instance : Evolving Builtin.performNumber := by
  have branches : ∀ value : String, Evolving (match Number.read? (Text.trim value) with
      | some x => push (.number x)
      | none => throw (.notNumeric value)) := by
    intro value
    split <;> infer_instance
  unfold Builtin.performNumber
  infer_instance

/-- The name of a definition has been checked when it is given its meaning. -/
instance (scope : Scope) (label body : Quote) : Evolving (nameDefinition scope label body) := by
  unfold nameDefinition
  split
  · infer_instance
  · split
    · infer_instance
    · next free => exact evolving_define (by simpa using free) _

instance (scope : Scope) : Evolving (Builtin.performDefine scope) := by
  rw [performDefine_eq]
  infer_instance

instance (builtin : Builtin) : Evolving (builtin.perform run) := by
  cases builtin <;> unfold Builtin.perform
  case cat | uncons | number | define | arithmetic => infer_instance
  case and | or => unfold Builtin.performConnective; infer_instance
  case not => unfold Builtin.performNot; infer_instance
  case eq => unfold Builtin.performEq; infer_instance
  case dup => unfold Builtin.performDup; infer_instance
  case drop => unfold Builtin.performDrop; infer_instance
  case swap => unfold Builtin.performSwap; infer_instance
  case copyBelow => unfold Builtin.performCopyBelow; infer_instance
  case dip => unfold Builtin.performDip; infer_instance
  case eval => unfold Builtin.performEval; infer_instance
  case ifte => unfold Builtin.performIfte; infer_instance
  case wrap => unfold Builtin.performWrap; infer_instance
  case unwrap => unfold Builtin.performUnwrap; infer_instance
  case cons => unfold Builtin.performCons; infer_instance
  case split => unfold Builtin.performSplit; infer_instance
  case join => unfold Builtin.performJoin; infer_instance
  case parse => unfold Builtin.performParse; infer_instance
  case type => unfold Builtin.performType; infer_instance
  case string => unfold Builtin.performString; infer_instance
  case symbol => unfold Builtin.performSymbol; infer_instance
  case print => unfold Builtin.performPrint; infer_instance
  case showStack => unfold Builtin.performShowStack; infer_instance
  case read => unfold Builtin.performRead; infer_instance
  case write => unfold Builtin.performWrite; infer_instance
  case exit => infer_instance

instance (definition : Definition) : Evolving (definition.perform run) := by
  unfold Definition.perform
  split <;> infer_instance

instance (name : String) : Evolving (call run name) := by
  have meaning : ∀ machine : Machine, Evolving (match machine.vocabulary.get? name with
      | none => throw (.unknown name)
      | some definition => do
        note (.called name definition.scope machine.depth)
        definition.perform run) := by
    intro machine
    split <;> infer_instance
  unfold call
  split <;> infer_instance

instance (word : Word) : Evolving (word.perform run) := by
  unfold Word.perform
  split <;> infer_instance

instance (words : Quote) : Evolving (Quote.perform run words) := by
  induction words with
  | nil => exact inferInstanceAs (Evolving (pure ()))
  | cons word words ih =>
    rw [Quote.perform_cons]
    infer_instance

end Running

/-- Whatever a quote does, it leaves a later stage of the machine. -/
instance Exec.evolving_evaluateWithin (limit levels : Nat) (words : Quote) :
    Exec.Evolving (evaluateWithin limit levels words) := by
  induction levels generalizing words with
  | zero => exact inferInstanceAs (Exec.Evolving (throw _))
  | succ levels ih => exact inferInstanceAs (Exec.Evolving (Exec.deeper _))

instance Exec.evolving_evaluate (limit : Nat) (words : Quote) : Exec.Evolving (evaluate limit words) :=
  ⟨fun machine => Exec.evolves (evaluateWithin limit (limit - machine.depth) words) machine⟩

end Concatenative
