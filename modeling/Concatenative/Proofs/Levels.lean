import Concatenative.Proofs.Lockstep.Evaluation

/-!
# The level a program runs on

A run depends on how many levels are left, not on the level it starts from, and not on any note. So
many levels further down, with as many levels more in all, it ends the same way (`evaluate_lowered`);
only a run that is cut short names the number of levels there are. On the same level this says that
notes make no difference (`evaluate_alike`).
-/

namespace Concatenative

open Exec

/-- Whether the right machine is the left one so many levels further down, notes apart. -/
structure Machine.Lowered (levels : Nat) (left right : Machine) : Prop where
  stack : right.stack = left.stack
  vocabulary : right.vocabulary = left.vocabulary
  depth : right.depth = left.depth + levels
  sink : right.sink = left.sink
  disk : right.disk = left.disk

/-- The fault of a run out of `limit` levels when there are so many levels more. -/
def Fault.lower (limit levels : Nat) (fault : Fault) : Fault :=
  if fault = .tooDeep limit then .tooDeep (limit + levels) else fault

@[simp]
theorem Fault.lower_zero (limit : Nat) (fault : Fault) : fault.lower limit 0 = fault := by
  unfold Fault.lower
  split
  · next deep => exact deep.symm
  · rfl

namespace Levels

/-- Two runs, the right one so many levels further down with as many levels more. -/
def lockstep (limit levels : Nat) : Lockstep where
  shift := levels
  faults f g := g = f.lower limit levels

variable {limit levels : Nat}

theorem lawful : (lockstep limit levels).Lawful := by
  refine .of_eq rfl rfl rfl (fun f other => ?_) (Lockstep.writes_of_eq rfl) fun stop _ => stop
  exact (if_neg (other limit)).symm

theorem machines_of_lowered {left right : Machine} (h : left.Lowered levels right) :
    (lockstep limit levels).Machines left right where
  stack := Lockstep.stack_of_eq rfl rfl h.stack
  vocabulary := h.vocabulary.symm
  depth := h.depth
  sink := h.sink.symm
  disk := h.disk

theorem lowered_of_machines {left right : Machine}
    (machines : (lockstep limit levels).Machines left right) : left.Lowered levels right where
  stack := machines.stack_eq (fun _ _ names => names) rfl
  vocabulary := machines.vocabulary.symm
  depth := machines.depth
  sink := machines.sink.symm
  disk := machines.disk

end Levels

/-- So many levels further down, with as many levels more in all, a quote ends the same way. -/
theorem evaluate_lowered (limit levels : Nat) (words : Quote) {left right : Machine}
    (h : left.Lowered levels right) :
    SameEnd (Machine.Lowered levels)
      ((evaluate limit words).adaptExcept (Fault.lower limit levels) left)
      (evaluate (limit + levels) words right) := by
  have spare : limit + levels - right.depth = limit - left.depth + 0 := by
    rw [h.depth]
    omega
  have deep : (Levels.lockstep limit levels).faults (.tooDeep limit) (.tooDeep (limit + levels)) :=
    (if_pos rfl).symm
  have outcome := Lockstep.outcome_evaluate Levels.lawful (fun _ => Lockstep.Relates.throw deep)
    (Quote.matches_self (fun _ => rfl) words) (Levels.machines_of_lowered h) spare
  unfold EStateM.adaptExcept
  generalize evaluate limit words left = result at outcome ⊢
  generalize evaluate (limit + levels) words right = result' at outcome ⊢
  cases outcome with
  | done value after =>
    subst value
    exact .ok (Levels.lowered_of_machines after)
  | failed fault after =>
    subst fault
    exact .error (Levels.lowered_of_machines after)
  | leftStopped stop => exact stop.elim
  | rightStopped stop => exact stop.elim

/-- What an action does one level further down, and how it ends back on the level above. -/
theorem Exec.SameEnd.deeper {α : Type} {result : EStateM.Result Fault Machine α} {action : Exec α}
    {machine : Machine} (same : SameEnd (Machine.Lowered 1) result
      (action { machine with depth := machine.depth + 1 })) :
    SameEnd Machine.Alike result (deeper action machine) := by
  have back : ∀ {left right : Machine}, left.Lowered 1 right →
      left.Alike { right with depth := right.depth - 1 } := fun h =>
    ⟨h.stack, h.vocabulary, Nat.sub_eq_of_eq_add h.depth, h.sink, h.disk⟩
  unfold Exec.deeper
  generalize action { machine with depth := machine.depth + 1 } = result' at same ⊢
  cases same with
  | ok h => exact .ok (back h)
  | error h => exact .error (back h)

/-- With a level left, a quote is run on it. -/
theorem evaluate_of_lt {limit : Nat} {machine : Machine} (below : machine.depth < limit)
    (words : Quote) :
    evaluate limit words machine =
      deeper (Quote.perform (evaluateWithin limit (limit - (machine.depth + 1))) words) machine := by
  have levels : limit - machine.depth = limit - (machine.depth + 1) + 1 := by omega
  rw [evaluate, levels, evaluateWithin]

/-! ## The same level -/

namespace Levels

variable {limit : Nat} {left right : Machine}

theorem machines_of_alike (alike : left.Alike right) : (lockstep limit 0).Machines left right :=
  machines_of_lowered ⟨alike.stack, alike.vocabulary, alike.depth, alike.sink, alike.disk⟩

/-- No levels further down no run stops alone, and faults are the same. -/
theorem alike_of_outcome {result result' : EStateM.Result Fault Machine Unit}
    (outcome : (lockstep limit 0).Outcome Eq result result') :
    SameEnd Machine.Alike result result' := by
  have equal : ∀ f g, (lockstep limit 0).faults f g → f = g := fun f g fault =>
    (Fault.lower_zero limit f).symm.trans fault.symm
  refine (outcome.sameEnd equal (fun _ _ _ stop => stop) fun _ stop => stop).imp fun after => ?_
  have h := lowered_of_machines after
  exact ⟨h.stack, h.vocabulary, h.depth, h.sink, h.disk⟩

theorem relates_evaluate {p q : Quote} (matched : Quote.Matches (lockstep limit 0).names p q) :
    (lockstep limit 0).Relates Eq (evaluate limit p) (evaluate limit q) := by
  intro left right machines
  have tooDeep : (lockstep limit 0).faults (.tooDeep limit) (.tooDeep limit) :=
    (Fault.lower_zero limit _).symm
  exact Lockstep.outcome_evaluate_of_level lawful rfl tooDeep matched machines

end Levels

/-- A quote ends the same way on machines that differ in their notes. -/
theorem evaluate_alike (limit : Nat) (words : Quote) {left right : Machine}
    (alike : left.Alike right) :
    SameEnd Machine.Alike (evaluate limit words left) (evaluate limit words right) := by
  have same := Quote.matches_self (fun _ => rfl) words
  have related : (Levels.lockstep limit 0).Relates Eq (evaluate limit words)
      (evaluate limit words) := Levels.relates_evaluate same
  exact Levels.alike_of_outcome (related left right (Levels.machines_of_alike alike))

/-- Words in a row end the same way on machines that differ in their notes. -/
theorem Quote.perform_alike (limit : Nat) (words : Quote) {left right : Machine}
    (alike : left.Alike right) :
    SameEnd Machine.Alike (Quote.perform (evaluate limit) words left)
      (Quote.perform (evaluate limit) words right) := by
  have same := Quote.matches_self (fun _ => rfl) words
  have related : (Levels.lockstep limit 0).Relates Eq (Quote.perform (evaluate limit) words)
      (Quote.perform (evaluate limit) words) :=
    Lockstep.Relates.quote Levels.lawful Levels.relates_evaluate same
  exact Levels.alike_of_outcome (related left right (Levels.machines_of_alike alike))

end Concatenative
