import Concatenative.Proofs.Lockstep.Evaluation

/-!
# More levels

The number of levels only ever cuts runs short. A run that does not use them up goes on exactly the
same way with more of them, and a run that does has by then written a first part of what it writes
with more (`evaluate_of_limit_le`).
-/

namespace Concatenative

open Exec

namespace DepthLimit

/-- Two runs, the left one with `limit` levels and the right one perhaps with more. The left one may
run out of levels; what the right one writes after that comes behind what the left one wrote. -/
def lockstep (limit : Nat) : Lockstep where
  faults f g := f = g ∧ ∀ k, f ≠ .tooDeep k
  leftStops fault s t := fault = .tooDeep limit ∧ ∃ more, t.written = s.written ++ more

variable {limit : Nat}

theorem lawful : (lockstep limit).Lawful := by
  refine .of_eq rfl rfl rfl (fun f other => ⟨rfl, other⟩) (Lockstep.writes_of_eq rfl) ?_
  rintro f s t t' ⟨fault, more, written⟩ ⟨rest, writtenThen⟩
  exact ⟨fault, more ++ rest, by rw [writtenThen, written, ByteArray.append_assoc]⟩

/-- Where the left run has no level left, whatever the right one does only adds to the output. -/
theorem relates_last (limit' spare : Nat) (words : Quote) :
    (lockstep limit).Relates Eq (throw (.tooDeep limit)) (evaluateWithin limit' spare words) := by
  intro left right machines
  obtain ⟨more, written⟩ := (evolves (evaluateWithin limit' spare words) right).output
  refine .leftStopped ⟨rfl, more, ?_⟩
  rw [written, ← machines.sink]

theorem alike_of_machines {left right : Machine} (machines : (lockstep limit).Machines left right) :
    left.Alike right where
  stack := machines.stack_eq (fun _ _ names => names) rfl
  vocabulary := machines.vocabulary.symm
  depth := machines.depth
  sink := machines.sink.symm
  disk := machines.disk

end DepthLimit

/-- With more levels a run that stayed within the fewer ones ends the same way, and one that did not
has named the fewer levels and written a first part of what is written with more. -/
theorem evaluate_of_limit_le {fewer more : Nat} (le : fewer ≤ more) (words : Quote)
    (machine : Machine) :
    ((∀ limit after, evaluate fewer words machine ≠ .error (.tooDeep limit) after) →
      SameEnd Machine.Alike (evaluate fewer words machine) (evaluate more words machine)) ∧
    ∀ limit after, evaluate fewer words machine = .error (.tooDeep limit) after →
      limit = fewer ∧
        ∃ rest, (machineAfter (evaluate more words machine)).sink.written =
          after.sink.written ++ rest := by
  have spare : more - machine.depth =
      fewer - machine.depth + (more - machine.depth - (fewer - machine.depth)) := by
    omega
  have machines : (DepthLimit.lockstep fewer).Machines machine machine :=
    ⟨⟨machine.stack, Quote.matches_self (fun _ => rfl) _, (List.append_nil _).symm⟩, rfl, rfl, rfl,
      rfl⟩
  have outcome := Lockstep.outcome_evaluate DepthLimit.lawful (DepthLimit.relates_last more _)
    (Quote.matches_self (fun _ => rfl) words) machines spare
  generalize evaluate more words machine = result' at outcome ⊢
  generalize evaluate fewer words machine = result at outcome ⊢
  cases outcome with
  | done value after =>
    subst value
    exact ⟨fun _ => .ok (DepthLimit.alike_of_machines after), nofun⟩
  | failed fault after =>
    obtain ⟨same, other⟩ := fault
    subst same
    refine ⟨fun _ => .error (DepthLimit.alike_of_machines after), fun limit _ h => ?_⟩
    cases h
    exact absurd rfl (other limit)
  | leftStopped stop =>
    obtain ⟨rfl, rest, written⟩ := stop
    refine ⟨fun within => absurd rfl (within _ _), fun limit _ h => ?_⟩
    cases h
    exact ⟨rfl, rest, written⟩
  | rightStopped stop => exact stop.elim

/-- Printing once and then again one level deeper, with one level and with two. -/
theorem evaluate_of_limit_le_print_eval :
    ∃ after, evaluate 1
        [.text "a", .symbol "print", .quote [.text "b", .symbol "print"], .symbol "eval"] {} =
          .error (.tooDeep 1) after ∧
      ∃ rest, (machineAfter (evaluate 2
        [.text "a", .symbol "print", .quote [.text "b", .symbol "print"], .symbol "eval"]
          {})).sink.written = after.sink.written ++ rest := by
  have stops : ∃ after, evaluate 1
      [.text "a", .symbol "print", .quote [.text "b", .symbol "print"], .symbol "eval"] {} =
        .error (.tooDeep 1) after := ⟨_, rfl⟩
  obtain ⟨after, stops⟩ := stops
  have le : 1 ≤ 2 := by omega
  exact ⟨after, stops, ((evaluate_of_limit_le le _ {}).2 1 after stops).2⟩

end Concatenative
