import Concatenative.Proofs.Lockstep.Evaluation

/-!
# Output that does not fit

A sink with room for so many bytes only ever cuts runs short. As long as the output fits, a run
ends the same way as on a sink that never fails. The first byte too many ends the run, from any
depth: the fault names the output, the sink holds as much of the full output as it had room for, and
the machine is back on its own level (`evaluate_withRoom`).
-/

namespace Concatenative

open Exec

/-- The sink, with room for so many bytes more. -/
def Sink.withRoom (sink : Sink) (room : Nat) : Sink :=
  { sink with room := some room }

/-- The machine, with room for so many bytes more in its sink. -/
def Machine.withRoom (machine : Machine) (room : Nat) : Machine :=
  { machine with sink := machine.sink.withRoom room }

namespace Sink

variable {sink : Sink} {room : Nat} {text : String}

/-- A text that fits takes up room. -/
theorem write_withRoom_of_le (flushes : sink.flushes = true) (fits : text.toByteArray.size ≤ room) :
    (sink.withRoom room).write text =
      ((sink.append text.toByteArray).withRoom (room - text.toByteArray.size), none) := by
  unfold write
  simp only [withRoom, if_pos fits, flush, append, flushes, if_true]

/-- Of a text that does not fit, as many bytes are taken as there is room for. -/
theorem write_withRoom_of_lt (exceeds : room < text.toByteArray.size) :
    (sink.withRoom room).write text =
      ((sink.append (text.toByteArray.extract 0 room)).withRoom 0, some .sinkFull) := by
  unfold write
  simp only [withRoom, if_neg (Nat.not_le.2 exceeds), append]

end Sink

namespace OutputLimit

/-! ## Cuts -/

/-- A cut beyond the first of two rows of bytes keeps all of it. -/
theorem extract_append_of_size_le {front rest : ByteArray} {stop : Nat} (le : front.size ≤ stop) :
    (front ++ rest).extract 0 stop = front ++ rest.extract 0 (stop - front.size) := by
  have whole : (front ++ rest).extract 0 front.size = front :=
    ByteArray.extract_append_eq_left rfl
  have beyond : (front ++ rest).extract front.size stop = rest.extract 0 (stop - front.size) := by
    have shifted := @ByteArray.extract_append_size_add front rest 0 (stop - front.size)
    rwa [Nat.add_zero, Nat.add_sub_of_le le] at shifted
  rw [ByteArray.extract_eq_extract_append_extract front.size (Nat.zero_le _) le, whole, beyond]

/-- A cut within the first of two rows of bytes keeps nothing of the second. -/
theorem extract_append_of_le_size {front rest : ByteArray} {stop : Nat} (le : stop ≤ front.size) :
    (front ++ rest).extract 0 stop = front.extract 0 stop := by
  rw [ByteArray.extract_append, Nat.sub_eq_zero_of_le le, Nat.zero_sub, ByteArray.extract_same,
    ByteArray.append_empty]

/-! ## The lockstep -/

/-- Two runs after the same output `front`, the left one with room for `room` bytes more. The left
one may stop for want of room; what has been written on the right by then, or is written later, is
more than there is room for, and the left sink holds the first part of it. -/
def lockstep (front : ByteArray) (room : Nat) : Lockstep where
  sinks s t := t.NeverFails ∧ ∃ output, t.written = front ++ output ∧ output.size ≤ room ∧
    s = t.withRoom (room - output.size)
  leftStops fault s t := fault = .access outputPath .sinkFull ∧ ∃ output,
    t.written = front ++ output ∧ room < output.size ∧ s.written = front ++ output.extract 0 room

variable {front : ByteArray} {room : Nat}

/-- A text that fits is written on both sides, and one that does not stops the left run. -/
theorem writes {s t : Sink} (text : String) (sinks : (lockstep front room).sinks s t) :
    (lockstep front room).Writes (s.write text) (t.write text) := by
  obtain ⟨right, output, written, fits, rfl⟩ := sinks
  rw [Sink.write_of_unlimited right.room right.flushes]
  have later : (t.append text.toByteArray).written = front ++ (output ++ text.toByteArray) := by
    rw [Sink.append, written, ByteArray.append_assoc]
  rcases Nat.lt_or_ge (room - output.size) text.toByteArray.size with exceeds | within
  · rw [Sink.write_withRoom_of_lt exceeds]
    refine .leftStops ⟨rfl, output ++ text.toByteArray, later, ?_, ?_⟩
    · rw [ByteArray.size_append]
      omega
    · -- What was written before fits, so that the cut falls within the text.
      rw [extract_append_of_size_le fits, ← ByteArray.append_assoc, ← written]
      rfl
  · rw [Sink.write_withRoom_of_le right.flushes within]
    refine .both none ⟨⟨right.room, right.flushes⟩, output ++ text.toByteArray, later, ?_, ?_⟩
    · rw [ByteArray.size_append]
      omega
    · rw [ByteArray.size_append, Nat.sub_sub]

theorem lawful : (lockstep front room).Lawful := by
  refine .of_eq rfl rfl rfl (fun _ _ => rfl) writes ?_
  rintro f s t t' ⟨fault, output, written, exceeds, cut⟩ ⟨more, writtenThen⟩
  refine ⟨fault, output ++ more, ?_, ?_, ?_⟩
  · rw [writtenThen, written, ByteArray.append_assoc]
  · rw [ByteArray.size_append]
    omega
  · rw [cut, extract_append_of_le_size (Nat.le_of_lt exceeds)]

theorem machines_withRoom (room : Nat) {machine : Machine} (sink : machine.sink.NeverFails) :
    (lockstep machine.sink.written room).Machines (machine.withRoom room) machine where
  stack := Lockstep.stack_of_eq rfl rfl rfl
  vocabulary := rfl
  depth := rfl
  sink := ⟨sink, .empty, ByteArray.append_empty.symm, Nat.zero_le _, rfl⟩
  disk := rfl

/-- What was written since an earlier point is determined. -/
theorem output_eq {sink : Sink} {output output' : ByteArray} (written : sink.written = front ++ output)
    (written' : sink.written = front ++ output') : output' = output := by
  rw [written] at written'
  exact (ByteArray.append_right_inj front).1 written'.symm

/-- In step, the left machine is the right one with the room that is left. -/
theorem alike_of_machines {left right : Machine} (machines : (lockstep front room).Machines left right)
    {output : ByteArray} (written : right.sink.written = front ++ output) :
    output.size ≤ room ∧ (right.withRoom (room - output.size)).Alike left := by
  obtain ⟨_, output', written', fits, sink⟩ := machines.sink
  have same := output_eq written written'
  subst same
  refine ⟨fits, ?_, machines.vocabulary, machines.depth.symm, sink, machines.disk.symm⟩
  exact (machines.stack_eq (fun _ _ names => names) rfl).symm

end OutputLimit

/-! ## Runs with limited room -/

/-- Let `output` be what a run writes to a sink that never fails. With room for it, the run ends the
same way and leaves the same machine, with the room that remains. With less room, the run ends with
a fault of the output, on the level on which it began, and the sink has taken the first bytes of
`output`, as many as there was room for. -/
theorem evaluate_withRoom (limit : Nat) (words : Quote) (machine : Machine) (room : Nat)
    (sink : machine.sink.NeverFails) :
    ∃ output : ByteArray,
      (machineAfter (evaluate limit words machine)).sink.written = machine.sink.written ++ output ∧
      (output.size ≤ room →
        SameEnd (fun limited full => (full.withRoom (room - output.size)).Alike limited)
          (evaluate limit words (machine.withRoom room)) (evaluate limit words machine)) ∧
      (room < output.size → ∃ after,
        evaluate limit words (machine.withRoom room) = .error (.access outputPath .sinkFull) after ∧
        after.sink.written = machine.sink.written ++ output.extract 0 room ∧
        after.depth = machine.depth) := by
  obtain ⟨output, written⟩ := (evolves (evaluate limit words) machine).output
  have level := (evolves (evaluate limit words) (machine.withRoom room)).depth
  have tooDeep : (OutputLimit.lockstep machine.sink.written room).faults (.tooDeep limit)
      (.tooDeep limit) := rfl
  have outcome := Lockstep.outcome_evaluate_of_level OutputLimit.lawful rfl tooDeep
    (Quote.matches_self (fun _ => rfl) words) (OutputLimit.machines_withRoom room sink)
  refine ⟨output, written, ?_⟩
  generalize evaluate limit words machine = full at outcome written ⊢
  generalize evaluate limit words (machine.withRoom room) = limited at outcome level ⊢
  cases outcome with
  | done value after =>
    subst value
    obtain ⟨fits, alike⟩ := OutputLimit.alike_of_machines after written
    exact ⟨fun _ => .ok alike, fun exceeds => absurd fits (Nat.not_le.2 exceeds)⟩
  | failed fault after =>
    subst fault
    obtain ⟨fits, alike⟩ := OutputLimit.alike_of_machines after written
    exact ⟨fun _ => .error alike, fun exceeds => absurd fits (Nat.not_le.2 exceeds)⟩
  | leftStopped stop =>
    obtain ⟨rfl, output', written', exceeds, cut⟩ := stop
    have same := OutputLimit.output_eq written written'
    subst same
    exact ⟨fun fits => absurd fits (Nat.not_le.2 exceeds), fun _ => ⟨_, rfl, cut, level⟩⟩
  | rightStopped stop => exact stop.elim

/-- A second print, below the top of the stack, for which there is room in part. -/
theorem evaluate_withRoom_dip_print :
    ∃ after, evaluate 128 [.text "a", .symbol "print", .text "b",
        .quote [.text "cd", .symbol "print"], .symbol "dip"] (Machine.withRoom {} 2) =
          .error (.access outputPath .sinkFull) after ∧
      after.sink.written = "ac".toByteArray ∧ after.depth = 0 := by
  obtain ⟨output, written, -, ends⟩ := evaluate_withRoom 128 [.text "a", .symbol "print", .text "b",
    .quote [.text "cd", .symbol "print"], .symbol "dip"] {} 2 ⟨rfl, rfl⟩
  have run : (machineAfter (evaluate 128 [.text "a", .symbol "print", .text "b",
      .quote [.text "cd", .symbol "print"], .symbol "dip"] {})).sink.written = "acd".toByteArray := by
    decide +kernel
  have all : output = "acd".toByteArray := by
    rw [← run, written]
    exact ByteArray.empty_append.symm
  subst all
  obtain ⟨after, stops, cut, level⟩ := ends (by decide)
  exact ⟨after, stops, cut.trans (by decide), level⟩

end Concatenative
