import Concatenative.Fault

/-!
# Output sinks

Where program output goes: a growing row of bytes that may have room for a limited number more, and
that may fail to pass on what it was given. Bytes once taken are never lost, also when the write
fails.
-/

namespace Concatenative

/-- The bytes written so far, how many more are taken (any number if `none`), and whether they can
be passed on. -/
structure Sink where
  written : ByteArray := .empty
  room : Option Nat := none
  flushes : Bool := true

namespace Sink

/-- Takes bytes without regard to the room for them. -/
def append (sink : Sink) (bytes : ByteArray) : Sink :=
  { sink with written := sink.written ++ bytes }

/-- Passes on what was taken. -/
def flush (sink : Sink) : Sink × Option Obstacle :=
  (sink, if sink.flushes then none else some .flushFailed)

/-- Writes a text and passes it on. Of a text that does not fit, the first bytes are taken. -/
def write (sink : Sink) (text : String) : Sink × Option Obstacle :=
  let bytes := text.toByteArray
  match sink.room with
  | none => (sink.append bytes).flush
  | some room =>
    if bytes.size ≤ room then
      { sink.append bytes with room := some (room - bytes.size) }.flush
    else
      ({ sink.append (bytes.extract 0 room) with room := some 0 }, some .sinkFull)

/-- A write adds bytes at the end, whether it succeeds or fails. -/
theorem written_write (sink : Sink) (text : String) :
    ∃ taken, (sink.write text).1.written = sink.written ++ taken := by
  unfold write
  dsimp only
  split
  · exact ⟨_, rfl⟩
  · split <;> exact ⟨_, rfl⟩

/-- A sink with room for everything that passes on what it takes never fails. -/
theorem write_of_unlimited {sink : Sink} (room : sink.room = none) (flushes : sink.flushes = true)
    (text : String) : sink.write text = (sink.append text.toByteArray, none) := by
  simp [write, flush, append, room, flushes]

end Sink

end Concatenative
