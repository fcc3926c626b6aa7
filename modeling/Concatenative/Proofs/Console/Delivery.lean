import Concatenative.Console.CommandLine

/-!
# Threads and deliveries

What a host and a line editor can be expected to do. A host finishes a command line if it provides
the thread and the thread comes to its end; otherwise the status is 1, whatever the command line is.
A line editor delivers the lines of an input if they come in order, up to the end of the input, and
in silence unless the terminal is dumb; in other terminals there is one such delivery of given lines
(`Delivery.eq_plain`).
-/

namespace Concatenative

namespace Console

/-! ## Rows of bytes -/

/-- Rows of bytes one after the other. -/
def concat (rows : List ByteArray) : ByteArray :=
  rows.foldr (· ++ ·) .empty

theorem concat_nil : concat [] = .empty :=
  rfl

theorem concat_cons (row : ByteArray) (rows : List ByteArray) :
    concat (row :: rows) = row ++ concat rows :=
  rfl

/-- Lines one after the other, each ended by a line feed. -/
def joinLines (lines : List String) : ByteArray :=
  concat (lines.map fun line => (line ++ "\n").toByteArray)

/-! ## Threads -/

/-- Whether a host provides the thread that is asked for in an environment, and the thread comes to
its end. -/
def Host.Finishes (host : Host) (environment : Environment) : Prop :=
  host.thread environment.stackSize = .finished

section Launch

variable {host : Host} {editor : LineEditor} {arguments : List String} {environment : Environment}
  {input : ByteArray} {disk : Disk}

/-- On a thread that comes to its end, a command line does its work. -/
theorem launch_of_finishes (finishes : host.Finishes environment) :
    launch host editor arguments environment input disk =
      work environment.levels environment.core (editor.deliver environment.terminal input) arguments
        { disk } := by
  rw [launch, finishes]

/-- On a thread that does not come to its end, whatever the command line is, the status is 1. -/
theorem status_of_not_finishes (unfinished : ¬ host.Finishes environment) :
    (launch host editor arguments environment input disk).status = 1 := by
  rw [launch]
  cases fate : host.thread environment.stackSize with
  | refused reason | broken complaints machine => rfl
  | finished => exact absurd fate unfinished

end Launch

/-! ## Deliveries -/

namespace Delivery

/-- The lines that are delivered. -/
def texts : Delivery → List String
  | .line _ text later => text :: later.texts
  | .stop .. => []

/-- Why no more lines are delivered. -/
def cause : Delivery → Stop
  | .line _ _ later => later.cause
  | .stop _ cause => cause

/-- Whether the line editor writes nothing itself. -/
def Silent : Delivery → Prop
  | .line written _ later => written = .empty ∧ later.Silent
  | .stop written _ => written = .empty

/-- Whether some lines are delivered in order up to the end of the input, in silence unless the
terminal is dumb. -/
structure Orderly (delivery : Delivery) (terminal : Option String) (lines : List String) :
    Prop where
  texts : delivery.texts = lines
  cause : delivery.cause = .endOfInput
  silent : terminal ≠ some "dumb" → delivery.Silent

/-- Some lines in order and in silence, up to the end of the input. -/
def plain : List String → Delivery
  | [] => .stop .empty .endOfInput
  | text :: lines => .line .empty text (plain lines)

theorem orderly_plain (terminal : Option String) (lines : List String) :
    (plain lines).Orderly terminal lines := by
  induction lines with
  | nil => exact ⟨rfl, rfl, fun _ => rfl⟩
  | cons text lines ih =>
    exact ⟨congrArg (text :: ·) ih.texts, ih.cause, fun able => ⟨rfl, ih.silent able⟩⟩

/-- There is one way to deliver lines in order and in silence, up to the end of the input. -/
theorem eq_plain {delivery : Delivery} (ended : delivery.cause = .endOfInput)
    (silent : delivery.Silent) : delivery = plain delivery.texts := by
  induction delivery with
  | line written text later ih =>
    obtain ⟨rfl, silent⟩ := silent
    exact congrArg (Delivery.line .empty text) (ih ended silent)
  | stop written cause =>
    obtain rfl : written = .empty := silent
    obtain rfl : cause = .endOfInput := ended
    rfl

end Delivery

/-- Whether a line editor delivers the lines of an input in order up to its end, in silence unless
the terminal is dumb. One that writes prompts in this terminal, too, does not. -/
def LineEditor.Delivers (editor : LineEditor) (terminal : Option String) (input : ByteArray)
    (lines : List String) : Prop :=
  ∃ delivery, editor.deliver terminal input = .ok delivery ∧ delivery.Orderly terminal lines

theorem LineEditor.Delivers.deliver_eq {editor : LineEditor} {terminal : Option String}
    {input : ByteArray} {lines : List String} (delivered : editor.Delivers terminal input lines)
    (able : terminal ≠ some "dumb") : editor.deliver terminal input = .ok (.plain lines) := by
  obtain ⟨delivery, delivers, orderly⟩ := delivered
  rw [delivers, Delivery.eq_plain orderly.cause (orderly.silent able), orderly.texts]

/-- Whether a line editor can begin. -/
def LineEditor.Begins (editor : LineEditor) (terminal : Option String) (input : ByteArray) : Prop :=
  ∃ delivery, editor.deliver terminal input = .ok delivery

end Console

end Concatenative
