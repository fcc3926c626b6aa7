import Concatenative.Decimal
import Concatenative.Note
import Concatenative.Text.Blank

/-!
# Settings

How many levels a run may nest. The environment can set the number; a text that is not a positive
integer of at most 64 bits is ignored, with a note.
-/

namespace Concatenative

/-- The settings of a run. -/
structure Settings where
  /-- How many levels there are. -/
  limit : Nat := 128
deriving DecidableEq

namespace Settings

/-- The variable that sets the number of levels. -/
def limitVariable : String := "LION_MAX_DEPTH"

/-- The greatest number that fits in 64 bits. -/
def greatest : Nat := 0xffffffffffffffff

/-- How many bytes of stack a host should set aside for one level. -/
def bytesPerLevel : Nat := 16 * 1024

/-- The text after one plus sign, if it starts with one. -/
def dropPlus : List Char → List Char
  | '+' :: rest => rest
  | text => text

/-- The positive integer of at most 64 bits that a text denotes: digits after an optional plus sign,
with blanks around them. -/
def readLimit? (text : String) : Option Nat :=
  let digits := dropPlus (Text.trimBlanks text.toList)
  let value := Decimal.valueOfDigits digits
  if digits.all Char.isDigit && 0 < value && value ≤ greatest then some value else none

/-- The settings that the value of the variable asks for, and what is to be noted about it. -/
def ofVariable : Option String → Settings × List Note
  | none => ({}, [])
  | some text =>
    match readLimit? text with
    | some limit => ({ limit }, [])
    | none => ({}, [.limitIgnored limitVariable text])

/-- How many bytes of stack a host should set aside, or the greatest number if there is no such
number. -/
def stackSize (settings : Settings) : Nat :=
  min (settings.limit * bytesPerLevel) greatest

example : readLimit? " +007\n" = some 7 := by decide +kernel

example : readLimit? "+" = none ∧ readLimit? "18446744073709551616" = none := by decide +kernel

end Settings

end Concatenative
