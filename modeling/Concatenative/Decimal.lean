/-!
# Decimals

A decimal is a signed whole number times a power of ten. This file holds the grammar of decimals in
source text (`Decimal.read?`), their positional text (`Decimal.render`), their value as a number
(`Decimal.toFloat`, correctly rounded) and the decimals with fewer digits on either side of a given
one (`Decimal.roundings`).
-/

namespace Concatenative

/-- The number `± coefficient · 10 ^ exponent`. The sign counts for zero too. -/
structure Decimal where
  negative : Bool
  coefficient : Nat
  exponent : Int
deriving DecidableEq

namespace Decimal

/-- The power of two that no number reaches. -/
def overflowBits : Nat := 1024

/-- Whether the coefficient alone shows that the decimal is out of range. Since `10 ^ 3 < 2 ^ 10`, a
negative exponent `-k` takes at most `10 * k / 3 + 1` bits from it. -/
def isHuge (d : Decimal) : Bool :=
  overflowBits + 10 * (-d.exponent).toNat / 3 < d.coefficient.log2

/-- The number nearest to the decimal without its sign, ties to even; infinite when it is out of
range. -/
def magnitude (d : Decimal) : Float :=
  if d.isHuge then 1 / 0
  else Float.ofModel (Float.Model.ofScientific d.coefficient d.exponent)

/-- The number nearest to the decimal, ties to even; infinite when it is out of range. -/
def toFloat (d : Decimal) : Float :=
  if d.negative then -d.magnitude else d.magnitude

/-! ## Reading -/

/-- The value of a digit. -/
def valueOfDigit (c : Char) : Nat :=
  c.toNat - '0'.toNat

/-- The whole number that a row of digits denotes, found digit by digit. -/
def foldDigits (digits : List Char) : Nat :=
  digits.foldl (fun value c => 10 * value + valueOfDigit c) 0

/-- The same number, found by cutting the row in two so many times. Long rows are read faster in
halves, since then the numbers to be multiplied have about the same length. -/
def foldHalves : Nat → List Char → Nat
  | 0, digits => foldDigits digits
  | depth + 1, digits =>
    let half := digits.length / 2
    foldHalves depth (digits.take half) * Nat.pow 10 (digits.length - half) +
      foldHalves depth (digits.drop half)

/-- The whole number that a row of digits denotes. Rows of up to 31 digits are not cut. -/
def valueOfDigits (digits : List Char) : Nat :=
  foldHalves (digits.length.log2 - 4) digits

/-- The digits in front count for more by the power of ten that the digits after them make up. -/
theorem foldDigits_append (front rest : List Char) :
    foldDigits (front ++ rest) = foldDigits front * Nat.pow 10 rest.length + foldDigits rest := by
  have fold : ∀ start, rest.foldl (fun value c => 10 * value + valueOfDigit c) start =
      start * Nat.pow 10 rest.length + foldDigits rest := by
    unfold foldDigits
    induction rest with
    | nil => intro start; simp
    | cons c rest ih =>
      intro start
      rw [List.foldl_cons, List.foldl_cons, ih (10 * start + valueOfDigit c),
        ih (10 * 0 + valueOfDigit c), List.length_cons]
      show _ = start * (Nat.pow 10 rest.length * 10) + _
      rw [Nat.add_mul, Nat.mul_zero, Nat.zero_add, Nat.mul_comm 10 start, Nat.mul_assoc,
        Nat.mul_comm 10, Nat.add_assoc]
  rw [foldDigits, List.foldl_append]
  exact fold _

theorem foldHalves_eq (depth : Nat) (digits : List Char) :
    foldHalves depth digits = foldDigits digits := by
  induction depth generalizing digits with
  | zero => rfl
  | succ depth ih =>
    simp only [foldHalves, ih]
    rw [← List.length_drop, ← foldDigits_append, List.take_append_drop]

theorem valueOfDigits_eq (digits : List Char) : valueOfDigits digits = foldDigits digits :=
  foldHalves_eq _ digits

/-- The size of an exponent from which on its further digits are passed over. -/
def exponentCap : Nat := 65536

/-- The size of the exponent that a row of digits denotes. A size of `exponentCap` is far out of the
range of numbers, so digits after it are passed over. -/
def exponentOfDigits (digits : List Char) : Nat :=
  digits.foldl (fun size c => if size < exponentCap then 10 * size + valueOfDigit c else size) 0

/-- Whether a minus sign stands in front, and the text after the sign if there is one. -/
def readSign : List Char → Bool × List Char
  | '+' :: rest => (false, rest)
  | '-' :: rest => (true, rest)
  | text => (false, text)

/-- The digits after a point, if a point stands in front, and the text after them. -/
def readFraction : List Char → List Char × List Char
  | '.' :: rest => (rest.takeWhile Char.isDigit, rest.dropWhile Char.isDigit)
  | text => ([], text)

/-- The exponent that the whole text denotes: nothing for zero, or a mark, an optional sign and at
least one digit. -/
def readExponent? : List Char → Option Int
  | [] => some 0
  | mark :: rest =>
    let (negative, digits) := readSign rest
    if (mark == 'e' || mark == 'E') && !digits.isEmpty && digits.all Char.isDigit then
      some (if negative then -(exponentOfDigits digits) else exponentOfDigits digits)
    else
      none

/-- Reads a decimal that makes up the whole text: an optional sign, digits with at most one point
among or around them and at least one digit in all, then an optional exponent. -/
def read? (text : List Char) : Option Decimal :=
  let (negative, unsigned) := readSign text
  let whole := unsigned.takeWhile Char.isDigit
  let (fraction, rest) := readFraction (unsigned.dropWhile Char.isDigit)
  if whole.isEmpty && fraction.isEmpty then
    none
  else
    (readExponent? rest).map fun exponent =>
      ⟨negative, valueOfDigits (whole ++ fraction), exponent - fraction.length⟩

/-! ## Writing -/

/-- The digits of the coefficient. -/
def digits (d : Decimal) : List Char :=
  Nat.toDigits 10 d.coefficient

/-- The text of `row · 10 ^ exponent` without an exponent: zeros fill the places between the digits
and the units, and a point has a digit on both sides. -/
def positional (row : List Char) : Int → List Char
  | .ofNat n => row ++ List.replicate n '0'
  | .negSucc n =>
    let filled := List.replicate (n + 2 - row.length) '0' ++ row
    filled.take (filled.length - (n + 1)) ++ '.' :: filled.drop (filled.length - (n + 1))

/-- The sign in front of a text. -/
def signed (negative : Bool) (text : List Char) : List Char :=
  if negative then '-' :: text else text

/-- The decimal without an exponent and without a plus sign. -/
def render (d : Decimal) : List Char :=
  signed d.negative (positional d.digits d.exponent)

/-- The power of ten that the first digit counts. -/
def scale (d : Decimal) : Int :=
  d.exponent + d.digits.length - 1

/-- The decimal with an exponent and one digit before the point. -/
def renderScientific (d : Decimal) : List Char :=
  let fraction := if d.digits.tail.isEmpty then [] else '.' :: d.digits.tail
  let exponent := signed (d.scale < 0) (Nat.toDigits 10 d.scale.natAbs)
  signed d.negative (d.digits.take 1 ++ fraction ++ 'e' :: exponent)

/-! ## Fewer digits -/

/-- The same value with no zero at the end of its coefficient. -/
def trimmed (d : Decimal) : Decimal :=
  let zeros := (d.digits.reverse.takeWhile (· == '0')).length
  { d with coefficient := d.coefficient / Nat.pow 10 zeros, exponent := d.exponent + zeros }

/-- The two decimals around `d` that have so many digits less, the nearer one first; of two equally
near ones, the one farther from zero is first. -/
def roundings (d : Decimal) (dropped : Nat) : List Decimal :=
  let unit := Nat.pow 10 dropped
  let below := { d with coefficient := d.coefficient / unit, exponent := d.exponent + dropped }
  let above := { below with coefficient := below.coefficient + 1 }
  if 2 * (d.coefficient % unit) < unit then [below.trimmed, above.trimmed]
  else [above.trimmed, below.trimmed]

example : read? ['-', '.', '2', '5'] = some ⟨true, 25, -2⟩ := by decide

example : read? ['1', 'e'] = none := by decide

example : render ⟨true, 25, -4⟩ = ['-', '0', '.', '0', '0', '2', '5'] := by decide

end Decimal

end Concatenative
