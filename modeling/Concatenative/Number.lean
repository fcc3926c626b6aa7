import Concatenative.Decimal

/-!
# Number texts

A number is written as the positional decimal with the fewest digits that reads back as the same
number; of two such decimals the nearer one is taken. The printer tries the candidates with the
reader itself, so what it finds reads back because it was read back; the exact decimal expansion,
which every finite number has, stands at the end of the search.
-/

namespace Concatenative.Number

/-- The number that a list of characters denotes, correctly rounded. -/
def ofText? (text : List Char) : Option Float :=
  (Decimal.read? text).map Decimal.toFloat

/-- The number that a token denotes, if it is a decimal. The names of infinity and of the undefined
number are not decimals. -/
def read? (token : String) : Option Float :=
  ofText? token.toList

/-- The decimal expansion of `± mantissa · 2 ^ exponent`, to the last digit. -/
def expansion (negative : Bool) (mantissa : Nat) (exponent : Int) : Decimal :=
  if 0 ≤ exponent then ⟨negative, mantissa * Nat.pow 2 exponent.toNat, 0⟩
  else ⟨negative, mantissa * Nat.pow 5 (-exponent).toNat, exponent⟩

/-- Whether a decimal is written as a text that reads as `x`. The decimal itself, which is shorter
than its text, is tried first. -/
def isWritten (x : Float) (d : Decimal) : Bool :=
  d.toFloat = x && ofText? d.render = some x

/-- The decimal of fewest digits near `full` whose text reads as `x`, or `full` itself when there is
none. -/
def shortest (x : Float) (full : Decimal) : Decimal :=
  let found := (List.range full.digits.length).reverse.findSome? fun dropped =>
    (full.roundings dropped).find? (isWritten x)
  found.getD full

/-- A number as the printer sees it: without a decimal, a zero, or a decimal to write. -/
inductive Shape
  | undefined
  | infinite (negative : Bool)
  | zero (negative : Bool)
  | decimal (value : Decimal)
deriving DecidableEq

/-- Whether a sign is the minus sign. -/
def isMinus : Float.Model.UnpackedFloat.Sign → Bool
  | .positive => false
  | .negative => true

/-- What is to be written for a number. -/
def shape (x : Float) : Shape :=
  match x.toModel.unpack with
  | .notANumber => .undefined
  | .infinity sign => .infinite (isMinus sign)
  | .zero sign => .zero (isMinus sign)
  | .finite sign mantissa exponent _ =>
    .decimal (shortest x (expansion (isMinus sign) mantissa exponent))

/-- The text of a number: positional, with a point only before a fraction. -/
def render (x : Float) : String :=
  match shape x with
  | .undefined => "NaN"
  | .infinite negative => if negative then "-inf" else "inf"
  | .zero negative => if negative then "-0" else "0"
  | .decimal value => String.ofList value.render

/-- The text of a number where its type must show: a point always, and an exponent below `1e-4` and
from `1e16` on. -/
def inspect (x : Float) : String :=
  match shape x with
  | .undefined => "NaN"
  | .infinite negative => if negative then "-inf" else "inf"
  | .zero negative => if negative then "-0.0" else "0.0"
  | .decimal value =>
    if value.scale < -4 || 16 ≤ value.scale then String.ofList value.renderScientific
    else if value.exponent < 0 then String.ofList value.render
    else String.ofList (value.render ++ ['.', '0'])

/-- What the search finds reads back, unless it ends at the expansion itself. -/
theorem ofText?_render_shortest (x : Float) (full : Decimal) :
    ofText? (shortest x full).render = some x ∨ shortest x full = full := by
  unfold shortest
  dsimp only
  cases h : (List.range full.digits.length).reverse.findSome? fun dropped =>
      (full.roundings dropped).find? (isWritten x) with
  | none => exact .inr rfl
  | some d =>
    obtain ⟨_, _, hit⟩ := List.exists_of_findSome?_eq_some h
    have written := List.find?_some hit
    simp only [isWritten, Bool.and_eq_true, decide_eq_true_eq] at written
    exact .inl written.2

example : read? "1e3" = some 1000 := by decide +kernel

example : read? "inf" = none := by decide +kernel

example : render 0.1 = "0.1" := by decide +kernel

example : render 1e23 = "100000000000000000000000" := by decide +kernel

end Concatenative.Number
