import Concatenative.Text.CodePoints

/-!
# Blank characters

The characters that separate words of a source and that `trim` removes: those with the property
White_Space, which is wider than the ASCII blanks.
-/

namespace Concatenative.Text

/-- The code points with the property White_Space. -/
def blankCodePoints : CodePoints :=
  [(0x09, 0x0d), (0x20, 0x20), (0x85, 0x85), (0xa0, 0xa0), (0x1680, 0x1680), (0x2000, 0x200a),
    (0x2028, 0x2029), (0x202f, 0x202f), (0x205f, 0x205f), (0x3000, 0x3000)]

/-- Whether `c` has the property White_Space. -/
def isBlank (c : Char) : Bool :=
  blankCodePoints.has c

/-- The text without the blanks at both ends. -/
def trimBlanks (text : List Char) : List Char :=
  ((text.dropWhile isBlank).reverse.dropWhile isBlank).reverse

/-- The string without the blanks at both ends. -/
def trim (text : String) : String :=
  String.ofList (trimBlanks text.toList)

example : isBlank '\n' = true ∧ isBlank '\u2003' = true ∧ isBlank '\u200b' = false := by decide

end Concatenative.Text
