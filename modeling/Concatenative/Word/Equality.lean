import Concatenative.Word

/-!
# Structural equality of words

The comparison that programs can make. It follows the structure of the two words and compares
numbers as numbers, so the two zeros are the same and the undefined number differs from everything,
itself included, at any depth inside a quote. It is therefore not the equality `=` of words, and it
is kept apart from it.
-/

namespace Concatenative

mutual

/-- Whether a program takes two words for the same. -/
def Word.same : Word → Word → Bool
  | .number x, .number y => x == y
  | .text s, .text t => s == t
  | .truth a, .truth b => a == b
  | .symbol m, .symbol n => m == n
  | .quote p, .quote q => Quote.same p q
  | _, _ => false

/-- Whether two quotes have the same words, position by position. -/
def Quote.same : List Word → List Word → Bool
  | [], [] => true
  | v :: p, w :: q => v.same w && Quote.same p q
  | _, _ => false

end

/-- Words of different kinds are never the same. -/
theorem Word.kind_eq_of_same {v w : Word} (h : v.same w = true) : v.kind = w.kind := by
  cases v <;> cases w <;> simp_all [Word.same, Word.kind]

end Concatenative
