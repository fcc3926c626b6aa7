import Concatenative.Word

/-!
# What is inside a word

The symbols and the numbers of a word, wherever in it they stand, and how deeply its quotes are
nested.
-/

namespace Concatenative

mutual

/-- The names of the symbols in a word, at any depth. -/
def Word.symbols : Word → List String
  | .symbol name => [name]
  | .quote words => Quote.symbols words
  | _ => []

/-- The names of the symbols in the words of a quote, at any depth. -/
def Quote.symbols : List Word → List String
  | [] => []
  | word :: words => word.symbols ++ Quote.symbols words

end

mutual

/-- The numbers in a word, at any depth. -/
def Word.numbers : Word → List Float
  | .number value => [value]
  | .quote words => Quote.numbers words
  | _ => []

/-- The numbers in the words of a quote, at any depth. -/
def Quote.numbers : List Word → List Float
  | [] => []
  | word :: words => word.numbers ++ Quote.numbers words

end

mutual

/-- How deeply a word is nested: not at all, or for a quote one level more than its deepest word. -/
def Word.nesting : Word → Nat
  | .quote words => Quote.nesting words + 1
  | _ => 0

/-- The greatest nesting of the words of a quote. -/
def Quote.nesting : List Word → Nat
  | [] => 0
  | word :: words => max word.nesting (Quote.nesting words)

end

namespace Quote

variable {words : Quote} {word : Word}

theorem mem_symbols_of_mem {name : String} (mem : word ∈ words) (inside : name ∈ word.symbols) :
    name ∈ Quote.symbols words := by
  induction mem with
  | head words => exact List.mem_append_left _ inside
  | tail other _ ih => exact List.mem_append_right _ ih

theorem mem_numbers_of_mem {value : Float} (mem : word ∈ words) (inside : value ∈ word.numbers) :
    value ∈ Quote.numbers words := by
  induction mem with
  | head words => exact List.mem_append_left _ inside
  | tail other _ ih => exact List.mem_append_right _ ih

theorem symbols_eq_flatMap (words : Quote) : Quote.symbols words = words.flatMap Word.symbols := by
  induction words with
  | nil => rfl
  | cons word words ih => rw [Quote.symbols, ih, List.flatMap_cons]

theorem numbers_eq_flatMap (words : Quote) : Quote.numbers words = words.flatMap Word.numbers := by
  induction words with
  | nil => rfl
  | cons word words ih => rw [Quote.numbers, ih, List.flatMap_cons]

theorem nesting_le_iff {n : Nat} :
    Quote.nesting words ≤ n ↔ ∀ word ∈ words, word.nesting ≤ n := by
  induction words with
  | nil => simp [Quote.nesting]
  | cons word words ih => rw [Quote.nesting, Nat.max_le, ih, List.forall_mem_cons]

end Quote

end Concatenative
