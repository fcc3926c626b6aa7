/-!
# Words

Every value is a word: a number, a text, a truth value, a symbol, or a quote, which is a list of
words and serves both as data and as a program. A quote is a plain list, so that joining, taking
apart and folding programs are the operations of lists.
-/

namespace Concatenative

/-- A value of the language. -/
inductive Word
  | number (value : Float)
  | text (value : String)
  | truth (value : Bool)
  | symbol (name : String)
  | quote (words : List Word)

/-- A program that has not been run. -/
abbrev Quote := List Word

/-- The five kinds of word. -/
inductive Kind
  | number
  | text
  | truth
  | symbol
  | quote
deriving DecidableEq

namespace Kind

/-- The short name of a kind, as `type` reports it. -/
def tag : Kind → String
  | number => "num"
  | text => "str"
  | truth => "bool"
  | symbol => "symb"
  | quote => "block"

/-- All kinds, in the order in which they are listed. -/
def all : List Kind :=
  [number, text, truth, symbol, quote]

/-- A choice of kinds as a message shows it: the tags between braces. -/
def describe (kinds : List Kind) : String :=
  "\x7b" ++ ", ".intercalate (kinds.map tag) ++ "\x7d"

/-- The kind with a given tag. -/
def ofTag? (name : String) : Option Kind :=
  all.find? (·.tag == name)

theorem mem_all (kind : Kind) : kind ∈ all := by
  cases kind <;> decide

end Kind

namespace Word

/-- The kind of a word. -/
def kind : Word → Kind
  | number _ => .number
  | text _ => .text
  | truth _ => .truth
  | symbol _ => .symbol
  | quote _ => .quote

/-- The number that a word holds. -/
def number? : Word → Option Float
  | number value => some value
  | _ => none

/-- The text that a word holds. -/
def text? : Word → Option String
  | text value => some value
  | _ => none

/-- The truth value that a word holds. -/
def truth? : Word → Option Bool
  | truth value => some value
  | _ => none

/-- The words of a quote. -/
def quote? : Word → Option Quote
  | quote words => some words
  | _ => none

end Word

namespace Quote

/-- The name in a quote that is exactly one symbol, the form in which a definition is named. -/
def singleSymbol? : Quote → Option String
  | [.symbol name] => some name
  | _ => none

/-- The first word of a quote and the others. -/
def uncons? : Quote → Option (Word × Quote)
  | [] => none
  | head :: tail => some (head, tail)

end Quote

/-! ## Decidable equality -/

mutual

/-- Whether two words are equal. -/
def Word.decEq : (v w : Word) → Decidable (v = w)
  | .number x, .number y => decidable_of_iff (x = y) (by simp)
  | .text s, .text t => decidable_of_iff (s = t) (by simp)
  | .truth a, .truth b => decidable_of_iff (a = b) (by simp)
  | .symbol m, .symbol n => decidable_of_iff (m = n) (by simp)
  | .quote p, .quote q =>
    match Quote.decEq p q with
    | isTrue h => isTrue (h ▸ rfl)
    | isFalse h => isFalse (by simpa using h)
  | .number _, .text _ => isFalse nofun
  | .number _, .truth _ => isFalse nofun
  | .number _, .symbol _ => isFalse nofun
  | .number _, .quote _ => isFalse nofun
  | .text _, .number _ => isFalse nofun
  | .text _, .truth _ => isFalse nofun
  | .text _, .symbol _ => isFalse nofun
  | .text _, .quote _ => isFalse nofun
  | .truth _, .number _ => isFalse nofun
  | .truth _, .text _ => isFalse nofun
  | .truth _, .symbol _ => isFalse nofun
  | .truth _, .quote _ => isFalse nofun
  | .symbol _, .number _ => isFalse nofun
  | .symbol _, .text _ => isFalse nofun
  | .symbol _, .truth _ => isFalse nofun
  | .symbol _, .quote _ => isFalse nofun
  | .quote _, .number _ => isFalse nofun
  | .quote _, .text _ => isFalse nofun
  | .quote _, .truth _ => isFalse nofun
  | .quote _, .symbol _ => isFalse nofun

/-- Whether two quotes are equal. -/
def Quote.decEq : (p q : List Word) → Decidable (p = q)
  | [], [] => isTrue rfl
  | [], _ :: _ => isFalse nofun
  | _ :: _, [] => isFalse nofun
  | v :: p, w :: q =>
    match Word.decEq v w, Quote.decEq p q with
    | isTrue h, isTrue k => isTrue (by rw [h, k])
    | isFalse h, _ => isFalse (by simp [h])
    | _, isFalse k => isFalse (by simp [k])

end

instance : DecidableEq Word := Word.decEq

example : Word.quote [.number 1, .symbol "dup"] ≠ .quote [.number 1, .text "dup"] := by decide

end Concatenative
