import Mathlib.Data.List.Forall2
import Concatenative.Fault
import Concatenative.Proofs.Contents

/-!
# Words that match up to names

Two words match when they have the same shape, the same numbers, texts and truth values, and when
each symbol on the left stands opposite a symbol that `names` allows on the right. Three choices of
`names` matter: equality, where matching is equality (`Word.Matches.eq`); equality on some names
only, where matching a word with itself says that no other name occurs in it
(`Word.matches_self_iff`); and the graph of a renaming.
-/

namespace Concatenative

/-! ## Matching -/

/-- Whether two words differ at most in their symbols, and there only as `names` allows. -/
inductive Word.Matches (names : String → String → Prop) : Word → Word → Prop
  | number (value : Float) : Matches names (.number value) (.number value)
  | text (value : String) : Matches names (.text value) (.text value)
  | truth (value : Bool) : Matches names (.truth value) (.truth value)
  | symbol {m n : String} (h : names m n) : Matches names (.symbol m) (.symbol n)
  | quote {p q : List Word} (h : List.Forall₂ (Matches names) p q) :
    Matches names (.quote p) (.quote q)

/-- Whether two quotes have as many words, which match one by one. -/
abbrev Quote.Matches (names : String → String → Prop) (p q : Quote) : Prop :=
  List.Forall₂ (Word.Matches names) p q

variable {names : String → String → Prop}

theorem Quote.matches_cons {v w : Word} {p q : Quote} :
    Quote.Matches names (v :: p) (w :: q) ↔ v.Matches names w ∧ Quote.Matches names p q :=
  List.forall₂_cons

namespace Word.Matches

variable {v w : Word}

theorem kind_eq (h : v.Matches names w) : v.kind = w.kind := by
  cases h <;> rfl

/-! What each way of looking into a word sees on the two sides. -/

theorem number? (h : v.Matches names w) : Option.Rel (· = ·) v.number? w.number? := by
  cases h <;> constructor
  rfl

theorem text? (h : v.Matches names w) : Option.Rel (· = ·) v.text? w.text? := by
  cases h <;> constructor
  rfl

theorem truth? (h : v.Matches names w) : Option.Rel (· = ·) v.truth? w.truth? := by
  cases h <;> constructor
  rfl

theorem quote? (h : v.Matches names w) :
    Option.Rel (Quote.Matches names) v.quote? w.quote? := by
  cases h <;> constructor
  assumption

end Word.Matches

/-! ## Matching and equality -/

mutual

/-- Where `names` allows equal names only, words that match are equal. -/
theorem Word.Matches.eq (unchanged : ∀ m n, names m n → m = n) :
    {v w : Word} → v.Matches names w → v = w
  | _, _, .number _ | _, _, .text _ | _, _, .truth _ => rfl
  | _, _, .symbol h => by rw [unchanged _ _ h]
  | _, _, .quote h => by rw [Quote.Matches.eq unchanged h]

/-- Where `names` allows equal names only, quotes that match are equal. -/
theorem Quote.Matches.eq (unchanged : ∀ m n, names m n → m = n) :
    {p q : List Word} → Quote.Matches names p q → p = q
  | _, _, .nil => rfl
  | _, _, .cons head tail => by rw [head.eq unchanged, Quote.Matches.eq unchanged tail]

end

/-- Where `names` allows equal names only, a quote that matches any matches itself. -/
theorem Quote.Matches.self_left (unchanged : ∀ m n, names m n → m = n) {p q : Quote}
    (h : Quote.Matches names p q) : Quote.Matches names p p := by
  have same := h.eq unchanged
  subst same
  exact h

mutual

/-- A word matches itself when `names` allows each of its symbols as it stands. -/
theorem Word.matches_self_iff :
    (v : Word) → (v.Matches names v ↔ ∀ name ∈ v.symbols, names name name)
  | .number value => by simp [Word.symbols, Word.Matches.number value]
  | .text value => by simp [Word.symbols, Word.Matches.text value]
  | .truth value => by simp [Word.symbols, Word.Matches.truth value]
  | .symbol name => by
    simp only [Word.symbols, List.mem_singleton, forall_eq]
    exact ⟨fun h => by cases h; assumption, .symbol⟩
  | .quote words => by
    rw [Word.symbols, ← Quote.matches_self_iff words]
    exact ⟨fun h => by cases h; assumption, .quote⟩

/-- A quote matches itself when `names` allows each of its symbols as it stands. -/
theorem Quote.matches_self_iff :
    (q : List Word) → (Quote.Matches names q q ↔ ∀ name ∈ Quote.symbols q, names name name)
  | [] => by simp [Quote.symbols]
  | word :: words => by
    rw [Quote.matches_cons, Word.matches_self_iff word, Quote.matches_self_iff words, Quote.symbols]
    simp only [List.mem_append, or_imp, forall_and]

end

/-- Where `names` allows every name as it stands, every quote matches itself. -/
theorem Quote.matches_self (kept : ∀ name, names name name) (q : Quote) :
    Quote.Matches names q q :=
  (Quote.matches_self_iff q).2 fun name _ => kept name

/-! ## Matching faults -/

/-- Whether two faults have the same cause up to the names they mention. Running out of levels is
left out: no word causes it by itself. -/
inductive Fault.Matches (names : String → String → Prop) : Fault → Fault → Prop
  | unknown {m n : String} (h : names m n) : Matches names (.unknown m) (.unknown n)
  | unnameable {p q : Quote} (h : Quote.Matches names p q) :
    Matches names (.unnameable p) (.unnameable q)
  | reserved {m n : String} (h : names m n) : Matches names (.reserved m) (.reserved n)
  | alreadyDefined {m n : String} (h : names m n) :
    Matches names (.alreadyDefined m) (.alreadyDefined n)
  | malformed (error : Malformed) : Matches names (.malformed error) (.malformed error)
  | mismatch (accepted : List Kind) (found : Option Kind) :
    Matches names (.mismatch accepted found) (.mismatch accepted found)
  | divisionByZero : Matches names .divisionByZero .divisionByZero
  | unconsEmpty : Matches names .unconsEmpty .unconsEmpty
  | notNumeric (text : String) : Matches names (.notNumeric text) (.notNumeric text)
  | emptySymbol : Matches names .emptySymbol .emptySymbol
  | access (path : String) (obstacle : Obstacle) :
    Matches names (.access path obstacle) (.access path obstacle)
  | exit : Matches names .exit .exit

namespace Fault.Matches

variable {f g : Fault}

/-- Where `names` allows equal names only, faults that match are equal. -/
theorem eq (unchanged : ∀ m n, names m n → m = n) (h : f.Matches names g) : f = g := by
  cases h with
  | unknown h | reserved h | alreadyDefined h => rw [unchanged _ _ h]
  | unnameable h => rw [h.eq unchanged]
  | _ => rfl

theorem ne_tooDeep (h : f.Matches names g) (limit : Nat) : f ≠ .tooDeep limit := by
  cases h <;> simp

end Fault.Matches

end Concatenative
