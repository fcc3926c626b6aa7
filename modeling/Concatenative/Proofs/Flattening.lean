import Concatenative.Nesting
import Concatenative.Proofs.Contents

/-!
# Quotes as rows of pieces

A lexeme is an opening parenthesis, a closing one or a word, and a quote written out in full is a row
of such pieces. Lexemes whose pieces are those of a quote are read as that quote, as long as not too
many quotes are open at once (`Nesting.feed_of_flatten`).
-/

namespace Concatenative

/-- What a lexeme is to the parser. -/
inductive Piece
  | opening
  | closing
  | word (value : Word)
deriving DecidableEq

/-- The piece that a lexeme stands for. -/
def Lexeme.piece (lexeme : Lexeme) : Piece :=
  if lexeme.text = "(" then .opening
  else if lexeme.text = ")" then .closing
  else .word (.ofLexeme lexeme)

mutual

/-- The pieces of a word, a quote being written out between parentheses. -/
def Word.flatten : Word → List Piece
  | .quote words => .opening :: Quote.flatten words ++ [.closing]
  | word => [.word word]

/-- The pieces of the words of a quote. -/
def Quote.flatten : List Word → List Piece
  | [] => []
  | word :: words => word.flatten ++ Quote.flatten words

end

namespace Nesting

/-- A lexeme is read as its piece. -/
theorem step_eq (nesting : Nesting) (lexeme : Lexeme) :
    nesting.step lexeme =
      match lexeme.piece with
      | .opening => nesting.enter lexeme.line
      | .closing => nesting.leave lexeme.line
      | .word word => .ok (nesting.add word) := by
  unfold step Lexeme.piece
  by_cases opening : lexeme.text = "("
  · rw [if_pos opening, if_pos opening]
  · by_cases closing : lexeme.text = ")"
    · rw [if_neg opening, if_neg opening, if_pos closing, if_pos closing]
    · rw [if_neg opening, if_neg opening, if_neg closing, if_neg closing]

theorem feed_cons (nesting : Nesting) (lexeme : Lexeme) (lexemes : List Lexeme) :
    nesting.feed (lexeme :: lexemes) = nesting.step lexeme >>= (·.feed lexemes) :=
  List.foldlM_cons

theorem feed_single_word {nesting : Nesting} {lexemes : List Lexeme} {word : Word}
    (pieces : lexemes.map Lexeme.piece = [.word word]) :
    nesting.feed lexemes = .ok (nesting.add word) := by
  obtain ⟨lexeme, rfl, piece⟩ := List.map_eq_singleton_iff.1 pieces
  rw [feed_cons, step_eq, piece]
  rfl

mutual

/-- Lexemes with the pieces of a word are read as that word. -/
theorem feed_of_word_flatten : (word : Word) → (nesting : Nesting) → (lexemes : List Lexeme) →
    lexemes.map Lexeme.piece = word.flatten →
    nesting.outer.length + word.nesting ≤ depthLimit →
    nesting.feed lexemes = .ok (nesting.add word)
  | .number _, _, _, pieces, _ => feed_single_word pieces
  | .text _, _, _, pieces, _ => feed_single_word pieces
  | .truth _, _, _, pieces, _ => feed_single_word pieces
  | .symbol _, _, _, pieces, _ => feed_single_word pieces
  | .quote words, nesting, lexemes, pieces, room => by
    rw [Word.flatten, List.cons_append] at pieces
    rw [Word.nesting] at room
    obtain ⟨first, rest, rfl, opening, pieces⟩ := List.map_eq_cons_iff.1 pieces
    obtain ⟨middle, ends, rfl, inside, pieces⟩ := List.map_eq_append_iff.1 pieces
    obtain ⟨last, rfl, closing⟩ := List.map_eq_singleton_iff.1 pieces
    -- The parenthesis opens a quote inside, its words are read there, and the other one ends it.
    have below : nesting.outer.length < depthLimit := by omega
    have inner := feed_of_flatten words
      { words := [], outer := ⟨first.line, nesting.words⟩ :: nesting.outer } middle inside
      (by rw [List.length_cons]; omega)
    rw [feed_cons, step_eq, opening]
    show (nesting.enter first.line >>= fun opened => opened.feed (middle ++ [last])) = _
    rw [enter, if_pos below]
    show feed _ (middle ++ [last]) = _
    rw [feed_append, inner]
    show feed _ [last] = _
    rw [feed_cons, step_eq, closing]
    simp [leave, add, feed]

/-- Lexemes with the pieces of a quote are read as its words. -/
theorem feed_of_flatten : (words : List Word) → (nesting : Nesting) → (lexemes : List Lexeme) →
    lexemes.map Lexeme.piece = Quote.flatten words →
    nesting.outer.length + Quote.nesting words ≤ depthLimit →
    nesting.feed lexemes = .ok { nesting with words := words.reverse ++ nesting.words }
  | [], nesting, lexemes, pieces, _ => by
    rw [Quote.flatten, List.map_eq_nil_iff] at pieces
    rw [pieces]
    rfl
  | word :: words, nesting, lexemes, pieces, room => by
    rw [Quote.flatten] at pieces
    rw [Quote.nesting] at room
    obtain ⟨front, rest, rfl, first, others⟩ := List.map_eq_append_iff.1 pieces
    have read := feed_of_word_flatten word nesting front first (by omega)
    have readRest := feed_of_flatten words (nesting.add word) rest others (by
      show nesting.outer.length + _ ≤ _
      omega)
    rw [feed_append, read]
    show feed _ rest = _
    rw [readRest, List.reverse_cons, List.append_assoc]
    rfl

end

end Nesting

end Concatenative
