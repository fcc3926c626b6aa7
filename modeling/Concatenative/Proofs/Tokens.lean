import Mathlib.Data.List.Chain
import Concatenative.Proofs.Spelling

/-!
# Sources as rows of tokens

A source is a row of tokens with gaps between them: parentheses, literals and bare tokens, and between
them blanks and comments. What tokens and gaps are is said here by a grammar (`Token`, `Gap`,
`Layout`) that knows nothing of a scanner. The lexemes of such a row are its tokens, each with its
line (`Cut.lexemes`).
-/

namespace Concatenative

/-! ## The grammar -/

/-- What may stand between the quotes of a literal: characters other than the quote and the backslash,
and backslashes with any one character behind each. -/
inductive LiteralBody : List Char → Prop
  | nil : LiteralBody []
  | plain {c : Char} {rest : List Char} (quote : c ≠ '"') (backslash : c ≠ '\\')
    (h : LiteralBody rest) : LiteralBody (c :: rest)
  | escape (c : Char) {rest : List Char} (h : LiteralBody rest) : LiteralBody ('\\' :: c :: rest)

/-- Whether the text behind the first quote of a literal nowhere ends the literal. -/
def NeverClosed (rest : List Char) : Prop :=
  ∀ body tail, LiteralBody body → rest ≠ body ++ '"' :: tail

/-- The shapes of tokens. -/
inductive Shape
  | parenthesis
  | literal
  | bare
deriving DecidableEq

/-- The tokens of each shape. -/
inductive Token : Shape → List Char → Prop
  | opening : Token .parenthesis ['(']
  | closing : Token .parenthesis [')']
  | literal {body : List Char} (h : LiteralBody body) : Token .literal ('"' :: (body ++ ['"']))
  | bare {text : List Char} (filled : text ≠ [])
    (undelimited : ∀ c ∈ text, Text.isBlank c = false ∧ c ∉ ['(', ')', '"', '#']) :
    Token .bare text

/-- What may stand between two tokens, or at an end of the source: blanks, and comments, each of them
up to a line break or the end. What comes behind the gap starts with `next`. -/
inductive Gap (next : List Char) : List Char → Prop
  | nil : Gap next []
  | blank {c : Char} {gap : List Char} (blank : Text.isBlank c = true) (h : Gap next gap) :
    Gap next (c :: gap)
  | comment {text gap : List Char} (line : '\n' ∉ text)
    (ended : ∀ c ∈ (gap ++ next).head?, c = '\n') (h : Gap next gap) :
    Gap next ('#' :: (text ++ gap))

/-- A token and the gap before it. -/
structure Cut where
  gap : List Char
  shape : Shape
  token : List Char

namespace Cut

def text (cut : Cut) : List Char :=
  cut.gap ++ cut.token

/-- The text that cuts in a row make up. -/
def texts (cuts : List Cut) : List Char :=
  cuts.flatMap text

/-- The tokens of cuts in a row that stand behind the text `before`, each with its line: one more than
there are line breaks before its first character. -/
def lexemes (before : List Char) : List Cut → List Lexeme
  | [] => []
  | cut :: cuts =>
    ⟨String.ofList cut.token, 1 + (before ++ cut.gap).count '\n'⟩ ::
      lexemes (before ++ cut.text) cuts

/-- Whether two cuts can stand in a row: between two bare tokens there has to be something. -/
def Separate (cut next : Cut) : Prop :=
  cut.shape = .bare → next.shape = .bare → next.gap ≠ []

end Cut

/-- Whether cuts are made in the right places. -/
structure Layout (cuts : List Cut) : Prop where
  gap : ∀ cut ∈ cuts, Gap cut.token cut.gap
  token : ∀ cut ∈ cuts, Token cut.shape cut.token
  separate : cuts.IsChain Cut.Separate

/-! ## Parts of the grammar -/

theorem Token.ne_nil {shape : Shape} {token : List Char} (h : Token shape token) : token ≠ [] := by
  cases h with
  | bare filled _ => exact filled
  | _ => exact List.cons_ne_nil _ _

theorem Token.head_ne_newline {shape : Shape} {token : List Char} (h : Token shape token) {c : Char}
    (head : c ∈ token.head?) : c ≠ '\n' := by
  rintro rfl
  cases h with
  | bare _ undelimited =>
    have blank := (undelimited '\n' (List.mem_of_mem_head? head)).1
    exact absurd blank (by decide)
  | _ => simp at head

/-- The tokens with the form of a literal are the literals. -/
theorem Token.isLiteral_iff {shape : Shape} {token : List Char} (h : Token shape token)
    (line : Nat) : (⟨String.ofList token, line⟩ : Lexeme).isLiteral = true ↔ shape = .literal := by
  unfold Lexeme.isLiteral
  cases h with
  | opening | closing => simp [Lexeme.literalBody?]
  | literal h =>
    rw [Lexeme.literalBody?_literal]
    simp
  | bare filled undelimited =>
    have unquoted : Lexeme.literalBody? ⟨String.ofList token, line⟩ = none := by
      unfold Lexeme.literalBody?
      split
      · next rest chars =>
        rw [String.toList_ofList] at chars
        have quote := (undelimited '"' (by simp [chars])).2
        simp at quote
      · rfl
    simp [unquoted]

/-- A gap goes on with another one that has the same behind it. -/
theorem Gap.append {next gap more : List Char} (front : Gap (more ++ next) gap)
    (rest : Gap next more) : Gap next (gap ++ more) := by
  induction front with
  | nil => exact rest
  | blank blank _ ih => exact .blank blank ih
  | @comment text gap line ended _ ih =>
    rw [List.cons_append, List.append_assoc]
    refine .comment line ?_ ih
    rwa [List.append_assoc]

theorem LiteralBody.append {front rest : List Char} (h : LiteralBody front)
    (k : LiteralBody rest) : LiteralBody (front ++ rest) := by
  induction h with
  | nil => exact k
  | plain quote backslash _ ih => exact .plain quote backslash ih
  | escape c _ ih => exact .escape c ih

/-- A body, with or without a backslash behind it that waits for its character, closes no literal. -/
theorem LiteralBody.neverClosed {body pending : List Char} (h : LiteralBody body)
    (waits : pending = [] ∨ pending = ['\\']) : NeverClosed (body ++ pending) := by
  intro other tail k same
  -- Both sides start with the same unit until the one on the right comes to its quote.
  induction h generalizing other with
  | nil =>
    rcases waits with rfl | rfl
    · cases other <;> simp at same
    · cases k <;> simp at same
  | plain quote backslash _ ih =>
    cases k with
    | nil => exact quote (List.cons.inj same).1
    | plain _ _ k => exact ih _ k (List.cons.inj same).2
    | escape _ k => exact backslash (List.cons.inj same).1
  | escape c _ ih =>
    cases k with
    | nil => simp at same
    | plain _ backslash k => exact backslash (List.cons.inj same).1.symm
    | escape d k => exact ih _ k (List.cons.inj (List.cons.inj same).2).2

theorem Layout.concat {cuts : List Cut} {cut : Cut} (layout : Layout cuts)
    (gap : Gap cut.token cut.gap) (token : Token cut.shape cut.token)
    (separate : ∀ last ∈ cuts.getLast?, last.Separate cut) : Layout (cuts ++ [cut]) where
  gap := by
    simpa [or_imp, forall_and] using ⟨layout.gap, gap⟩
  token := by
    simpa [or_imp, forall_and] using ⟨layout.token, token⟩
  separate := by
    refine layout.separate.append (.singleton cut) fun last mem next head => ?_
    rw [List.head?_cons, Option.mem_some] at head
    exact head ▸ separate last mem

namespace Cut

theorem texts_cons (cut : Cut) (cuts : List Cut) :
    texts (cut :: cuts) = cut.text ++ texts cuts :=
  List.flatMap_cons

theorem texts_concat (cuts : List Cut) (cut : Cut) :
    texts (cuts ++ [cut]) = texts cuts ++ cut.text := by
  simp [texts]

/-- The lexemes that have the form of literals are those of the cuts with this shape. -/
theorem map_isLiteral_lexemes {cuts : List Cut} (tokens : ∀ cut ∈ cuts, Token cut.shape cut.token)
    (before : List Char) :
    (lexemes before cuts).map Lexeme.isLiteral = cuts.map (·.shape == .literal) := by
  induction cuts generalizing before with
  | nil => rfl
  | cons cut cuts ih =>
    rw [List.forall_mem_cons] at tokens
    rw [lexemes, List.map_cons, List.map_cons, ih tokens.2]
    congr 1
    rw [Bool.eq_iff_iff, tokens.1.isLiteral_iff, beq_iff_eq]

/-- Every lexeme is the token of a cut. -/
theorem exists_of_mem_lexemes {cuts : List Cut} {before : List Char} {lexeme : Lexeme}
    (mem : lexeme ∈ lexemes before cuts) :
    ∃ cut ∈ cuts, lexeme.text = String.ofList cut.token := by
  induction cuts generalizing before with
  | nil => cases mem
  | cons cut cuts ih =>
    rw [lexemes, List.mem_cons] at mem
    rcases mem with rfl | mem
    · exact ⟨cut, List.mem_cons_self, rfl⟩
    · obtain ⟨other, listed, same⟩ := ih mem
      exact ⟨other, List.mem_cons_of_mem cut listed, same⟩

end Cut

end Concatenative
