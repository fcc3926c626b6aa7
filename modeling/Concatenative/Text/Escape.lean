/-!
# Backslash escapes

A backslash and the character after it form a pair. `resolveEscapes` replaces each pair that a table
knows by the character it stands for, and keeps the other pairs and a backslash at the very end. Two
tables use it: a string literal knows only the pairs that it needs to hold its own delimiter, and
printed text knows the usual control characters too.

The scan goes through the text once from the left, so whether a backslash starts a pair depends on
the backslashes before it; the equations below say what happens at each step.
-/

namespace Concatenative.Text

/-- Resolves the pairs of `text` and puts the result after the reversed `done`. -/
def resolveEscapesOnto (meaning : Char → Option Char) (done : List Char) : List Char → List Char
  | [] => done.reverse
  | '\\' :: c :: rest =>
    match meaning c with
    | some d => resolveEscapesOnto meaning (d :: done) rest
    | none => resolveEscapesOnto meaning (c :: '\\' :: done) rest
  | c :: rest => resolveEscapesOnto meaning (c :: done) rest

/-- Replaces each backslash pair that `meaning` knows by the character it stands for. -/
def resolveEscapes (meaning : Char → Option Char) (text : List Char) : List Char :=
  resolveEscapesOnto meaning [] text

/-- The pairs of a string literal: an escaped quote and an escaped backslash. -/
def literalEscape (c : Char) : Option Char :=
  match c with
  | '"' => some '"'
  | '\\' => some '\\'
  | _ => none

/-- The pairs of printed text. -/
def printEscape (c : Char) : Option Char :=
  match c with
  | 'n' => some '\n'
  | 't' => some '\t'
  | 'r' => some '\r'
  | '0' => some '\x00'
  | '\\' => some '\\'
  | '"' => some '"'
  | '\'' => some '\''
  | _ => none

/-- The text that printing `text` writes. -/
def expandEscapes (text : String) : String :=
  String.ofList (resolveEscapes printEscape text.toList)

/-- The text that the body of a string literal stands for. -/
def decodeLiteral (body : List Char) : List Char :=
  resolveEscapes literalEscape body

/-- One character in the body of a string literal. -/
def encodeLiteralChar (c : Char) : List Char :=
  match c with
  | '"' => ['\\', '"']
  | '\\' => ['\\', '\\']
  | _ => [c]

/-- The body of a string literal that stands for `text`. -/
def encodeLiteral (text : List Char) : List Char :=
  text.flatMap encodeLiteralChar

/-! ## The scan, step by step -/

theorem resolveEscapesOnto_append (meaning : Char → Option Char) (text done front : List Char) :
    resolveEscapesOnto meaning (done ++ front) text =
      front.reverse ++ resolveEscapesOnto meaning done text := by
  fun_induction resolveEscapesOnto meaning done text with
  | case1 => simp [resolveEscapesOnto]
  | case2 done c rest d h ih => simpa [resolveEscapesOnto, h] using ih
  | case3 done c rest h ih => simpa [resolveEscapesOnto, h] using ih
  | case4 done c rest h ih =>
    rw [resolveEscapesOnto]
    · simpa using ih
    · exact h

theorem resolveEscapesOnto_eq (meaning : Char → Option Char) (done text : List Char) :
    resolveEscapesOnto meaning done text = done.reverse ++ resolveEscapes meaning text := by
  simpa [resolveEscapes] using resolveEscapesOnto_append meaning text [] done

@[simp]
theorem resolveEscapes_nil (meaning : Char → Option Char) : resolveEscapes meaning [] = [] := rfl

/-- A pair that the table knows becomes one character. -/
theorem resolveEscapes_pair {meaning : Char → Option Char} {c d : Char} (h : meaning c = some d)
    (rest : List Char) :
    resolveEscapes meaning ('\\' :: c :: rest) = d :: resolveEscapes meaning rest := by
  simp [resolveEscapes, resolveEscapesOnto, h, resolveEscapesOnto_eq meaning [d]]

/-- A pair that the table does not know is kept. -/
theorem resolveEscapes_unknown {meaning : Char → Option Char} {c : Char} (h : meaning c = none)
    (rest : List Char) :
    resolveEscapes meaning ('\\' :: c :: rest) = '\\' :: c :: resolveEscapes meaning rest := by
  simp [resolveEscapes, resolveEscapesOnto, h, resolveEscapesOnto_eq meaning [c, '\\']]

/-- A backslash with nothing after it is kept. -/
@[simp]
theorem resolveEscapes_lone (meaning : Char → Option Char) :
    resolveEscapes meaning ['\\'] = ['\\'] := rfl

/-- Any other character stands for itself. -/
theorem resolveEscapes_cons (meaning : Char → Option Char) {c : Char} (h : c ≠ '\\')
    (rest : List Char) : resolveEscapes meaning (c :: rest) = c :: resolveEscapes meaning rest := by
  rw [resolveEscapes, resolveEscapesOnto, resolveEscapesOnto_eq]
  · rfl
  · rintro _ _ rfl
    exact absurd rfl h

/-- The body of a literal stands for the text it was made from, whatever comes after it. -/
theorem decodeLiteral_encodeLiteral_append (text rest : List Char) :
    decodeLiteral (encodeLiteral text ++ rest) = text ++ decodeLiteral rest := by
  induction text with
  | nil => rfl
  | cons c text ih =>
    have step : ∀ rest',
        decodeLiteral (encodeLiteralChar c ++ rest') = c :: decodeLiteral rest' := by
      intro rest'
      unfold encodeLiteralChar
      split
      · exact resolveEscapes_pair (show literalEscape _ = some _ from rfl) rest'
      · exact resolveEscapes_pair (show literalEscape _ = some _ from rfl) rest'
      · exact resolveEscapes_cons _ ‹_› rest'
    simp only [encodeLiteral, List.flatMap_cons, List.append_assoc] at ih ⊢
    rw [step, ih, List.cons_append]

end Concatenative.Text
