import Mathlib.Data.List.Induction
import Concatenative.Proofs.Flattening

/-!
# Parentheses in balance

Which lexemes stand for a quote, said by counting parentheses. The depth of a row of lexemes is the
number of its opening parentheses less that of its closing ones. Lexemes are read as a quote exactly
if no first part of them is too deep or below zero and all of them together have depth zero; the quote
is the only one with these pieces. Otherwise the first part that breaks the rule decides what is
reported, and if there is none, the last parenthesis that stays open (`Quote.ofLexemes_iff_balanced`).
-/

namespace Concatenative

/-! ## Depth -/

theorem Quote.flatten_append (front rest : Quote) :
    Quote.flatten (front ++ rest) = Quote.flatten front ++ Quote.flatten rest := by
  induction front with
  | nil => rfl
  | cons word front ih => rw [List.cons_append, Quote.flatten, ih, Quote.flatten, List.append_assoc]

namespace Lexeme

/-- How many more parentheses open than close. -/
def depth (lexemes : List Lexeme) : Int :=
  lexemes.countP (·.text == "(") - lexemes.countP (·.text == ")")

/-- Whether a row of lexemes closes no more than it opens, and leaves no more than 64 quotes open. -/
def InRange (lexemes : List Lexeme) : Prop :=
  0 ≤ depth lexemes ∧ depth lexemes ≤ 64

/-- Whether each first part of a row of lexemes is in range and nothing is left open in the end. -/
structure Balanced (lexemes : List Lexeme) : Prop where
  inRange : ∀ front, front <+: lexemes → InRange front
  depth : depth lexemes = 0

/-- Whether a parenthesis that opens just before `rest` has no match in it. -/
def StaysOpen (rest : List Lexeme) : Prop :=
  ∀ front, front <+: rest → 0 ≤ depth front

/-- The line and the words of the report about lexemes that are not in balance. The first part of them
that is out of range decides; if there is none, the last parenthesis that stays open. -/
inductive Refused (lexemes : List Lexeme) : (line : Nat) → (message : String) → Prop
  | unmatchedClose {front rest : List Lexeme} {lexeme : Lexeme}
    (split : lexemes = front ++ lexeme :: rest) (earlier : ∀ first, first <+: front → InRange first)
    (below : depth (front ++ [lexeme]) < 0) : Refused lexemes lexeme.line "unmatched close paren"
  | nestedTooDeeply {front rest : List Lexeme} {lexeme : Lexeme}
    (split : lexemes = front ++ lexeme :: rest) (earlier : ∀ first, first <+: front → InRange first)
    (above : 64 < depth (front ++ [lexeme])) :
    Refused lexemes lexeme.line "quotes nested too deeply"
  | unclosedOpen {front rest : List Lexeme} {opening : Lexeme}
    (split : lexemes = front ++ opening :: rest)
    (each : ∀ first, first <+: lexemes → InRange first) (text : opening.text = "(")
    (stays : StaysOpen rest)
    (last : ∀ between next after, rest = between ++ next :: after → next.text = "(" →
      ¬ StaysOpen after) : Refused lexemes opening.line "unclosed paren"

theorem depth_append (front rest : List Lexeme) :
    depth (front ++ rest) = depth front + depth rest := by
  simp only [depth, List.countP_append, Int.natCast_add]
  omega

theorem depth_singleton (lexeme : Lexeme) :
    depth [lexeme] =
      match lexeme.piece with
      | .opening => 1
      | .closing => -1
      | .word _ => 0 := by
  unfold piece
  by_cases opening : lexeme.text = "("
  · simp [depth, opening]
  · by_cases closing : lexeme.text = ")"
    · simp [depth, closing]
    · simp [depth, opening, closing]

theorem piece_eq_opening_iff {lexeme : Lexeme} : lexeme.piece = .opening ↔ lexeme.text = "(" := by
  unfold piece
  split
  · simp_all
  · split <;> simp_all

theorem eq_ofLexeme_of_piece {lexeme : Lexeme} {value : Word} (piece : lexeme.piece = .word value) :
    value = .ofLexeme lexeme := by
  unfold Lexeme.piece at piece
  split at piece
  · cases piece
  · split at piece
    · cases piece
    · exact (Piece.word.inj piece).symm

/-- A lexeme that is no parenthesis stands for a word of one piece. -/
theorem flatten_of_piece {lexeme : Lexeme} {value : Word} (piece : lexeme.piece = .word value) :
    value.flatten = [.word value] := by
  rw [eq_ofLexeme_of_piece piece]
  unfold Word.ofLexeme
  split
  · rfl
  · split
    · rfl
    · split
      · rfl
      · split <;> rfl

/-- Whether a row of lexemes closes exactly what it opens. -/
structure Closed (lexemes : List Lexeme) : Prop where
  staysOpen : StaysOpen lexemes
  depth : depth lexemes = 0

namespace Closed

theorem nil : Closed [] := by
  refine ⟨fun front first => ?_, rfl⟩
  rw [List.prefix_nil.1 first]
  exact Int.le_refl 0

theorem word {lexeme : Lexeme} {value : Word} (piece : lexeme.piece = .word value) :
    Closed [lexeme] := by
  have level : Lexeme.depth [lexeme] = 0 := by rw [depth_singleton, piece]
  refine ⟨fun front first => ?_, level⟩
  rcases List.prefix_concat_iff.1 (show front <+: [] ++ [lexeme] from first) with rfl | first
  · exact Int.le_of_eq level.symm
  · exact nil.staysOpen front first

theorem append {front rest : List Lexeme} (h : Closed front) (k : Closed rest) :
    Closed (front ++ rest) := by
  refine ⟨fun first => ?_, by rw [depth_append, h.depth, k.depth]; rfl⟩
  rintro ⟨others, split⟩
  -- The first part ends within `front`, or goes beyond it by a first part of `rest`.
  rcases List.append_eq_append_iff.1 split with ⟨middle, within, _⟩ | ⟨beyond, rfl, within⟩
  · exact h.staysOpen first ⟨middle, within.symm⟩
  · rw [depth_append, h.depth, Int.zero_add]
    exact k.staysOpen beyond ⟨others, within.symm⟩

/-- Two parentheses around what is closed. -/
theorem quote {opening closing : Lexeme} {middle : List Lexeme} (opens : opening.piece = .opening)
    (closes : closing.piece = .closing) (h : Closed middle) :
    Closed (opening :: (middle ++ [closing])) := by
  have up : Lexeme.depth [opening] = 1 := by rw [depth_singleton, opens]
  have down : Lexeme.depth [closing] = -1 := by rw [depth_singleton, closes]
  have whole : Lexeme.depth (opening :: (middle ++ [closing])) = 0 := by
    rw [← List.singleton_append, depth_append, depth_append, up, down, h.depth]
    rfl
  refine ⟨fun front first => ?_, whole⟩
  rcases List.prefix_cons_iff.1 first with rfl | ⟨inner, rfl, within⟩
  · exact Int.le_refl 0
  · rcases List.prefix_concat_iff.1 within with rfl | within
    · exact Int.le_of_eq whole.symm
    · have inside := h.staysOpen inner within
      rw [← List.singleton_append, depth_append, up]
      omega

/-- In a closed row each parenthesis that opens has its match. -/
theorem not_staysOpen {front rest : List Lexeme} {opening : Lexeme}
    (closed : Closed (front ++ opening :: rest)) (text : opening.text = "(") :
    ¬ StaysOpen rest := by
  intro stays
  have up : Lexeme.depth [opening] = 1 := by rw [depth_singleton, piece_eq_opening_iff.2 text]
  have before := closed.staysOpen front (List.prefix_append _ _)
  have after := stays rest List.prefix_rfl
  have whole := closed.depth
  rw [← List.singleton_append, depth_append, depth_append, up] at whole
  omega

end Closed

end Lexeme

/-! ## What has been read -/

namespace Nesting

/-- The pieces of what has been read so far. -/
def flatten (nesting : Nesting) : List Piece :=
  nesting.outer.reverse.flatMap (fun around => Quote.flatten around.words.reverse ++ [.opening]) ++
    Quote.flatten nesting.words.reverse

/-- Whether the quotes around the one being built were opened in a row of lexemes, each by a
parenthesis on its line, with only closed rows in between. -/
inductive Opened : List Lexeme → List Outer → Prop
  | outside {lexemes : List Lexeme} (closed : Lexeme.Closed lexemes) : Opened lexemes []
  | inside {front rest : List Lexeme} {opening : Lexeme} {around : Outer} {outer : List Outer}
    (h : Opened front outer) (opens : opening.piece = .opening) (line : around.line = opening.line)
    (closed : Lexeme.Closed rest) : Opened (front ++ opening :: rest) (around :: outer)

theorem Opened.append {lexemes more : List Lexeme} {outer : List Outer} (h : Opened lexemes outer)
    (closed : Lexeme.Closed more) : Opened (lexemes ++ more) outer := by
  cases h with
  | outside before => exact .outside (before.append closed)
  | inside h opens line before =>
    rw [List.append_assoc, List.cons_append]
    exact .inside h opens line (before.append closed)

/-- As many quotes are open as parentheses open and do not close. -/
theorem Opened.depth {lexemes : List Lexeme} {outer : List Outer} (h : Opened lexemes outer) :
    Lexeme.depth lexemes = outer.length := by
  induction h with
  | outside closed => exact closed.depth
  | @inside front rest opening around outer _ opens _ closed ih =>
    have up : Lexeme.depth [opening] = 1 := by rw [Lexeme.depth_singleton, opens]
    rw [← List.singleton_append, Lexeme.depth_append, Lexeme.depth_append, ih, up, closed.depth]
    simp

/-- The quote being built was opened by the last parenthesis that stays open. -/
theorem Opened.line_eq {lexemes front rest : List Lexeme} {opening : Lexeme}
    {outer : List Outer} (opened : Opened lexemes outer)
    (split : lexemes = front ++ opening :: rest) (text : opening.text = "(")
    (stays : Lexeme.StaysOpen rest)
    (last : ∀ between next after, rest = between ++ next :: after → next.text = "(" →
      ¬ Lexeme.StaysOpen after) :
    ∃ around others, outer = around :: others ∧ around.line = opening.line := by
  cases opened with
  | outside closed =>
    rw [split] at closed
    exact absurd stays (closed.not_staysOpen text)
  | @inside before inner lexeme around others _ opens line closed =>
    refine ⟨around, others, rfl, line.trans ?_⟩
    -- Of the two parentheses neither stands behind the other.
    rcases List.append_eq_append_iff.1 split with ⟨middle, _, same⟩ | ⟨middle, _, same⟩
    · cases middle with
      | nil => rw [(List.cons.inj same).1]
      | cons first middle =>
        rw [(List.cons.inj same).2] at closed
        exact absurd stays (closed.not_staysOpen text)
    · cases middle with
      | nil => rw [(List.cons.inj same).1]
      | cons first middle =>
        have text := Lexeme.piece_eq_opening_iff.1 opens
        exact absurd closed.staysOpen (last middle lexeme inner (List.cons.inj same).2 text)

/-- What holds of lexemes that were all accepted, and of what was made of them. -/
structure Reads (lexemes : List Lexeme) (nesting : Nesting) : Prop where
  inRange : ∀ front, front <+: lexemes → Lexeme.InRange front
  opened : Opened lexemes nesting.outer
  pieces : nesting.flatten = lexemes.map Lexeme.piece

theorem reads_nil : Reads [] {} := by
  refine ⟨fun front first => ?_, .outside .nil, rfl⟩
  rw [List.prefix_nil.1 first]
  exact ⟨Int.le_refl 0, by decide⟩

theorem flatten_add (nesting : Nesting) (word : Word) :
    (nesting.add word).flatten = nesting.flatten ++ word.flatten := by
  simp [flatten, add, Quote.flatten_append, Quote.flatten]

namespace Reads

variable {lexemes : List Lexeme} {lexeme : Lexeme} {nesting next : Nesting}

theorem concat (reads : Reads lexemes nesting) (opened : Opened (lexemes ++ [lexeme]) next.outer)
    (bound : next.outer.length ≤ depthLimit)
    (pieces : next.flatten = nesting.flatten ++ [lexeme.piece]) :
    Reads (lexemes ++ [lexeme]) next := by
  refine ⟨fun front first => ?_, opened, ?_⟩
  · rcases List.prefix_concat_iff.1 first with rfl | earlier
    · have level := opened.depth
      have limit : depthLimit = 64 := rfl
      constructor <;> omega
    · exact reads.inRange front earlier
  · rw [pieces, reads.pieces, List.map_append, List.map_singleton]

theorem opening (reads : Reads lexemes nesting) (opens : lexeme.piece = .opening)
    (room : nesting.outer.length < depthLimit) :
    Reads (lexemes ++ [lexeme])
      { words := [], outer := ⟨lexeme.line, nesting.words⟩ :: nesting.outer } := by
  refine reads.concat (.inside reads.opened opens rfl .nil) room ?_
  rw [opens]
  simp [flatten, Quote.flatten]

theorem closing {around : Outer} {outer : List Outer} (reads : Reads lexemes nesting)
    (closes : lexeme.piece = .closing) (inner : nesting.outer = around :: outer)
    (bound : nesting.outer.length ≤ depthLimit) :
    Reads (lexemes ++ [lexeme])
      { words := .quote nesting.words.reverse :: around.words, outer } := by
  have pieces : flatten { words := .quote nesting.words.reverse :: around.words, outer } =
      nesting.flatten ++ [.closing] := by
    simp [flatten, inner, Quote.flatten_append, Quote.flatten, Word.flatten]
  rw [inner, List.length_cons] at bound
  refine reads.concat ?_ (Nat.le_of_succ_le bound) (by rw [closes, pieces])
  -- What the parenthesis closes is closed now, so it adds nothing to what is open around it.
  have opened := reads.opened
  rw [inner] at opened
  cases opened with
  | inside before opens line closed =>
    rw [List.append_assoc]
    exact before.append (.quote opens closes closed)

theorem word {value : Word} (reads : Reads lexemes nesting) (piece : lexeme.piece = .word value)
    (bound : nesting.outer.length ≤ depthLimit) :
    Reads (lexemes ++ [lexeme]) (nesting.add value) := by
  refine reads.concat (reads.opened.append (.word piece)) bound ?_
  rw [flatten_add, Lexeme.flatten_of_piece piece, piece]

/-- What the next lexeme does: it is accepted, or the lexemes up to it are out of range. -/
theorem step (reads : Reads lexemes nesting) (lexeme : Lexeme) :
    (∃ next, nesting.step lexeme = .ok next ∧ Reads (lexemes ++ [lexeme]) next) ∨
    nesting.step lexeme = .error ⟨lexeme.line, .unmatchedClose⟩ ∧
      Lexeme.depth (lexemes ++ [lexeme]) < 0 ∨
    nesting.step lexeme = .error ⟨lexeme.line, .nestedTooDeeply⟩ ∧
      64 < Lexeme.depth (lexemes ++ [lexeme]) := by
  have level := reads.opened.depth
  have bound : nesting.outer.length ≤ depthLimit := by
    have limit : depthLimit = 64 := rfl
    have range := (reads.inRange lexemes List.prefix_rfl).2
    omega
  rw [step_eq, Lexeme.depth_append, Lexeme.depth_singleton]
  -- Only an opening parenthesis can make it too deep, and only a closing one can go below zero.
  cases piece : lexeme.piece with
  | opening =>
    by_cases room : nesting.outer.length < depthLimit
    · exact .inl ⟨_, if_pos room, reads.opening piece room⟩
    · refine .inr (.inr ⟨if_neg room, ?_⟩)
      have limit : depthLimit = 64 := rfl
      dsimp only
      omega
  | closing =>
    cases inner : nesting.outer with
    | nil =>
      refine .inr (.inl ⟨by rw [leave, inner], ?_⟩)
      rw [level, inner]
      decide
    | cons around outer =>
      exact .inl ⟨_, by rw [leave, inner], reads.closing piece inner bound⟩
  | word value => exact .inl ⟨_, rfl, reads.word piece bound⟩

end Reads

/-- Lexemes are all accepted, or they are accepted up to one that is not. -/
theorem feed_cases (lexemes : List Lexeme) :
    (∃ nesting, ({} : Nesting).feed lexemes = .ok nesting ∧ Reads lexemes nesting) ∨
    ∃ front lexeme rest nesting error, lexemes = front ++ lexeme :: rest ∧
      ({} : Nesting).feed front = .ok nesting ∧ Reads front nesting ∧
      nesting.step lexeme = .error error := by
  -- Lexemes come in at the end, so the induction takes them off there.
  induction lexemes using List.reverseRecOn with
  | nil => exact .inl ⟨{}, rfl, reads_nil⟩
  | append_singleton front lexeme ih =>
    rcases ih with
      ⟨nesting, fed, reads⟩ | ⟨first, refused, rest, nesting, error, rfl, fed, reads, stop⟩
    · rcases reads.step lexeme with ⟨next, accepted, reads'⟩ | ⟨stop, _⟩ | ⟨stop, _⟩
      · refine .inl ⟨next, ?_, reads'⟩
        rw [feed_append, fed]
        show feed nesting [lexeme] = _
        rw [feed_cons, accepted]
        rfl
      · exact .inr ⟨front, lexeme, [], nesting, _, rfl, fed, reads, stop⟩
      · exact .inr ⟨front, lexeme, [], nesting, _, rfl, fed, reads, stop⟩
    · refine .inr ⟨first, refused, rest ++ [lexeme], nesting, error, ?_, fed, reads, stop⟩
      rw [List.append_assoc, List.cons_append]

/-- Lexemes of which each first part is in range are all accepted. -/
theorem feed_of_inRange {lexemes : List Lexeme}
    (inRange : ∀ front, front <+: lexemes → Lexeme.InRange front) :
    ∃ nesting, ({} : Nesting).feed lexemes = .ok nesting ∧ Reads lexemes nesting := by
  rcases feed_cases lexemes with accepted | ⟨front, lexeme, rest, nesting, error, rfl, _, reads, stop⟩
  · exact accepted
  · have range := inRange (front ++ [lexeme]) ⟨rest, by rw [List.append_assoc]; rfl⟩
    rcases reads.step lexeme with ⟨_, accepted, _⟩ | ⟨_, below⟩ | ⟨_, above⟩
    · rw [stop] at accepted
      cases accepted
    · exact absurd range.1 (by omega)
    · exact absurd range.2 (by omega)

/-- The first lexeme that is not accepted decides. -/
theorem feed_of_step_error {front rest : List Lexeme} {lexeme : Lexeme} {nesting : Nesting}
    {error : Malformed} (fed : ({} : Nesting).feed front = .ok nesting)
    (stop : nesting.step lexeme = .error error) :
    ({} : Nesting).feed (front ++ lexeme :: rest) = .error error := by
  rw [feed_append, fed]
  show feed nesting (lexeme :: rest) = _
  rw [feed_cons, stop]
  rfl

end Nesting

/-! ## Pieces and nesting -/

/-- How many more parentheses open than close. -/
def Piece.depth (pieces : List Piece) : Int :=
  pieces.count .opening - pieces.count .closing

theorem Piece.depth_append (front rest : List Piece) :
    depth (front ++ rest) = depth front + depth rest := by
  simp only [depth, List.count_append, Int.natCast_add]
  omega

theorem Lexeme.depth_eq (lexemes : List Lexeme) :
    depth lexemes = Piece.depth (lexemes.map piece) := by
  induction lexemes with
  | nil => rfl
  | cons lexeme lexemes ih =>
    rw [← List.singleton_append, depth_append, List.map_append, Piece.depth_append, ih,
      depth_singleton, List.map_singleton]
    cases lexeme.piece <;> rfl

mutual

/-- A word written out is as deep somewhere as it is nested, and closes what it opens. -/
theorem Word.exists_prefix_flatten : (word : Word) →
    (∃ front, front <+: word.flatten ∧ Piece.depth front = word.nesting) ∧
      Piece.depth word.flatten = 0
  | .number _ | .text _ | .truth _ | .symbol _ => ⟨⟨[], List.nil_prefix, rfl⟩, rfl⟩
  | .quote words => by
    obtain ⟨⟨front, first, deep⟩, closed⟩ := Quote.exists_prefix_flatten words
    have up : Piece.depth [.opening] = 1 := rfl
    have down : Piece.depth [.closing] = -1 := rfl
    rw [Word.flatten, Word.nesting, List.cons_append]
    refine ⟨⟨.opening :: front, (List.prefix_cons_inj _).2 (first.trans (List.prefix_append _ _)),
      ?_⟩, ?_⟩
    · rw [← List.singleton_append, Piece.depth_append, up, deep]
      omega
    · rw [← List.singleton_append, Piece.depth_append, Piece.depth_append, up, closed, down]
      rfl

theorem Quote.exists_prefix_flatten : (words : List Word) →
    (∃ front, front <+: Quote.flatten words ∧ Piece.depth front = Quote.nesting words) ∧
      Piece.depth (Quote.flatten words) = 0
  | [] => ⟨⟨[], List.nil_prefix, rfl⟩, rfl⟩
  | word :: words => by
    obtain ⟨⟨front, first, deep⟩, closed⟩ := Word.exists_prefix_flatten word
    obtain ⟨⟨front', first', deep'⟩, closed'⟩ := Quote.exists_prefix_flatten words
    rw [Quote.flatten, Quote.nesting]
    refine ⟨?_, by rw [Piece.depth_append, closed, closed']; rfl⟩
    -- The deeper of the two is where the whole is deepest.
    rcases Nat.le_total (Quote.nesting words) word.nesting with deeper | deeper
    · exact ⟨front, first.trans (List.prefix_append _ _), by rw [deep, Nat.max_eq_left deeper]⟩
    · refine ⟨word.flatten ++ front', (List.prefix_append_right_inj _).2 first', ?_⟩
      rw [Piece.depth_append, closed, deep', Nat.max_eq_right deeper, Int.zero_add]

end

namespace Quote

variable {lexemes : List Lexeme} {words : Quote}

theorem nesting_le_of_inRange (inRange : ∀ front, front <+: lexemes → Lexeme.InRange front)
    (pieces : Quote.flatten words = lexemes.map Lexeme.piece) :
    Quote.nesting words ≤ Nesting.depthLimit := by
  obtain ⟨⟨front, first, deep⟩, _⟩ := exists_prefix_flatten words
  rw [pieces] at first
  obtain ⟨deepest, within, rfl⟩ := List.prefix_map_iff.1 first
  have bound := (inRange deepest within).2
  have limit : Nesting.depthLimit = 64 := rfl
  rw [Lexeme.depth_eq, deep] at bound
  omega

/-! ## What is read and what is refused -/

theorem ofLexemes_of_feed {nesting : Nesting} (fed : ({} : Nesting).feed lexemes = .ok nesting) :
    ofLexemes lexemes = nesting.finish := by
  rw [ofLexemes, fed]
  rfl

theorem ofLexemes_of_feed_error {error : Malformed}
    (fed : ({} : Nesting).feed lexemes = .error error) : ofLexemes lexemes = .error error := by
  rw [ofLexemes, fed]
  rfl

/-- Lexemes in balance are read, piece by piece. -/
theorem ofLexemes_of_balanced (balanced : Lexeme.Balanced lexemes) :
    ∃ words, ofLexemes lexemes = .ok words ∧ Quote.flatten words = lexemes.map Lexeme.piece := by
  obtain ⟨nesting, fed, reads⟩ := Nesting.feed_of_inRange balanced.inRange
  have level := reads.opened.depth
  have pieces := reads.pieces
  have outside : nesting.outer = [] := by
    rw [balanced.depth] at level
    exact List.length_eq_zero_iff.1 (by omega)
  refine ⟨nesting.words.reverse, ?_, ?_⟩
  · rw [ofLexemes_of_feed fed, Nesting.finish, outside]
  · rw [← pieces, Nesting.flatten, outside]
    rfl

/-- Lexemes in balance with the pieces of a quote are read as that quote. -/
theorem ofLexemes_of_flatten (balanced : Lexeme.Balanced lexemes)
    (pieces : Quote.flatten words = lexemes.map Lexeme.piece) : ofLexemes lexemes = .ok words := by
  have bound := nesting_le_of_inRange balanced.inRange pieces
  have fed := Nesting.feed_of_flatten words {} lexemes pieces.symm (by simpa using bound)
  rw [ofLexemes_of_feed fed]
  simp [Nesting.finish]

end Quote

namespace Lexeme

/-- Lexemes are in balance, or there is a report about them. -/
theorem balanced_or_refused (lexemes : List Lexeme) :
    Balanced lexemes ∨ ∃ line message, Refused lexemes line message := by
  rcases Nesting.feed_cases lexemes with
    ⟨nesting, _, inRange, opened, _⟩ | ⟨front, lexeme, rest, nesting, error, split, _, reads, stop⟩
  · generalize nesting.outer = outer at opened
    cases opened with
    | outside closed => exact .inl ⟨inRange, closed.depth⟩
    | inside _ opens _ closed =>
      refine .inr ⟨_, _, .unclosedOpen rfl inRange (piece_eq_opening_iff.1 opens) closed.staysOpen ?_⟩
      rintro between next after rfl text
      exact closed.not_staysOpen text
  · rcases reads.step lexeme with ⟨_, accepted, _⟩ | ⟨_, below⟩ | ⟨_, above⟩
    · rw [stop] at accepted
      cases accepted
    · exact .inr ⟨_, _, .unmatchedClose split reads.inRange below⟩
    · exact .inr ⟨_, _, .nestedTooDeeply split reads.inRange above⟩

end Lexeme

namespace Quote

variable {lexemes : List Lexeme}

/-- A report about lexemes is the one they are refused with. -/
theorem ofLexemes_of_refused {line : Nat} {message : String}
    (refused : Lexeme.Refused lexemes line message) :
    ∃ cause : Malformation, cause.message = message ∧ ofLexemes lexemes = .error ⟨line, cause⟩ := by
  cases refused with
  | @unmatchedClose front rest lexeme split earlier below =>
    obtain ⟨nesting, fed, reads⟩ := Nesting.feed_of_inRange earlier
    refine ⟨.unmatchedClose, rfl, ?_⟩
    rcases reads.step lexeme with ⟨_, _, reads'⟩ | ⟨stop, _⟩ | ⟨_, above⟩
    · exact absurd (reads'.inRange _ List.prefix_rfl).1 (by omega)
    · rw [split]
      exact ofLexemes_of_feed_error (Nesting.feed_of_step_error fed stop)
    · omega
  | @nestedTooDeeply front rest lexeme split earlier above =>
    obtain ⟨nesting, fed, reads⟩ := Nesting.feed_of_inRange earlier
    refine ⟨.nestedTooDeeply, rfl, ?_⟩
    rcases reads.step lexeme with ⟨_, _, reads'⟩ | ⟨_, below⟩ | ⟨stop, _⟩
    · exact absurd (reads'.inRange _ List.prefix_rfl).2 (by omega)
    · omega
    · rw [split]
      exact ofLexemes_of_feed_error (Nesting.feed_of_step_error fed stop)
  | unclosedOpen split each text stays last =>
    obtain ⟨nesting, fed, reads⟩ := Nesting.feed_of_inRange each
    obtain ⟨around, others, inside, same⟩ := reads.opened.line_eq split text stays last
    refine ⟨.unclosedOpen, rfl, ?_⟩
    rw [ofLexemes_of_feed fed, Nesting.finish, inside, ← same]

/-- What is read has the pieces of the lexemes. -/
theorem flatten_of_ofLexemes {words : Quote} (read : ofLexemes lexemes = .ok words) :
    Lexeme.Balanced lexemes ∧ Quote.flatten words = lexemes.map Lexeme.piece := by
  rcases Lexeme.balanced_or_refused lexemes with balanced | ⟨line, message, refused⟩
  · obtain ⟨same, read', pieces⟩ := ofLexemes_of_balanced balanced
    rw [read] at read'
    cases read'
    exact ⟨balanced, pieces⟩
  · obtain ⟨cause, _, stop⟩ := ofLexemes_of_refused refused
    rw [read] at stop
    cases stop

/-- Lexemes are read as a quote exactly if they are in balance and the quote has their pieces, as one
quote only has; all others are refused with the report that their parentheses ask for. -/
theorem ofLexemes_iff_balanced (lexemes : List Lexeme) :
    (∀ words, ofLexemes lexemes = .ok words ↔
      Lexeme.Balanced lexemes ∧ Quote.flatten words = lexemes.map Lexeme.piece) ∧
    (Lexeme.Balanced lexemes → ∃! words, Quote.flatten words = lexemes.map Lexeme.piece) ∧
    ∀ error, ofLexemes lexemes = .error error ↔
      Lexeme.Refused lexemes error.line error.cause.message := by
  refine ⟨fun words => ⟨flatten_of_ofLexemes, fun h => ofLexemes_of_flatten h.1 h.2⟩, ?_, ?_⟩
  · intro balanced
    obtain ⟨words, read, pieces⟩ := ofLexemes_of_balanced balanced
    refine ⟨words, pieces, fun other same => ?_⟩
    have read' := ofLexemes_of_flatten balanced same
    rw [read] at read'
    exact (Except.ok.inj read').symm
  · refine fun error => ⟨fun stop => ?_, fun refused => ?_⟩
    · rcases Lexeme.balanced_or_refused lexemes with balanced | ⟨line, message, refused⟩
      · obtain ⟨words, read, _⟩ := ofLexemes_of_balanced balanced
        rw [stop] at read
        cases read
      · obtain ⟨cause, rfl, stop'⟩ := ofLexemes_of_refused refused
        rw [stop] at stop'
        cases stop'
        exact refused
    · obtain ⟨cause, same, stop⟩ := ofLexemes_of_refused refused
      rw [stop, Malformation.message_inj.1 same]

/-! ## Whole sources -/

section Sources

variable {source : String} {words : Quote} (read : Quote.ofSource source = .ok words)

include read

/-- The pieces of a program are those of the lexemes of its source, which are in balance. -/
theorem exists_lexemes_of_ofSource :
    ∃ lexemes, Lexeme.scan source = .ok lexemes ∧ Lexeme.Balanced lexemes ∧
      Quote.flatten words = lexemes.map Lexeme.piece := by
  unfold Quote.ofSource at read
  cases scanned : Lexeme.scan source with
  | error error =>
    rw [scanned] at read
    cases read
  | ok lexemes =>
    rw [scanned] at read
    obtain ⟨balanced, pieces⟩ := flatten_of_ofLexemes read
    exact ⟨lexemes, rfl, balanced, pieces⟩

/-- A program that a source stands for is nested no more deeply than the parser admits. -/
theorem nesting_le_of_ofSource : Quote.nesting words ≤ Nesting.depthLimit := by
  obtain ⟨lexemes, _, balanced, pieces⟩ := exists_lexemes_of_ofSource read
  exact nesting_le_of_inRange balanced.inRange pieces

end Sources

end Quote

end Concatenative
