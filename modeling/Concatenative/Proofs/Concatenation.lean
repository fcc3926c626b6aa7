import Concatenative.Proofs.Evolution
import Concatenative.Proofs.Flattening

/-!
# Programs in a row

Two quotes joined into one run as they do one after the other (`evaluate_append`), and two sources
with a line break between them stand for the two programs joined
(`Quote.ofSource_append_newline`). A source read so far down is read as it is from the top, with all
its lines counted from there; the line break ends whatever comment or bare word stands before it.
-/

namespace Concatenative

open Exec

/-! ## Quotes -/

/-- Running joined quotes is running one after the other, whatever happens in between. -/
theorem evaluate_append (limit : Nat) (front rest : Quote) :
    evaluate limit (front ++ rest) =
      (evaluate limit front >>= fun _ => evaluate limit rest) := by
  funext machine
  show evaluateWithin limit (limit - machine.depth) (front ++ rest) machine =
    EStateM.bind (evaluate limit front) (fun _ => evaluate limit rest) machine
  unfold EStateM.bind evaluate
  cases levels : limit - machine.depth with
  | zero => rfl
  | succ left =>
    have level := (evolves (Quote.perform (evaluateWithin limit left) front)
      { machine with depth := machine.depth + 1 }).depth
    simp only [evaluateWithin, deeper, Quote.perform_append, bind, EStateM.bind]
    cases result : Quote.perform (evaluateWithin limit left) front
        { machine with depth := machine.depth + 1 } with
    | error fault after => rfl
    | ok value after =>
      -- The first quote comes back to the level it started on, so the second one has as many left.
      rw [result] at level
      obtain ⟨stack, vocabulary, depth, sink, disk, log⟩ := after
      have same : depth = machine.depth + 1 := level
      subst same
      simp only [Nat.add_sub_cancel, levels, evaluateWithin, deeper]

/-! ## Lexemes further down -/

/-- The same malformation so many lines further down. -/
def Malformed.lower (lines : Nat) (error : Malformed) : Malformed :=
  { error with line := error.line + lines }

/-- The same lexeme so many lines further down. -/
def Lexeme.lower (lines : Nat) (lexeme : Lexeme) : Lexeme :=
  { lexeme with line := lexeme.line + lines }

namespace Scanner

/-- The same place so many lines further down. -/
def Place.lower (lines : Nat) : Place → Place
  | gap => gap
  | comment => comment
  | bare start read => bare (start + lines) read
  | literal start read => literal (start + lines) read
  | escape start read => escape (start + lines) read

/-- The scanner so many lines further down, behind lexemes that were found before. -/
def lower (lines : Nat) (earlier : List Lexeme) (scanner : Scanner) : Scanner where
  line := scanner.line + lines
  place := scanner.place.lower lines
  found := scanner.found.map (·.lower lines) ++ earlier

variable (lines : Nat) (earlier : List Lexeme) (scanner : Scanner)

theorem advance_lower (c : Char) :
    (scanner.lower lines earlier).advance c = (scanner.advance c).lower lines earlier := by
  unfold advance
  split
  · simp [lower, Nat.add_right_comm]
  · rfl

theorem fromGap_lower (c : Char) :
    (scanner.lower lines earlier).fromGap c = (scanner.fromGap c).lower lines earlier := by
  rw [fromGap, fromGap]
  simp only [apply_ite (lower lines earlier)]
  rfl

theorem enter_lower (c : Char) :
    (scanner.lower lines earlier).enter c = (scanner.enter c).lower lines earlier := by
  obtain ⟨line, place, found⟩ := scanner
  cases place with
  | gap => exact fromGap_lower lines earlier ⟨line, .gap, found⟩ c
  | comment =>
    simp only [enter, apply_ite (lower lines earlier)]
    rfl
  | bare start read =>
    simp only [enter, apply_ite (lower lines earlier), ← fromGap_lower]
    rfl
  | literal start read =>
    simp only [enter, apply_ite (lower lines earlier)]
    rfl
  | escape start read => rfl

/-- A text is read further down as it is from the top. -/
theorem feed_lower (text : List Char) :
    (scanner.lower lines earlier).feed text = (scanner.feed text).lower lines earlier := by
  induction text generalizing scanner with
  | nil => rfl
  | cons c text ih =>
    have next : (scanner.lower lines earlier).step c = (scanner.step c).lower lines earlier := by
      rw [step, enter_lower, advance_lower, step]
    rw [feed_cons, next, ih, feed_cons]

theorem finish_lower :
    (scanner.lower lines earlier).finish =
      match scanner.finish with
      | .ok lexemes => .ok (earlier.reverse ++ lexemes.map (·.lower lines))
      | .error error => .error (error.lower lines) := by
  obtain ⟨line, place, found⟩ := scanner
  cases place <;> simp [finish, lower, Place.lower, emit, Malformed.lower, Lexeme.lower]

/-! ## The line break -/

variable {lines earlier scanner}

theorem line_fromGap (c : Char) : (scanner.fromGap c).line = scanner.line := by
  rw [fromGap]
  simp only [apply_ite Scanner.line, emit, ite_self]

theorem line_enter (c : Char) : (scanner.enter c).line = scanner.line := by
  obtain ⟨line, place, found⟩ := scanner
  cases place with
  | gap => exact line_fromGap c
  | bare start read => simp only [enter, apply_ite Scanner.line, line_fromGap, emit, ite_self]
  | _ => simp only [enter, apply_ite Scanner.line, emit, ite_self]

/-- Lines are counted by their breaks, wherever these stand. -/
theorem line_feed (text : List Char) :
    (scanner.feed text).line = scanner.line + text.count '\n' := by
  induction text generalizing scanner with
  | nil => rfl
  | cons c text ih =>
    rw [feed_cons, ih, List.count_cons, step, advance]
    split
    · simp only [line_enter]
      omega
    · rw [line_enter]
      omega

/-- Where a source may end, a line break leaves nothing pending. -/
theorem step_newline {lexemes : List Lexeme} (ended : scanner.finish = .ok lexemes) :
    scanner.step '\n' = ⟨scanner.line + 1, .gap, lexemes.reverse⟩ := by
  obtain ⟨line, place, found⟩ := scanner
  cases place <;> simp [finish] at ended <;> subst ended
  case gap => simp; rfl
  case comment => simp; rfl
  case bare start read => simp; rfl

end Scanner

/-- A source behind a line break is cut into the same lexemes, so many lines further down. -/
theorem Lexeme.scan_append_newline {front : String} {lexemes : List Lexeme}
    (scanned : scan front = .ok lexemes) (rest : String) :
    scan (front ++ "\n" ++ rest) =
      match scan rest with
      | .ok others => .ok (lexemes ++ others.map (·.lower (front.toList.count '\n' + 1)))
      | .error error => .error (error.lower (front.toList.count '\n' + 1)) := by
  have begun : (({} : Scanner).feed front.toList).step '\n' =
      ({} : Scanner).lower (front.toList.count '\n' + 1) lexemes.reverse := by
    rw [Scanner.step_newline scanned, Scanner.line_feed]
    rfl
  have read : (front ++ "\n" ++ rest).toList = front.toList ++ '\n' :: rest.toList := by
    simp
  rw [scan, read, Scanner.feed_append, Scanner.feed_cons, begun, Scanner.feed_lower,
    Scanner.finish_lower, List.reverse_reverse]
  rfl

/-! ## Quotes behind words that were read before -/

/-- Whether two readings both succeed, with results that `values` relates, or both fail with the same
malformation, which is so many lines further down on the right. -/
inductive Malformed.Lowered {α β : Type} (lines : Nat) (values : α → β → Prop) :
    Except Malformed α → Except Malformed β → Prop
  | ok {a : α} {b : β} (value : values a b) : Lowered lines values (.ok a) (.ok b)
  | error (error : Malformed) : Lowered lines values (.error error) (.error (error.lower lines))

namespace Nesting

/-- Whether the right nesting is the left one behind words that were read before, so many lines
further down. -/
inductive Behind (earlier : List Word) (lines : Nat) : Nesting → Nesting → Prop
  | outside (words : List Word) : Behind earlier lines ⟨words, []⟩ ⟨words ++ earlier, []⟩
  | inside (words : List Word) (line : Nat) {around around' : List Word}
    {outer outer' : List Outer} (h : Behind earlier lines ⟨around, outer⟩ ⟨around', outer'⟩) :
    Behind earlier lines ⟨words, ⟨line, around⟩ :: outer⟩
      ⟨words, ⟨line + lines, around'⟩ :: outer'⟩

variable {earlier : List Word} {lines : Nat} {left right : Nesting}

namespace Behind

theorem length_outer (h : Behind earlier lines left right) :
    right.outer.length = left.outer.length := by
  induction h with
  | outside words => rfl
  | inside words line _ ih => simpa using ih

theorem add (h : Behind earlier lines left right) (word : Word) :
    Behind earlier lines (left.add word) (right.add word) := by
  cases h with
  | outside words => exact .outside (word :: words)
  | inside words line h => exact .inside (word :: words) line h

theorem enter (h : Behind earlier lines left right) (line : Nat) :
    Malformed.Lowered lines (Behind earlier lines) (left.enter line)
      (right.enter (line + lines)) := by
  unfold Nesting.enter
  rw [h.length_outer]
  split
  · exact .ok (.inside [] line h)
  · exact .error ⟨line, .nestedTooDeeply⟩

theorem leave (h : Behind earlier lines left right) (line : Nat) :
    Malformed.Lowered lines (Behind earlier lines) (left.leave line)
      (right.leave (line + lines)) := by
  cases h with
  | outside words => exact .error ⟨line, .unmatchedClose⟩
  | inside words opened h => exact .ok (h.add (.quote words.reverse))

theorem step (h : Behind earlier lines left right) (lexeme : Lexeme) :
    Malformed.Lowered lines (Behind earlier lines) (left.step lexeme)
      (right.step (lexeme.lower lines)) := by
  have piece : (lexeme.lower lines).piece = lexeme.piece := rfl
  rw [step_eq, step_eq, piece]
  cases lexeme.piece with
  | opening => exact h.enter lexeme.line
  | closing => exact h.leave lexeme.line
  | word word => exact .ok (h.add word)

theorem feed (h : Behind earlier lines left right) (lexemes : List Lexeme) :
    Malformed.Lowered lines (Behind earlier lines) (left.feed lexemes)
      (right.feed (lexemes.map (·.lower lines))) := by
  induction lexemes generalizing left right with
  | nil => exact .ok h
  | cons lexeme lexemes ih =>
    have first := h.step lexeme
    rw [List.map_cons, feed_cons, feed_cons]
    generalize left.step lexeme = result at first ⊢
    generalize right.step (lexeme.lower lines) = result' at first ⊢
    cases first with
    | ok next => exact ih next
    | error error => exact .error error

theorem finish (h : Behind earlier lines left right) :
    Malformed.Lowered lines (fun words words' => words' = earlier.reverse ++ words) left.finish
      right.finish := by
  cases h with
  | outside words => exact .ok List.reverse_append
  | inside words line h => exact .error ⟨line, .unclosedOpen⟩

/-- Lexemes behind others are read as they are alone, behind the words of the others. -/
theorem read (h : Behind earlier lines left right) (lexemes : List Lexeme) :
    Malformed.Lowered lines (fun words words' => words' = earlier.reverse ++ words)
      (left.feed lexemes >>= Nesting.finish)
      (right.feed (lexemes.map (·.lower lines)) >>= Nesting.finish) := by
  have fed := h.feed lexemes
  generalize left.feed lexemes = result at fed ⊢
  generalize right.feed (lexemes.map (·.lower lines)) = result' at fed ⊢
  cases fed with
  | ok h => exact h.finish
  | error error => exact .error error

end Behind

/-- Lexemes that stand for words leave no quote open. -/
theorem feed_of_ofLexemes {lexemes : List Lexeme} {words : Quote}
    (read : Quote.ofLexemes lexemes = .ok words) :
    ({} : Nesting).feed lexemes = .ok ⟨words.reverse, []⟩ := by
  unfold Quote.ofLexemes at read
  cases fed : ({} : Nesting).feed lexemes with
  | error error =>
    rw [fed] at read
    cases read
  | ok nesting =>
    rw [fed] at read
    obtain ⟨reversed, outer⟩ := nesting
    cases outer with
    | cons around outer => cases read
    | nil =>
      have same : reversed.reverse = words := Except.ok.inj read
      rw [← same, List.reverse_reverse]

end Nesting

/-- Lexemes further down, behind others that stand for words. -/
theorem Quote.ofLexemes_append {lexemes : List Lexeme} {words : Quote}
    (read : Quote.ofLexemes lexemes = .ok words) (lines : Nat) (others : List Lexeme) :
    Quote.ofLexemes (lexemes ++ others.map (·.lower lines)) =
      match Quote.ofLexemes others with
      | .ok others => .ok (words ++ others)
      | .error error => .error (error.lower lines) := by
  -- Before the others nothing is open, so to them the words are only more of the outermost quote.
  have start : Nesting.Behind words.reverse lines {} ⟨words.reverse, []⟩ := .outside []
  have behind := start.read others
  rw [List.reverse_reverse] at behind
  have joined : Quote.ofLexemes (lexemes ++ others.map (·.lower lines)) =
      (Nesting.feed ⟨words.reverse, []⟩ (others.map (·.lower lines)) >>= Nesting.finish) := by
    rw [Quote.ofLexemes, Nesting.feed_append, Nesting.feed_of_ofLexemes read]
    rfl
  rw [joined, Quote.ofLexemes]
  generalize (({} : Nesting).feed others >>= Nesting.finish) = result at behind ⊢
  generalize (Nesting.feed ⟨words.reverse, []⟩ (others.map (·.lower lines)) >>=
    Nesting.finish) = result' at behind ⊢
  cases behind with
  | ok same => rw [same]
  | error error => rfl

/-- A source behind a line break stands for its own program behind the one before. If it is
malformed, so is the whole, so many lines further down. -/
theorem Quote.ofSource_append_newline {front : String} {words : Quote}
    (read : Quote.ofSource front = .ok words) (rest : String) :
    Quote.ofSource (front ++ "\n" ++ rest) =
      match Quote.ofSource rest with
      | .ok others => .ok (words ++ others)
      | .error error => .error (error.lower (front.toList.count '\n' + 1)) := by
  unfold Quote.ofSource at read ⊢
  cases scanned : Lexeme.scan front with
  | error error =>
    rw [scanned] at read
    cases read
  | ok lexemes =>
    rw [scanned] at read
    rw [Lexeme.scan_append_newline scanned]
    cases Lexeme.scan rest with
    | error error => rfl
    | ok others => exact Quote.ofLexemes_append read _ others

/-- Behind a source that stands for a program and a line break, exactly the sources that stand for
programs make the whole stand for one, which is then both programs joined. The whole is malformed in
the way the second source is, further down by the lines of the first one: the line break between them
and those it holds, in comments and literals as elsewhere. -/
theorem Quote.ofSource_append_newline_iff {front : String} {words : Quote}
    (read : Quote.ofSource front = .ok words) (rest : String) :
    (∀ whole, Quote.ofSource (front ++ "\n" ++ rest) = .ok whole ↔
      ∃ others, Quote.ofSource rest = .ok others ∧ whole = words ++ others) ∧
    ∀ line cause, Quote.ofSource (front ++ "\n" ++ rest) = .error ⟨line, cause⟩ ↔
      ∃ alone, Quote.ofSource rest = .error ⟨alone, cause⟩ ∧
        line = alone + 1 + front.toList.count '\n' := by
  have joined := Quote.ofSource_append_newline read rest
  cases second : Quote.ofSource rest with
  | ok others =>
    rw [second] at joined
    refine ⟨fun whole => ?_, fun line cause => ?_⟩
    · rw [joined]
      simp [eq_comm]
    · rw [joined]
      simp
  | error error =>
    rw [second] at joined
    obtain ⟨alone, reason⟩ := error
    have lines : alone + (front.toList.count '\n' + 1) = alone + 1 + front.toList.count '\n' := by
      omega
    refine ⟨fun whole => ?_, fun line cause => ?_⟩
    · rw [joined]
      simp
    · rw [joined]
      simp only [Malformed.lower, lines]
      constructor
      · intro same
        cases same
        exact ⟨alone, rfl, rfl⟩
      · rintro ⟨alone', same, rfl⟩
        cases same
        rfl

/-- A first source with a line break inside a literal and a comment at its end, and a second one that
is never closed. -/
theorem Quote.ofSource_append_newline_iff_unclosed :
    Quote.ofSource "\"a\nb\" # (" = .ok [.text "a\nb"] ∧
    Quote.ofSource "\n(" = .error ⟨2, .unclosedOpen⟩ ∧
    Quote.ofSource ("\"a\nb\" # (" ++ "\n" ++ "\n(") = .error ⟨4, .unclosedOpen⟩ := by
  have first : Quote.ofSource "\"a\nb\" # (" = .ok [.text "a\nb"] := rfl
  have second : Quote.ofSource "\n(" = .error ⟨2, .unclosedOpen⟩ := rfl
  obtain ⟨-, malformed⟩ := Quote.ofSource_append_newline_iff first "\n("
  have whole := (malformed 4 .unclosedOpen).2 ⟨2, second, rfl⟩
  exact ⟨first, second, whole⟩

end Concatenative
