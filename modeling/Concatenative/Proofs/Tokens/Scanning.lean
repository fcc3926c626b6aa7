import Concatenative.Proofs.Concatenation
import Concatenative.Proofs.Tokens

/-!
# Scanning finds the tokens

The scanner finds exactly what the grammar of tokens says (`Lexeme.scan_iff_layout`). While it reads,
it stands somewhere in a row of tokens (`Scanner.Stands`), so that every text is such a row or ends
inside a literal; and reading a row of tokens leaves these tokens (`Scanner.feed_texts`).
-/

namespace Concatenative

namespace Scanner

/-! ## Where the scanner stands -/

/-- The characters of bare tokens are those that end none. -/
theorem undelimited_iff_token {c : Char} :
    isDelimiter c = false ↔ Text.isBlank c = false ∧ c ∉ ['(', ')', '"', '#'] := by
  rw [undelimited_iff]
  simp

/-- What the text read so far is in the grammar, where the scanner stands at a place. All comments in
the last gap have come to their ends, except for the one the scanner stands in. -/
inductive Stands : (text : List Char) → Place → Prop
  | gap {cuts : List Cut} {gap : List Char} (layout : Layout cuts) (ended : ∀ next, Gap next gap)
    (separate : ∀ cut ∈ cuts.getLast?, cut.shape = .bare → gap ≠ []) :
    Stands (Cut.texts cuts ++ gap) .gap
  | comment {cuts : List Cut} {gap comment : List Char} (layout : Layout cuts)
    (ended : ∀ next, Gap next gap) (line : '\n' ∉ comment) :
    Stands (Cut.texts cuts ++ (gap ++ '#' :: comment)) .comment
  | bare {cuts : List Cut} {gap read : List Char} (start : Nat) (layout : Layout cuts)
    (ended : ∀ next, Gap next gap)
    (separate : ∀ cut ∈ cuts.getLast?, cut.shape = .bare → gap ≠ [])
    (token : Token .bare read.reverse) :
    Stands (Cut.texts cuts ++ (gap ++ read.reverse)) (.bare start read)
  | literal {cuts : List Cut} {gap body : List Char} (start : Nat) (layout : Layout cuts)
    (ended : ∀ next, Gap next gap) (h : LiteralBody body) :
    Stands (Cut.texts cuts ++ (gap ++ '"' :: body)) (.literal start (body.reverse ++ ['"']))
  | escape {cuts : List Cut} {gap body : List Char} (start : Nat) (layout : Layout cuts)
    (ended : ∀ next, Gap next gap) (h : LiteralBody body) :
    Stands (Cut.texts cuts ++ (gap ++ '"' :: (body ++ ['\\'])))
      (.escape start ('\\' :: (body.reverse ++ ['"'])))

namespace Stands

variable {cuts : List Cut} {scanner : Scanner} {gap : List Char}

/-- Behind a token that ends by itself there is nothing yet. -/
theorem behind {shape : Shape} {text : List Char} (layout : Layout cuts)
    (ended : ∀ next, Gap next gap) (token : Token shape text) (other : shape ≠ .bare) :
    Stands (Cut.texts cuts ++ (gap ++ text)) .gap := by
  have layout' : Layout (cuts ++ [⟨gap, shape, text⟩]) :=
    layout.concat (ended text) token fun _ _ _ bare => absurd bare other
  have nothing : Stands (Cut.texts (cuts ++ [⟨gap, shape, text⟩]) ++ []) .gap := by
    refine .gap layout' (fun _ => .nil) fun last mem bare => ?_
    rw [List.getLast?_concat, Option.mem_some] at mem
    subst mem
    exact absurd bare other
  rwa [List.append_nil, Cut.texts_concat] at nothing

/-- What a character does that belongs to no token begun earlier. -/
theorem fromGap (layout : Layout cuts) (ended : ∀ next, Gap next gap) (c : Char)
    (separate : isDelimiter c = false → ∀ cut ∈ cuts.getLast?, cut.shape = .bare → gap ≠ []) :
    Stands (Cut.texts cuts ++ (gap ++ [c])) (scanner.fromGap c).place := by
  unfold Scanner.fromGap
  by_cases blank : Text.isBlank c = true
  · rw [if_pos blank]
    have more : ∀ next, Gap next (gap ++ [c]) := fun next =>
      (ended ([c] ++ next)).append (.blank blank .nil)
    exact .gap layout more fun _ _ _ => by simp
  rw [if_neg blank]
  by_cases hash : c = '#'
  · subst hash
    exact .comment layout ended List.not_mem_nil
  rw [if_neg (by simpa using hash)]
  by_cases parenthesis : c = '(' ∨ c = ')'
  · rw [if_pos (by simpa using parenthesis)]
    have token : Token .parenthesis [c] := by
      rcases parenthesis with rfl | rfl
      · exact .opening
      · exact .closing
    exact behind layout ended token (by decide)
  rw [if_neg (by simpa using parenthesis)]
  by_cases quote : c = '"'
  · subst quote
    exact .literal scanner.line layout ended .nil
  rw [if_neg (by simpa using quote)]
  -- What is left is the first character of a bare token.
  have undelimited : isDelimiter c = false := by
    rw [not_or] at parenthesis
    exact undelimited_iff.2 ⟨by simpa using blank, parenthesis.1, parenthesis.2, quote, hash⟩
  have token : Token .bare [c] := .bare (by simp) fun d mem => by
    rw [List.mem_singleton] at mem
    exact mem ▸ undelimited_iff_token.1 undelimited
  have begun : Stands (Cut.texts cuts ++ (gap ++ [c].reverse)) (.bare scanner.line [c]) :=
    .bare scanner.line layout ended (separate undelimited) token
  exact begun

/-- Inside a comment only a line break matters. -/
theorem fromComment {comment : List Char} (layout : Layout cuts) (ended : ∀ next, Gap next gap)
    (clean : '\n' ∉ comment) (here : scanner.place = .comment) (c : Char) :
    Stands (Cut.texts cuts ++ (gap ++ '#' :: (comment ++ [c]))) (scanner.enter c).place := by
  rw [Scanner.enter, here]
  dsimp only
  by_cases newline : c = '\n'
  · subst newline
    have whole : ∀ next, Gap next ('#' :: (comment ++ ['\n'])) := fun next =>
      .comment clean (by simp) (.blank (by decide) .nil)
    have more : ∀ next, Gap next (gap ++ '#' :: (comment ++ ['\n'])) := fun next =>
      (ended _).append (whole next)
    exact .gap layout more fun _ _ _ => by simp
  · rw [if_neg (by simpa using newline), here]
    exact .comment layout ended (by simp [clean, Ne.symm newline])

/-- A bare token goes on, or ends before a delimiter. -/
theorem fromBare {start : Nat} {read : List Char} (layout : Layout cuts)
    (ended : ∀ next, Gap next gap)
    (separate : ∀ cut ∈ cuts.getLast?, cut.shape = .bare → gap ≠ [])
    (token : Token .bare read.reverse) (here : scanner.place = .bare start read) (c : Char) :
    Stands (Cut.texts cuts ++ (gap ++ (read.reverse ++ [c]))) (scanner.enter c).place := by
  rw [Scanner.enter, here]
  dsimp only
  by_cases delimiter : isDelimiter c = true
  · -- The token is complete, and nothing stands between it and the delimiter.
    have layout' : Layout (cuts ++ [⟨gap, .bare, read.reverse⟩]) :=
      layout.concat (ended _) token fun last mem bare _ => separate last mem bare
    have next : Stands _ ((scanner.emit start read).fromGap c).place :=
      fromGap layout' (fun _ => .nil) c fun undelimited => absurd delimiter (by simp [undelimited])
    rw [if_pos delimiter]
    simpa [Cut.texts_concat, Cut.text] using next
  · rw [if_neg delimiter, ← List.reverse_cons]
    have more : Token .bare (c :: read).reverse := by
      cases token with
      | bare filled undelimited =>
        refine .bare (by simp) fun d mem => ?_
        rw [List.reverse_cons, List.mem_append, List.mem_singleton] at mem
        rcases mem with earlier | rfl
        · exact undelimited d earlier
        · exact undelimited_iff_token.1 (by simpa using delimiter)
    exact .bare start layout ended separate more

/-- A literal goes on, or ends with a quote. -/
theorem fromLiteral {start : Nat} {body : List Char} (layout : Layout cuts)
    (ended : ∀ next, Gap next gap) (h : LiteralBody body)
    (here : scanner.place = .literal start (body.reverse ++ ['"'])) (c : Char) :
    Stands (Cut.texts cuts ++ (gap ++ '"' :: (body ++ [c]))) (scanner.enter c).place := by
  rw [Scanner.enter, here]
  dsimp only
  by_cases quote : c = '"'
  · subst quote
    exact behind layout ended (.literal h) (by decide)
  rw [if_neg (by simpa using quote)]
  by_cases backslash : c = '\\'
  · subst backslash
    exact .escape start layout ended h
  · rw [if_neg (by simpa using backslash)]
    have more := Stands.literal start layout ended (h.append (.plain quote backslash .nil))
    rwa [List.reverse_append] at more

/-- What a character does, wherever the scanner stands. -/
theorem step {text : List Char} (stands : Stands text scanner.place) (c : Char) :
    Stands (text ++ [c]) (scanner.step c).place := by
  have counted : (scanner.step c).place = (scanner.enter c).place := by
    unfold Scanner.step advance
    split <;> rfl
  rw [counted]
  generalize here : scanner.place = standing at stands
  cases stands with
  | gap layout ended separate =>
    rw [Scanner.enter, here, List.append_assoc]
    exact fromGap layout ended c fun _ => separate
  | comment layout ended clean =>
    simp only [List.append_assoc, List.cons_append]
    exact fromComment layout ended clean here c
  | bare start layout ended separate token =>
    simp only [List.append_assoc]
    exact fromBare layout ended separate token here c
  | literal start layout ended h =>
    simp only [List.append_assoc, List.cons_append]
    exact fromLiteral layout ended h here c
  | escape start layout ended h =>
    have more := Stands.literal start layout ended (h.append (.escape c .nil))
    simp only [List.append_assoc, List.cons_append, List.reverse_append] at more ⊢
    rw [Scanner.enter, here]
    exact more

end Stands

/-- Whatever the scanner reads, it stands somewhere in the grammar. -/
theorem stands_feed (text : List Char) : Stands text (({} : Scanner).feed text).place := by
  induction text using List.reverseRecOn with
  | nil =>
    have start : Stands (Cut.texts [] ++ []) .gap :=
      .gap ⟨nofun, nofun, .nil⟩ (fun _ => .nil) nofun
    exact start
  | append_singleton text c ih =>
    rw [feed_append]
    exact ih.step c

/-! ## Reading a row of tokens -/

variable {scanner : Scanner}

theorem feed_comment {text : List Char} (here : scanner.place = .comment) (clean : '\n' ∉ text) :
    scanner.feed text = scanner := by
  induction text with
  | nil => rfl
  | cons c text ih =>
    rw [List.mem_cons, not_or] at clean
    have other : c ≠ '\n' := Ne.symm clean.1
    have skipped : scanner.step c = scanner := by
      rw [step, enter, here]
      simp [advance, other]
    rw [feed_cons, skipped, ih clean.2]

theorem step_blank {c : Char} (here : scanner.place = .gap) (blank : Text.isBlank c = true) :
    (scanner.step c).place = .gap ∧ (scanner.step c).found = scanner.found := by
  have entered : scanner.enter c = scanner := by
    rw [enter, here]
    simp [fromGap, blank, ← here]
  rw [step, entered, advance]
  split <;> exact ⟨here, rfl⟩

/-- A gap leaves nothing behind but perhaps a comment that is still open, and this only where a line
break or the end comes next. -/
theorem feed_gap {next gap : List Char} (h : Gap next gap) (here : scanner.place = .gap) :
    (scanner.feed gap).found = scanner.found ∧
      ((scanner.feed gap).place = .gap ∨
        (scanner.feed gap).place = .comment ∧ ∀ c ∈ next.head?, c = '\n') := by
  induction h generalizing scanner with
  | nil => exact ⟨rfl, .inl here⟩
  | blank blank _ ih =>
    obtain ⟨place, found⟩ := step_blank here blank
    rw [feed_cons, ← found]
    exact ih place
  | @comment text gap clean ended _ ih =>
    have opened : scanner.step '#' = { scanner with place := .comment } := by
      rw [step, enter, here]
      rfl
    rw [feed_cons, opened, feed_append, feed_comment rfl clean]
    cases gap with
    | nil => exact ⟨rfl, .inr ⟨rfl, ended⟩⟩
    | cons c gap =>
      -- The comment ends with a line break, which is read as it is outside of comments.
      have newline : c = '\n' := ended c rfl
      have same : ({ scanner with place := .comment } : Scanner).step c = scanner.step c := by
        rw [newline, step, step, enter, enter, here]
        rfl
      rw [feed_cons, same, ← feed_cons]
      exact ih here

theorem feed_literalBody {start : Nat} {read body : List Char}
    (here : scanner.place = .literal start read) (h : LiteralBody body) :
    (scanner.feed body).place = .literal start (body.reverse ++ read) ∧
      (scanner.feed body).found = scanner.found := by
  induction h generalizing scanner read with
  | nil => exact ⟨here, rfl⟩
  | @plain c rest quote backslash _ ih =>
    have next : (scanner.step c).place = .literal start (c :: read) ∧
        (scanner.step c).found = scanner.found := by
      rw [step, enter, here]
      simp only [beq_iff_eq, quote, backslash, if_false, advance]
      split <;> exact ⟨rfl, rfl⟩
    rw [feed_cons, ← next.2, List.reverse_cons, List.append_assoc]
    exact ih next.1
  | @escape c rest _ ih =>
    have next : ((scanner.step '\\').step c).place = .literal start (c :: '\\' :: read) ∧
        ((scanner.step '\\').step c).found = scanner.found := by
      have escaped : scanner.step '\\' =
          { scanner with place := .escape start ('\\' :: read) } := by
        rw [step, enter, here]
        rfl
      rw [escaped, step, enter, advance]
      split <;> exact ⟨rfl, rfl⟩
    rw [feed_cons, feed_cons, ← next.2, List.reverse_cons, List.reverse_cons, List.append_assoc,
      List.append_assoc]
    exact ih next.1

/-- A token is found with the line on which it begins. Only a bare one is still to be completed. -/
theorem feed_token {shape : Shape} {token : List Char} (h : Token shape token)
    (here : scanner.place = .gap) :
    (scanner.feed token).settled.place = .gap ∧
      (scanner.feed token).settled.found =
        ⟨String.ofList token, scanner.line⟩ :: scanner.found ∧
      (shape ≠ .bare → (scanner.feed token).place = .gap) := by
  cases h with
  | opening =>
    rw [feed_cons, step_parenthesis here (.inl rfl)]
    exact ⟨rfl, rfl, fun _ => rfl⟩
  | closing =>
    rw [feed_cons, step_parenthesis here (.inr rfl)]
    exact ⟨rfl, rfl, fun _ => rfl⟩
  | @literal body h =>
    have opened : scanner.step '"' = { scanner with place := .literal scanner.line ['"'] } := by
      rw [step, enter, here]
      rfl
    rw [feed_cons, opened, feed_append, feed_cons, feed_nil]
    obtain ⟨place, found⟩ := feed_literalBody
      (show ({ scanner with place := .literal scanner.line ['"'] } : Scanner).place = _ from rfl) h
    generalize Scanner.feed _ body = inside at place found ⊢
    have closed : inside.step '"' = inside.emit scanner.line ('"' :: (body.reverse ++ ['"'])) := by
      rw [step, enter, place]
      rfl
    rw [closed]
    refine ⟨rfl, ?_, fun _ => rfl⟩
    rw [settled_of_gap rfl, emit]
    simp [found]
  | bare filled undelimited =>
    obtain ⟨c, rest, rfl⟩ := List.exists_cons_of_ne_nil filled
    have free : ∀ d ∈ c :: rest, isDelimiter d = false := fun d mem =>
      undelimited_iff_token.2 (undelimited d mem)
    have pending : scanner.feed (c :: rest) =
        { scanner with place := .bare scanner.line (rest.reverse ++ [c]) } := by
      rw [feed_cons, step_gap_bare here (free c List.mem_cons_self)]
      exact feed_bare rfl fun d mem => free d (List.mem_cons_of_mem c mem)
    rw [pending]
    refine ⟨rfl, ?_, fun other => absurd rfl other⟩
    simp [settled, emit]

theorem line_settled : scanner.settled.line = scanner.line := by
  unfold settled
  split <;> rfl

theorem isDelimiter_of_gap {next gap : List Char} {c : Char} (h : Gap next (c :: gap)) :
    isDelimiter c = true := by
  cases h with
  | blank blank _ => simp [isDelimiter, blank]
  | comment _ _ _ => rfl

/-- A cut begins with a delimiter, unless it is a bare token alone. -/
theorem isDelimiter_of_cut {cut : Cut} (gap : Gap cut.token cut.gap)
    (token : Token cut.shape cut.token) (apart : cut.shape = .bare → cut.gap ≠ []) :
    ∀ c ∈ cut.text.head?, isDelimiter c = true := by
  obtain ⟨before, shape, text⟩ := cut
  cases before with
  | cons d before => simpa [Cut.text] using isDelimiter_of_gap gap
  | nil =>
    cases token with
    | bare _ _ => exact absurd rfl (apart rfl)
    | _ => simp [Cut.text, isDelimiter]

/-- A text that begins with a delimiter is read as it is behind a token that is complete. -/
theorem feed_cons_settled (ready : scanner.settled.place = .gap) {c : Char}
    (apart : scanner.place = .gap ∨ isDelimiter c = true) (rest : List Char) :
    scanner.feed (c :: rest) = scanner.settled.feed (c :: rest) := by
  rcases apart with here | delimiter
  · rw [settled_of_gap here]
  · rw [feed_cons, feed_cons, step_settled ready delimiter]

/-- A gap and a token are read as such behind a token that is complete, or behind a bare one that they
do not go on with. -/
theorem feed_text {cut : Cut} (gap : Gap cut.token cut.gap) (token : Token cut.shape cut.token)
    (ready : scanner.settled.place = .gap)
    (separate : scanner.place = .gap ∨ (cut.shape = .bare → cut.gap ≠ [])) :
    (scanner.feed cut.text).settled.place = .gap ∧
      (scanner.feed cut.text).settled.found =
        ⟨String.ofList cut.token, scanner.line + cut.gap.count '\n'⟩ :: scanner.settled.found ∧
      (cut.shape ≠ .bare → (scanner.feed cut.text).place = .gap) := by
  have fed : scanner.feed cut.text = scanner.settled.feed cut.text := by
    obtain ⟨c, rest, text⟩ := List.exists_cons_of_ne_nil (show cut.text ≠ [] by
      simp [Cut.text, token.ne_nil])
    rw [text]
    exact feed_cons_settled ready (separate.imp_right fun apart =>
      isDelimiter_of_cut gap token apart c (by rw [text]; rfl)) rest
  obtain ⟨found, place⟩ := feed_gap gap ready
  have here : (scanner.settled.feed cut.gap).place = .gap := by
    rcases place with place | ⟨_, newline⟩
    · exact place
    · obtain ⟨c, rest, text⟩ := List.exists_cons_of_ne_nil token.ne_nil
      have head : c ∈ cut.token.head? := by rw [text]; rfl
      exact absurd (newline c head) (token.head_ne_newline head)
  rw [fed, Cut.text, feed_append, ← found, ← line_settled, ← line_feed]
  exact feed_token token here

/-- Cuts in a row are read one by one. -/
theorem feed_texts {cuts : List Cut} (layout : Layout cuts) {before : List Char}
    (ready : scanner.settled.place = .gap) (line : scanner.line = 1 + before.count '\n')
    (separate : scanner.place = .gap ∨ ∀ cut ∈ cuts.head?, cut.shape = .bare → cut.gap ≠ []) :
    (scanner.feed (Cut.texts cuts)).settled.place = .gap ∧
      (scanner.feed (Cut.texts cuts)).settled.found =
        (Cut.lexemes before cuts).reverse ++ scanner.settled.found := by
  induction cuts generalizing scanner before with
  | nil => exact ⟨ready, rfl⟩
  | cons cut cuts ih =>
    obtain ⟨gaps, tokens, chain⟩ := layout
    rw [List.forall_mem_cons] at gaps tokens
    rw [List.isChain_cons] at chain
    obtain ⟨settled, found, complete⟩ := feed_text gaps.1 tokens.1 ready
      (separate.imp_right fun apart => apart cut rfl)
    have line' : (scanner.feed cut.text).line = 1 + (before ++ cut.text).count '\n' := by
      rw [line_feed, line, List.count_append]
      omega
    have next := ih ⟨gaps.2, tokens.2, chain.2⟩ settled line' ?_
    · rw [Cut.texts_cons, feed_append]
      refine ⟨next.1, ?_⟩
      rw [next.2, found, Cut.lexemes, line, List.count_append]
      simp [Nat.add_assoc]
    · by_cases bare : cut.shape = .bare
      · exact .inr fun other mem => chain.1 other mem bare
      · exact .inl (complete bare)

/-- Behind the last token only a gap may stand. -/
theorem finish_feed_gap {last : List Char} (h : Gap [] last) (ready : scanner.settled.place = .gap) :
    (scanner.feed last).finish = .ok scanner.settled.found.reverse := by
  cases last with
  | nil => exact finish_settled ready
  | cons c last =>
    rw [feed_cons_settled ready (.inr (isDelimiter_of_gap h)) last]
    obtain ⟨found, place⟩ := feed_gap h ready
    rw [← found]
    generalize scanner.settled.feed (c :: last) = after at place
    rcases place with place | ⟨place, _⟩
    · rw [finish, place]
    · rw [finish, place]

/-- A literal that is never closed is still open at the end, whether or not a backslash waits for its
character. -/
theorem finish_feed_neverClosed {start : Nat} {rest : List Char} :
    (∀ {scanner : Scanner} {read : List Char}, scanner.place = .literal start read →
      NeverClosed rest → (scanner.feed rest).finish = .error ⟨start, .unterminatedText⟩) ∧
    ∀ {scanner : Scanner} {read : List Char}, scanner.place = .escape start read →
      NeverClosed ('\\' :: rest) →
        (scanner.feed rest).finish = .error ⟨start, .unterminatedText⟩ := by
  induction rest with
  | nil =>
    refine ⟨fun here _ => ?_, fun here _ => ?_⟩
    · rw [feed_nil, finish, here]
    · rw [feed_nil, finish, here]
  | cons c rest ih =>
    refine ⟨fun {scanner read} here unclosed => ?_, fun {scanner read} here unclosed => ?_⟩
    · have other : c ≠ '"' := by
        rintro rfl
        exact unclosed [] rest .nil rfl
      rw [feed_cons]
      by_cases backslash : c = '\\'
      · have next : (scanner.step c).place = .escape start (c :: read) := by
          rw [step, enter, here, backslash]
          rfl
        exact ih.2 next (backslash ▸ unclosed)
      · have next : (scanner.step c).place = .literal start (c :: read) := by
          rw [step, enter, here]
          simp only [beq_iff_eq, other, backslash, if_false, advance]
          split <;> rfl
        refine ih.1 next fun body tail h same => ?_
        exact unclosed (c :: body) tail (.plain other backslash h) (by rw [same]; rfl)
    · have next : (scanner.step c).place = .literal start (c :: read) := by
        rw [step, enter, here, advance]
        split <;> rfl
      rw [feed_cons]
      refine ih.1 next fun body tail h same => ?_
      exact unclosed ('\\' :: c :: body) tail (.escape c h) (by rw [same]; rfl)

/-- Behind the last token and a gap, a quote opens a literal. -/
theorem finish_feed_unclosed {gap rest : List Char} (h : Gap ['"'] gap) (unclosed : NeverClosed rest)
    (ready : scanner.settled.place = .gap) :
    (scanner.feed (gap ++ '"' :: rest)).finish =
      .error ⟨scanner.line + gap.count '\n', .unterminatedText⟩ := by
  have fed : scanner.feed (gap ++ '"' :: rest) = scanner.settled.feed (gap ++ '"' :: rest) := by
    cases gap with
    | nil => exact feed_cons_settled ready (.inr rfl) rest
    | cons c gap => exact feed_cons_settled ready (.inr (isDelimiter_of_gap h)) _
  have here : (scanner.settled.feed gap).place = .gap := by
    rcases (feed_gap h ready).2 with place | ⟨_, newline⟩
    · exact place
    · exact absurd (newline '"' rfl) (by decide)
  have line : (scanner.settled.feed gap).line = scanner.line + gap.count '\n' := by
    rw [line_feed, line_settled]
  have opened : ((scanner.settled.feed gap).step '"').place =
      .literal (scanner.line + gap.count '\n') ['"'] := by
    rw [step, enter, here, ← line]
    rfl
  rw [fed, feed_append, feed_cons]
  exact finish_feed_neverClosed.1 opened unclosed

end Scanner

namespace Lexeme

/-- The lexemes of a source with a layout are its tokens. -/
theorem scan_of_layout {source : String} {cuts : List Cut} {last : List Char}
    (layout : Layout cuts) (gap : Gap [] last)
    (text : source.toList = Cut.texts cuts ++ last) :
    scan source = .ok (Cut.lexemes [] cuts) := by
  have start : ({} : Scanner).line = 1 + ([] : List Char).count '\n' := rfl
  obtain ⟨ready, found⟩ := Scanner.feed_texts layout rfl start (.inl rfl)
  rw [scan, text, Scanner.feed_append, Scanner.finish_feed_gap gap ready, found]
  simp [Scanner.settled]

/-- A source that ends inside a literal is refused on the line where the literal begins. -/
theorem scan_of_unclosed {source : String} {cuts : List Cut} {gap rest : List Char}
    (layout : Layout cuts) (ended : Gap ['"'] gap) (unclosed : NeverClosed rest)
    (text : source.toList = Cut.texts cuts ++ (gap ++ '"' :: rest)) :
    scan source = .error ⟨1 + (Cut.texts cuts ++ gap).count '\n', .unterminatedText⟩ := by
  have start : ({} : Scanner).line = 1 + ([] : List Char).count '\n' := rfl
  obtain ⟨ready, _⟩ := Scanner.feed_texts layout rfl start (.inl rfl)
  rw [scan, text, Scanner.feed_append, Scanner.finish_feed_unclosed ended unclosed ready,
    Scanner.line_feed, List.count_append, Nat.add_assoc]

/-- Every source has a layout, or ends inside a literal behind one. -/
theorem layout_or_unclosed (source : String) :
    (∃ cuts last, Layout cuts ∧ Gap [] last ∧ source.toList = Cut.texts cuts ++ last) ∨
    ∃ cuts gap rest, Layout cuts ∧ Gap ['"'] gap ∧ NeverClosed rest ∧
      source.toList = Cut.texts cuts ++ (gap ++ '"' :: rest) := by
  have stands := Scanner.stands_feed source.toList
  generalize source.toList = text at stands ⊢
  generalize Scanner.place _ = standing at stands
  cases stands with
  | gap layout ended _ => exact .inl ⟨_, _, layout, ended [], rfl⟩
  | @comment _ gap comment layout ended clean =>
    have last : Gap [] ('#' :: (comment ++ [])) := .comment clean (by simp) .nil
    rw [List.append_nil] at last
    exact .inl ⟨_, gap ++ '#' :: comment, layout, (ended _).append last, rfl⟩
  | @bare cuts gap read start layout ended separate token =>
    have layout' : Layout (cuts ++ [⟨gap, .bare, read.reverse⟩]) :=
      layout.concat (ended _) token fun last mem bare _ => separate last mem bare
    refine .inl ⟨_, [], layout', .nil, ?_⟩
    rw [Cut.texts_concat, List.append_nil]
    rfl
  | @literal _ gap body start layout ended h =>
    refine .inr ⟨_, gap, body, layout, ended _, ?_, rfl⟩
    simpa using h.neverClosed (.inl rfl)
  | escape start layout ended h =>
    exact .inr ⟨_, _, _, layout, ended _, h.neverClosed (.inr rfl), rfl⟩

/-- A source has lexemes exactly if it is a row of tokens with gaps around them, and then its lexemes
are these tokens, each with one line more than there are line breaks before it; those with the form of
literals are the literals. Otherwise the source ends inside a literal that begins where a token may
stand, and the line of its first quote is reported. -/
theorem scan_iff_layout (source : String) :
    (∀ lexemes, scan source = .ok lexemes ↔
      ∃ cuts last, Layout cuts ∧ Gap [] last ∧ source.toList = Cut.texts cuts ++ last ∧
        Cut.lexemes [] cuts = lexemes) ∧
    (∀ cuts, Layout cuts →
      (Cut.lexemes [] cuts).map isLiteral = cuts.map (·.shape == .literal)) ∧
    ∀ error, scan source = .error error ↔
      error.cause.message = "unterminated string" ∧
      ∃ cuts gap rest, Layout cuts ∧ Gap ['"'] gap ∧ NeverClosed rest ∧
        source.toList = Cut.texts cuts ++ (gap ++ '"' :: rest) ∧
        error.line = 1 + (Cut.texts cuts ++ gap).count '\n' := by
  refine ⟨fun lexemes => ⟨fun scanned => ?_, ?_⟩,
    fun cuts layout => Cut.map_isLiteral_lexemes layout.token [], fun error => ⟨fun scanned => ?_, ?_⟩⟩
  · rcases layout_or_unclosed source with
      ⟨cuts, last, layout, gap, text⟩ | ⟨cuts, gap, rest, layout, ended, unclosed, text⟩
    · rw [scan_of_layout layout gap text] at scanned
      exact ⟨cuts, last, layout, gap, text, Except.ok.inj scanned⟩
    · rw [scan_of_unclosed layout ended unclosed text] at scanned
      cases scanned
  · rintro ⟨cuts, last, layout, gap, text, rfl⟩
    exact scan_of_layout layout gap text
  · rcases layout_or_unclosed source with
      ⟨cuts, last, layout, gap, text⟩ | ⟨cuts, gap, rest, layout, ended, unclosed, text⟩
    · rw [scan_of_layout layout gap text] at scanned
      cases scanned
    · rw [scan_of_unclosed layout ended unclosed text] at scanned
      cases scanned
      exact ⟨rfl, cuts, gap, rest, layout, ended, unclosed, text, rfl⟩
  · rintro ⟨message, cuts, gap, rest, layout, ended, unclosed, text, line⟩
    obtain ⟨reported, cause⟩ := error
    have same : cause = .unterminatedText := Malformation.message_inj.1 message
    rw [scan_of_unclosed layout ended unclosed text, same, show reported = _ from line]

end Lexeme

end Concatenative
