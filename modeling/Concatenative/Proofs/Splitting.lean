import Concatenative.Proofs.BigStep

/-!
# Splitting and joining

To split a text is to list its characters (`Text.characters`), and to join a quote of texts is to
write them one behind the other (`Quote.joinTexts_map`). So a text can be got back from its
characters, and a quote from the text that it is joined to if its words are single characters. Both
turn joined operands into joined results. The programs that do this are compared as actions
(`Quote.perform_split_join`), so the laws hold on every stack and wherever the words stand in a running
quote.
-/

namespace Concatenative

open Exec

/-! ## Characters -/

/-- The characters of a text, each as a text. -/
def Text.characters (text : String) : Quote :=
  text.toList.map fun c => .text (String.singleton c)

theorem Text.characters_append (front rest : String) :
    characters (front ++ rest) = characters front ++ characters rest := by
  rw [characters, String.toList_append, List.map_append]
  rfl

theorem Text.exists_of_mem_characters {text : String} {word : Word}
    (mem : word ∈ characters text) : ∃ c, word = .text (String.singleton c) := by
  obtain ⟨c, _, same⟩ := List.mem_map.1 mem
  exact ⟨c, same.symm⟩

/-- Single characters are those of the text that they make up. -/
theorem Text.exists_characters {words : Quote}
    (single : ∀ word ∈ words, ∃ c, word = .text (String.singleton c)) :
    ∃ text, characters text = words := by
  induction words with
  | nil => exact ⟨"", rfl⟩
  | cons word words ih =>
    rw [List.forall_mem_cons] at single
    obtain ⟨c, rfl⟩ := single.1
    obtain ⟨text, rfl⟩ := ih single.2
    refine ⟨String.singleton c ++ text, ?_⟩
    rw [characters_append, characters, String.toList_singleton]
    rfl

/-! ## Joined texts -/

namespace Quote

/-- The texts that are joined come one behind the other. -/
theorem joinTexts_map (texts : List String) :
    joinTexts (texts.map .text) = .ok (String.join texts) := by
  rw [← String.empty_append (s := String.join texts)]
  unfold joinTexts
  -- What has been joined so far comes in front.
  generalize "" = joined
  induction texts generalizing joined with
  | nil =>
    rw [String.join_nil, String.append_empty]
    rfl
  | cons text texts ih =>
    rw [String.join_cons, ← String.append_assoc]
    exact ih (joined ++ text)

/-- Only texts can be joined. -/
theorem kind_of_joinTexts {words : Quote} {joined : String} (h : words.joinTexts = .ok joined) :
    ∀ word ∈ words, word.kind = .text := by
  unfold joinTexts at h
  generalize "" = front at h
  induction words generalizing front with
  | nil => nofun
  | cons word words ih =>
    rw [List.foldlM_cons] at h
    cases word with
    | text value => exact List.forall_mem_cons.2 ⟨rfl, ih _ h⟩
    | _ => cases h

theorem exists_texts {words : Quote} (texts : ∀ word ∈ words, word.kind = .text) :
    ∃ values : List String, words = values.map .text := by
  induction words with
  | nil => exact ⟨[], rfl⟩
  | cons word words ih =>
    rw [List.forall_mem_cons] at texts
    obtain ⟨values, rfl⟩ := ih texts.2
    cases word with
    | text value => exact ⟨value :: values, rfl⟩
    | _ => cases texts.1

/-- The characters of a text are joined to that text. -/
theorem joinTexts_characters (text : String) : joinTexts (Text.characters text) = .ok text := by
  have singles : Text.characters text = (text.toList.map String.singleton).map .text := by
    rw [List.map_map]
    rfl
  have joined : String.join (text.toList.map String.singleton) = text := by
    rw [← String.toList_inj, String.toList_join, List.flatMap_map]
    simp
  rw [singles, joinTexts_map, joined]

end Quote

/-! ## Programs that split and join -/

section Phrases

variable (run : Quote → Exec Unit) (machine : Machine) (below : List Word)

theorem Quote.perform_split (text : String) :
    Quote.perform run [.symbol "split"] { machine with stack := .text text :: below } =
      .ok () { machine with stack := .quote (Text.characters text) :: below } :=
  rfl

theorem Quote.perform_join (words : Quote) :
    Quote.perform run [.symbol "join"] { machine with stack := .quote words :: below } =
      match words.joinTexts with
      | .ok joined => .ok () { machine with stack := .text joined :: below }
      | .error kind => .error (.mismatch [.text] (some kind)) { machine with stack := below } := by
  have performed : Quote.perform run [.symbol "join"]
      { machine with stack := .quote words :: below } =
      ((ofExcept (fun kind => .mismatch [.text] (some kind)) words.joinTexts >>= fun joined =>
        push (.text joined)) >>= fun _ => pure ()) { machine with stack := below } := rfl
  rw [performed]
  cases words.joinTexts <;> rfl

/-- Exactly the quotes of texts can be joined. -/
theorem Quote.perform_join_ok_iff (words : Quote) :
    (∃ after, Quote.perform run [.symbol "join"]
        { machine with stack := .quote words :: below } = .ok () after) ↔
      ∀ word ∈ words, word.kind = .text := by
  rw [Quote.perform_join]
  constructor
  · rintro ⟨after, done⟩
    cases joined : words.joinTexts with
    | ok text => exact Quote.kind_of_joinTexts joined
    | error kind =>
      rw [joined] at done
      cases done
  · intro texts
    obtain ⟨values, rfl⟩ := Quote.exists_texts texts
    rw [Quote.joinTexts_map]
    exact ⟨_, rfl⟩

theorem Quote.perform_split_join_text (text : String) :
    Quote.perform run [.symbol "split", .symbol "join"]
        { machine with stack := .text text :: below } =
      .ok () { machine with stack := .text text :: below } := by
  rw [Quote.perform_pair, bind_of_ok (Quote.perform_split run machine below text),
    Quote.perform_join, Quote.joinTexts_characters]

/-- Joining a quote and splitting the result lists the characters of all its texts. -/
theorem Quote.perform_join_split_iff (words : Quote) :
    Quote.perform run [.symbol "join", .symbol "split"]
        { machine with stack := .quote words :: below } =
      .ok () { machine with stack := .quote words :: below } ↔
      ∀ word ∈ words, ∃ c, word = .text (String.singleton c) := by
  rw [Quote.perform_pair]
  constructor
  · intro kept
    have first := Quote.perform_join run machine below words
    cases joined : words.joinTexts with
    | ok text =>
      rw [joined] at first
      rw [bind_of_ok first, Quote.perform_split] at kept
      -- The words are the characters of the text that they were joined to.
      cases kept
      exact fun word mem => Text.exists_of_mem_characters mem
    | error kind =>
      rw [joined] at first
      rw [bind_of_error first] at kept
      cases kept
  · intro single
    obtain ⟨text, rfl⟩ := Text.exists_characters single
    have first := Quote.perform_join run machine below (Text.characters text)
    rw [Quote.joinTexts_characters] at first
    rw [bind_of_ok first, Quote.perform_split]

theorem Quote.perform_join_map (values : List String) :
    Quote.perform run [.quote (values.map .text), .symbol "join"] =
      push (.text (String.join values)) := by
  funext machine
  have joined := Quote.perform_join run machine machine.stack (values.map .text)
  rw [Quote.joinTexts_map] at joined
  exact joined

/-- Two quotes of texts are joined to the same text whether they become one quote before or one text
after that. -/
theorem Quote.perform_cat_join {front rest : Quote}
    (texts : ∀ word ∈ front ++ rest, word.kind = .text) :
    ∃ joined,
      Quote.perform run [.quote front, .quote rest, .symbol "cat", .symbol "join"] =
        push (.text joined) ∧
      Quote.perform run [.quote front, .symbol "join", .quote rest, .symbol "join", .symbol "cat"] =
        push (.text joined) := by
  rw [List.forall_mem_append] at texts
  obtain ⟨values, rfl⟩ := Quote.exists_texts texts.1
  obtain ⟨values', rfl⟩ := Quote.exists_texts texts.2
  refine ⟨String.join (values ++ values'), ?_, ?_⟩
  · have together := Quote.perform_join_map run (values ++ values')
    rw [List.map_append] at together
    exact together
  · have first := Quote.perform_append run [.quote (values.map .text), .symbol "join"]
      [.quote (values'.map .text), .symbol "join", .symbol "cat"]
    have second := Quote.perform_append run [.quote (values'.map .text), .symbol "join"]
      [.symbol "cat"]
    rw [Quote.perform_join_map] at first second
    rw [String.join_append]
    exact first.trans (congrArg (fun later => push _ >>= fun _ => later) second)

end Phrases

/-- Splitting and joining in a running program, on any stack. A text that is split and joined is the
same again. A quote that is joined and split is the same again exactly if each of its words is a text
of one character, and it can be joined exactly if each of its words is a text. Texts may be split
before or after they are joined by `cat`, and so may quotes of texts be joined. -/
theorem Quote.perform_split_join (run : Quote → Exec Unit) (machine : Machine)
    (below : List Word) :
    (∀ text, Quote.perform run [.symbol "split", .symbol "join"]
        { machine with stack := .text text :: below } =
      .ok () { machine with stack := .text text :: below }) ∧
    (∀ words, Quote.perform run [.symbol "join", .symbol "split"]
        { machine with stack := .quote words :: below } =
          .ok () { machine with stack := .quote words :: below } ↔
      ∀ word ∈ words, ∃ c, word = .text (String.singleton c)) ∧
    (∀ words, (∃ after, Quote.perform run [.symbol "join"]
        { machine with stack := .quote words :: below } = .ok () after) ↔
      ∀ word ∈ words, word.kind = .text) ∧
    (∀ front rest : String,
      Quote.perform run [.text front, .text rest, .symbol "cat", .symbol "split"] =
        Quote.perform run
          [.text front, .symbol "split", .text rest, .symbol "split", .symbol "cat"]) ∧
    ∀ front rest : Quote, (∀ word ∈ front ++ rest, word.kind = .text) → ∃ joined,
      Quote.perform run [.quote front, .quote rest, .symbol "cat", .symbol "join"] =
        push (.text joined) ∧
      Quote.perform run [.quote front, .symbol "join", .quote rest, .symbol "join", .symbol "cat"] =
        push (.text joined) := by
  refine ⟨?_, ?_, ?_, fun front rest => ?_, fun front rest texts => ?_⟩
  · exact Quote.perform_split_join_text run machine below
  · exact Quote.perform_join_split_iff run machine below
  · exact Quote.perform_join_ok_iff run machine below
  · show push (.quote (Text.characters (front ++ rest))) = _
    rw [Text.characters_append]
    rfl
  · exact Quote.perform_cat_join run texts

/-- Two quotes of texts, one of them empty and one longer than a character. -/
theorem Quote.perform_split_join_texts :
    (∀ word ∈ [Word.text "a", .text ""] ++ [.text "bé"], word.kind = .text) ∧
    Quote.perform (evaluate 1)
        [.quote [.text "a", .text ""], .quote [.text "bé"], .symbol "cat", .symbol "join"] =
      push (.text "abé") ∧
    Quote.perform (evaluate 1)
        [.quote [.text "a", .text ""], .symbol "join", .quote [.text "bé"], .symbol "join",
          .symbol "cat"] =
      push (.text "abé") := by
  have texts : ∀ word ∈ [Word.text "a", .text ""] ++ [.text "bé"], word.kind = .text := by decide
  obtain ⟨joined, together, apart⟩ :=
    (Quote.perform_split_join (evaluate 1) {} []).2.2.2.2 _ _ texts
  have run : Quote.perform (evaluate 1)
      [.quote [.text "a", .text ""], .quote [.text "bé"], .symbol "cat", .symbol "join"] =
      push (.text "abé") := rfl
  have same : joined = "abé" := by
    have pushed := congrFun (together.symm.trans run) {}
    cases pushed
    rfl
  subst same
  exact ⟨texts, together, apart⟩

end Concatenative
