import Mathlib.Algebra.Group.Nat.Even
import Mathlib.Data.List.DropRight
import Mathlib.Data.List.Induction
import Concatenative.Proofs.BigStep

/-!
# Printing pair by pair

Printed text is read from the left in units, which are single characters and backslashes with the
character behind them. Whether a backslash begins a unit depends on all the backslashes before it;
but at a place that no unit straddles (`Text.Paired`) the text can be cut, and what is printed is
what the two parts print (`Text.Paired.resolveEscapes_append`). Such a place is behind an even
number of backslashes (`Text.paired_of_even`). The laws of printing that follow from this, for texts
and for programs, are put together in `Text.expandEscapes_pairwise`.
-/

namespace Concatenative

namespace Text

/-! ## Cutting a text between its units -/

/-- Whether a text is a row of units: no backslash at its end waits for a character. -/
inductive Paired : List Char → Prop
  | nil : Paired []
  | plain {c : Char} {rest : List Char} (other : c ≠ '\\') (h : Paired rest) : Paired (c :: rest)
  | pair (c : Char) {rest : List Char} (h : Paired rest) : Paired ('\\' :: c :: rest)

theorem Paired.append {front rest : List Char} (h : Paired front) (k : Paired rest) :
    Paired (front ++ rest) := by
  induction h with
  | nil => exact k
  | plain other _ ih => exact .plain other ih
  | pair c _ ih => exact .pair c ih

/-- Behind a row of units the scan starts afresh. -/
theorem Paired.resolveEscapes_append {front : List Char} (h : Paired front)
    (meaning : Char → Option Char) (rest : List Char) :
    resolveEscapes meaning (front ++ rest) =
      resolveEscapes meaning front ++ resolveEscapes meaning rest := by
  induction h with
  | nil => rfl
  | plain other _ ih =>
    rw [List.cons_append, resolveEscapes_cons _ other, resolveEscapes_cons _ other, ih,
      List.cons_append]
  | pair c _ ih =>
    rw [List.cons_append, List.cons_append]
    cases known : meaning c with
    | some d => rw [resolveEscapes_pair known, resolveEscapes_pair known, ih, List.cons_append]
    | none =>
      rw [resolveEscapes_unknown known, resolveEscapes_unknown known, ih, List.cons_append,
        List.cons_append]

/-- How many backslashes stand at the end of a text. -/
def trailingBackslashes (text : List Char) : Nat :=
  (text.rtakeWhile (· == '\\')).length

theorem trailingBackslashes_concat_backslash (text : List Char) :
    trailingBackslashes (text ++ ['\\']) = trailingBackslashes text + 1 := by
  rw [trailingBackslashes, List.rtakeWhile_concat_pos _ _ _ (by rfl), List.length_append]
  rfl

theorem trailingBackslashes_concat {c : Char} (other : c ≠ '\\') (text : List Char) :
    trailingBackslashes (text ++ [c]) = 0 := by
  rw [trailingBackslashes, List.rtakeWhile_concat_neg _ _ _ (by simpa using other)]
  rfl

/-- A text is a row of units, or there is one more backslash behind such a row; the number of
backslashes at its end tells which. -/
theorem paired_or_waiting (text : List Char) :
    (Even (trailingBackslashes text) ∧ Paired text) ∨
      (¬ Even (trailingBackslashes text) ∧ ∃ front, text = front ++ ['\\'] ∧ Paired front) := by
  induction text using List.reverseRecOn with
  | nil => exact .inl ⟨.zero, .nil⟩
  | append_singleton text c ih =>
    by_cases backslash : c = '\\'
    · subst backslash
      rw [trailingBackslashes_concat_backslash, Nat.even_add_one]
      rcases ih with ⟨even, paired⟩ | ⟨odd, front, rfl, paired⟩
      · exact .inr ⟨not_not.2 even, text, rfl, paired⟩
      · rw [List.append_assoc]
        exact .inl ⟨odd, paired.append (.pair '\\' .nil)⟩
    · rw [trailingBackslashes_concat backslash]
      refine .inl ⟨.zero, ?_⟩
      rcases ih with ⟨_, paired⟩ | ⟨_, front, rfl, paired⟩
      · exact paired.append (.plain backslash .nil)
      · rw [List.append_assoc]
        exact paired.append (.pair c .nil)

/-- Behind an even number of backslashes a text can be cut. -/
theorem paired_of_even {text : List Char} (even : Even (trailingBackslashes text)) :
    Paired text := by
  rcases paired_or_waiting text with ⟨_, paired⟩ | ⟨odd, _⟩
  · exact paired
  · exact absurd even odd

/-! ## Texts that print any text -/

/-- The text with two backslashes for each one. -/
def doubleBackslashes (text : List Char) : List Char :=
  text.flatMap fun c => if c = '\\' then ['\\', '\\'] else [c]

theorem resolveEscapes_doubleBackslashes {meaning : Char → Option Char}
    (backslash : meaning '\\' = some '\\') (text : List Char) :
    resolveEscapes meaning (doubleBackslashes text) = text := by
  induction text with
  | nil => rfl
  | cons c text ih =>
    rw [doubleBackslashes, List.flatMap_cons]
    by_cases same : c = '\\'
    · rw [if_pos same, same]
      exact (resolveEscapes_pair backslash _).trans (congrArg _ ih)
    · rw [if_neg same]
      exact (resolveEscapes_cons meaning same _).trans (congrArg _ ih)

/-- A text without pairs that the table knows is kept as it is. -/
theorem resolveEscapes_eq_self {meaning : Char → Option Char} {text : List Char}
    (unknown : ∀ c, ['\\', c] <:+: text → meaning c = none) :
    resolveEscapes meaning text = text := by
  induction text using List.twoStepInduction with
  | nil => rfl
  | singleton c =>
    by_cases backslash : c = '\\'
    · rw [backslash, resolveEscapes_lone]
    · rw [resolveEscapes_cons _ backslash, resolveEscapes_nil]
  | cons_cons c d rest ih ih' =>
    have later : ∀ e, ['\\', e] <:+: d :: rest → meaning e = none := by
      intro e inside
      exact unknown e (inside.trans (List.suffix_cons c _).isInfix)
    by_cases backslash : c = '\\'
    · have first : meaning d = none := by
        refine unknown d (List.IsPrefix.isInfix ⟨rest, ?_⟩)
        rw [backslash]
        rfl
      have behind : ∀ e, ['\\', e] <:+: rest → meaning e = none := by
        intro e inside
        exact later e (inside.trans (List.suffix_cons d _).isInfix)
      rw [backslash, resolveEscapes_unknown first, ih behind]
    · rw [resolveEscapes_cons _ backslash, ih' d later]

theorem printEscape_eq_none {c : Char} (other : c ∉ ['n', 't', 'r', '0', '\\', '"', '\'']) :
    printEscape c = none := by
  unfold printEscape
  split <;> simp_all

end Text

/-! ## Programs that print -/

open Exec

/-- A sink that never fails takes the text. -/
theorem Exec.emit_of_neverFails (machine : Machine) (sink : machine.sink.NeverFails)
    (text : String) :
    emit text machine = .ok () { machine with sink := machine.sink.append text.toByteArray } := by
  rw [emit, Sink.write_of_unlimited sink.room sink.flushes]

section Phrases

variable (run : Quote → Exec Unit)

theorem Quote.perform_print (text : String) :
    Quote.perform run [.text text, .symbol "print"] = emit (Text.expandEscapes text) := by
  show (emit (Text.expandEscapes text) >>= fun _ => pure ()) = emit (Text.expandEscapes text)
  exact bind_pure_unit

theorem Quote.perform_cat_print (front rest : String) :
    Quote.perform run [.text front, .text rest, .symbol "cat", .symbol "print"] =
      emit (Text.expandEscapes (front ++ rest)) :=
  Quote.perform_print run (front ++ rest)

theorem Quote.perform_print_print (front rest : String) :
    Quote.perform run [.text front, .symbol "print", .text rest, .symbol "print"] =
      (emit (Text.expandEscapes front) >>= fun _ => emit (Text.expandEscapes rest)) := by
  have apart := Quote.perform_append run [.text front, .symbol "print"]
    [.text rest, .symbol "print"]
  rw [Quote.perform_print, Quote.perform_print] at apart
  exact apart

/-- To print two texts is to print what the escapes in both are expanded to, one after the other. -/
theorem Quote.perform_print_print_of_neverFails {machine : Machine} (sink : machine.sink.NeverFails)
    (front rest : String) :
    Quote.perform run [.text front, .symbol "print", .text rest, .symbol "print"] machine =
      emit (Text.expandEscapes front ++ Text.expandEscapes rest) machine := by
  have first := emit_of_neverFails machine sink (Text.expandEscapes front)
  have joined :
      machine.sink.append (Text.expandEscapes front ++ Text.expandEscapes rest).toByteArray =
      (machine.sink.append (Text.expandEscapes front).toByteArray).append
        (Text.expandEscapes rest).toByteArray := by
    simp only [Sink.append, String.toByteArray_append, ByteArray.append_assoc]
  rw [Quote.perform_print_print, bind_of_ok first, emit_of_neverFails machine sink, joined]
  exact emit_of_neverFails { machine with
    sink := machine.sink.append (Text.expandEscapes front).toByteArray } ⟨sink.room, sink.flushes⟩ _

end Phrases

/-- Escapes are expanded unit by unit. With each backslash doubled a text is printed as it was, so
that any text can be printed. Where the text ends in an even number of backslashes, another one behind
it is expanded as it would be alone, and to print both is to print them joined. A text in which no
backslash has a character behind it that makes an escape is printed as it stands. -/
theorem Text.expandEscapes_pairwise (text : String) :
    (expandEscapes (.ofList (doubleBackslashes text.toList)) = text ∧
      ∀ run, Quote.perform run [.text (.ofList (doubleBackslashes text.toList)), .symbol "print"] =
        emit text) ∧
    (Even (trailingBackslashes text.toList) → ∀ rest,
      expandEscapes (text ++ rest) = expandEscapes text ++ expandEscapes rest ∧
      ∀ run (machine : Machine), machine.sink.NeverFails → ∃ after,
        after.sink.written = machine.sink.written ++ (expandEscapes (text ++ rest)).toByteArray ∧
        Quote.perform run [.text text, .symbol "print", .text rest, .symbol "print"] machine =
          .ok () after ∧
        Quote.perform run [.text text, .text rest, .symbol "cat", .symbol "print"] machine =
          .ok () after) ∧
    ((∀ c ∈ ['n', 't', 'r', '0', '\\', '"', '\''], ¬ ['\\', c] <:+: text.toList) →
      expandEscapes text = text) := by
  refine ⟨?_, fun even rest => ?_, fun unescaped => ?_⟩
  · have doubled : expandEscapes (.ofList (doubleBackslashes text.toList)) = text := by
      rw [expandEscapes, String.toList_ofList, resolveEscapes_doubleBackslashes
        (show printEscape '\\' = some '\\' from rfl), String.ofList_toList]
    refine ⟨doubled, fun run => ?_⟩
    rw [Quote.perform_print, doubled]
  · have joined : expandEscapes (text ++ rest) = expandEscapes text ++ expandEscapes rest := by
      rw [expandEscapes, String.toList_append, (paired_of_even even).resolveEscapes_append,
        String.ofList_append]
      rfl
    refine ⟨joined, fun run machine sink => ?_⟩
    refine ⟨{ machine with
      sink := machine.sink.append (expandEscapes (text ++ rest)).toByteArray }, rfl, ?_, ?_⟩
    · rw [Quote.perform_print_print_of_neverFails run sink, ← joined,
        emit_of_neverFails machine sink]
    · rw [Quote.perform_cat_print, emit_of_neverFails machine sink]
  · have unknown : ∀ c, ['\\', c] <:+: text.toList → printEscape c = none := by
      intro c inside
      exact printEscape_eq_none fun listed => unescaped c listed inside
    rw [expandEscapes, resolveEscapes_eq_self unknown, String.ofList_toList]

/-- A text that ends in two backslashes, with one behind it that would otherwise begin an escape, and
a text with a backslash that makes none. -/
theorem Text.expandEscapes_pairwise_seam :
    Even (trailingBackslashes "a\\\\".toList) ∧ Sink.NeverFails {} ∧
    (∀ c ∈ ['n', 't', 'r', '0', '\\', '"', '\''], ¬ ['\\', c] <:+: "50\\%".toList) ∧
    expandEscapes ("a\\\\" ++ "nb") = expandEscapes "a\\\\" ++ expandEscapes "nb" ∧
    (∃ after : Machine, after.sink.written = "a\\nb".toByteArray ∧
      Quote.perform (evaluate 1) [.text "a\\\\", .symbol "print", .text "nb", .symbol "print"] {} =
        .ok () after ∧
      Quote.perform (evaluate 1) [.text "a\\\\", .text "nb", .symbol "cat", .symbol "print"] {} =
        .ok () after) ∧
    expandEscapes "50\\%" = "50\\%" := by
  have even : Even (trailingBackslashes "a\\\\".toList) := ⟨1, rfl⟩
  have sink : Sink.NeverFails {} := ⟨rfl, rfl⟩
  have unescaped : ∀ c ∈ ['n', 't', 'r', '0', '\\', '"', '\''],
      ¬ ['\\', c] <:+: "50\\%".toList := by
    intro c listed inside
    have percent : c = '%' := by
      simpa [List.infix_cons_iff] using (show ['\\', c] <:+: ['5', '0', '\\', '%'] from inside)
    subst percent
    exact absurd listed (by decide)
  obtain ⟨joined, prints⟩ := (expandEscapes_pairwise "a\\\\").2.1 even "nb"
  obtain ⟨after, written, apart, together⟩ := prints (evaluate 1) {} sink
  refine ⟨even, sink, unescaped, joined, ⟨after, written.trans ?_, apart, together⟩,
    (expandEscapes_pairwise "50\\%").2.2 unescaped⟩
  decide +kernel

end Concatenative
