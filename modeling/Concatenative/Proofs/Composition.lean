import Concatenative.Proofs.BigStep
import Concatenative.Proofs.Concatenation

/-!
# Laws of programs

To join quotes is to compose programs, and the builtins that build quotes and run them agree with
that: to join two quotes and run the result is to run one after the other, to run a quote below a
word is to run it and put the word back, and a word put in front of a quote is there before the quote
runs (`evaluate_composition`). These are equations between actions: they hold on every stack and
wherever the words stand in a running quote, and where one side fails the other fails alike, leaving
the same machine. Only where one side runs a quote that the other does not run must there be a level
for it.
-/

namespace Concatenative

open Exec

/-! ## Quotes written out before the word that runs them -/

section Phrases

variable (run : Quote → Exec Unit)

theorem Quote.perform_eval (words : Quote) :
    Quote.perform run [.quote words, .symbol "eval"] = run words := by
  show (run words >>= fun _ => pure ()) = run words
  exact bind_pure_unit

theorem Quote.perform_cat_eval (front rest : Quote) :
    Quote.perform run [.quote front, .quote rest, .symbol "cat", .symbol "eval"] =
      run (front ++ rest) := by
  show (run (front ++ rest) >>= fun _ => pure ()) = run (front ++ rest)
  exact bind_pure_unit

theorem Quote.perform_cons_eval {word : Word} (data : word.kind ≠ .symbol) (words : Quote) :
    Quote.perform run [word, .quote words, .symbol "cons", .symbol "eval"] =
      run (word :: words) := by
  have joined : Quote.perform run [word, .quote words, .symbol "cons", .symbol "eval"] =
      (run (word :: words) >>= fun _ => pure ()) := by
    cases word with
    | symbol name => exact absurd rfl data
    | _ => rfl
  rw [joined, bind_pure_unit]

theorem Quote.perform_unwrap (words : Quote) :
    Quote.perform run [.quote words, .symbol "unwrap"] = pushAll words :=
  rfl

theorem Quote.perform_dip (word : Word) (words : Quote) :
    (push word >>= fun _ => Quote.perform run [.quote words, .symbol "dip"]) =
      (run words >>= fun _ => push word) := by
  have kept : (push word >>= fun _ => Quote.perform run [.quote words, .symbol "dip"]) =
      ((run words >>= fun _ => push word) >>= fun _ => pure ()) := by
    cases word <;> rfl
  rw [kept, bind_pure_unit]

theorem Quote.perform_ifte (condition : Bool) (positive negative : Quote) :
    Quote.perform run [.truth condition, .quote positive, .quote negative, .symbol "ifte"] =
      isolated (run (if condition then positive else negative)) := by
  show (isolated (run (if condition then positive else negative)) >>= fun _ => pure ()) = _
  exact bind_pure_unit

/-- Words that are no symbols are put on the stack as they are. -/
theorem Quote.perform_data {words : Quote} (data : ∀ word ∈ words, word.kind ≠ .symbol) :
    Quote.perform run words = pushAll words := by
  induction words with
  | nil => rfl
  | cons word words ih =>
    rw [List.forall_mem_cons] at data
    have pushed : word.perform run = push word := by
      cases word with
      | symbol name => exact absurd rfl data.1
      | _ => rfl
    rw [Quote.perform_cons, pushed, ih data.2]
    rfl

end Phrases

/-! ## On one level -/

section Levels

variable {limit level : Nat}

/-- Where there is a level for it, a quote of words that are no symbols puts them on the stack. -/
theorem evaluate_data (above : level < limit) {words : Quote}
    (data : ∀ word ∈ words, word.kind ≠ .symbol) :
    SameAt level (evaluate limit words) (pushAll words) := by
  intro machine here
  have free : ¬ limit ≤ machine.depth := by omega
  rw [evaluate_eq, if_neg free, Quote.perform_data _ data]
  rfl

/-- Rows of words that do the same one level further down do so in the midst of other words that
are run from this level. -/
theorem Exec.SameAt.within {left right : Quote}
    (same : SameAt (level + 1) (Quote.perform (evaluate limit) left)
      (Quote.perform (evaluate limit) right)) (front rest : Quote) :
    SameAt level (evaluate limit (front ++ left ++ rest))
      (evaluate limit (front ++ right ++ rest)) := by
  have alone : SameAt level (evaluate limit left) (evaluate limit right) := by
    intro machine here
    rw [evaluate_eq, evaluate_eq]
    split
    · rfl
    · have entered : machine.depth + 1 = level + 1 := by rw [here]
      unfold deeper
      rw [same { machine with depth := machine.depth + 1 } entered]
  rw [evaluate_append, evaluate_append, evaluate_append, evaluate_append]
  exact ((SameAt.refl _).bind fun _ => alone).bind fun _ => SameAt.refl _

end Levels

/-- Joined quotes run one after the other, and so they do when a program joins them. With a word on
the stack, running a quote below it is running the quote and then putting the word on the stack.
Where there is a level for a quote, running it with a word put in front of it is putting the word on
the stack and running it, unless the word is a symbol; and a quote without symbols of its own does
nothing but put its words on the stack. Rows of words that do the same on a level do the same in the
midst of any quote that runs on it. -/
theorem evaluate_composition (limit : Nat) (front rest : Quote) :
    evaluate limit (front ++ rest) =
      (evaluate limit front >>= fun _ => evaluate limit rest) ∧
    Quote.perform (evaluate limit) [.quote front, .quote rest, .symbol "cat", .symbol "eval"] =
      Quote.perform (evaluate limit) [.quote front, .symbol "eval", .quote rest, .symbol "eval"] ∧
    (∀ word, Quote.perform (evaluate limit) [.quote [word], .symbol "unwrap"] = push word ∧
      (push word >>= fun _ => Quote.perform (evaluate limit) [.quote rest, .symbol "dip"]) =
        (Quote.perform (evaluate limit) [.quote rest, .symbol "eval"] >>= fun _ => push word)) ∧
    (∀ level < limit,
      (∀ word : Word, word.kind ≠ .symbol → SameAt level
        (Quote.perform (evaluate limit) [word, .quote rest, .symbol "cons", .symbol "eval"])
        (push word >>= fun _ =>
          Quote.perform (evaluate limit) [.quote rest, .symbol "eval"])) ∧
      ((∀ word ∈ rest, word.kind ≠ .symbol) → SameAt level
        (Quote.perform (evaluate limit) [.quote rest, .symbol "unwrap"])
        (Quote.perform (evaluate limit) [.quote rest, .symbol "eval"]))) ∧
    ∀ level left right, SameAt (level + 1) (Quote.perform (evaluate limit) left)
        (Quote.perform (evaluate limit) right) →
      ∀ before after, SameAt level (evaluate limit (before ++ left ++ after))
        (evaluate limit (before ++ right ++ after)) := by
  refine ⟨evaluate_append limit front rest, ?_, fun word => ?_, fun level above => ⟨?_, ?_⟩, ?_⟩
  · have apart : Quote.perform (evaluate limit)
        ([.quote front, .symbol "eval"] ++ [.quote rest, .symbol "eval"]) =
        (evaluate limit front >>= fun _ => evaluate limit rest) := by
      rw [Quote.perform_append, Quote.perform_eval, Quote.perform_eval]
    rw [Quote.perform_cat_eval, evaluate_append]
    exact apart.symm
  · refine ⟨Quote.perform_unwrap _ [word], ?_⟩
    rw [Quote.perform_dip, Quote.perform_eval]
  · intro word data
    have first : SameAt level (evaluate limit [word]) (push word) :=
      evaluate_data above (List.forall_mem_singleton.2 data)
    rw [Quote.perform_cons_eval _ data, Quote.perform_eval, ← List.singleton_append,
      evaluate_append]
    exact first.bind fun _ => SameAt.refl _
  · intro data machine here
    rw [Quote.perform_unwrap, Quote.perform_eval]
    exact (evaluate_data above data machine here).symm
  · exact fun level left right same before after => same.within before after

/-- A word in front of a quote, and a quote that is unwrapped between two other words. -/
theorem evaluate_composition_unwrap :
    1 < 2 ∧ (∀ word ∈ [Word.text "a"], word.kind ≠ .symbol) ∧
    SameAt 1
      (Quote.perform (evaluate 2) [.text "b", .quote [.text "a"], .symbol "cons", .symbol "eval"])
      (push (.text "b") >>= fun _ =>
        Quote.perform (evaluate 2) [.quote [.text "a"], .symbol "eval"]) ∧
    SameAt 0
      (evaluate 2 ([.truth true] ++ [.quote [.text "a"], .symbol "unwrap"] ++ [.symbol "swap"]))
      (evaluate 2 ([.truth true] ++ [.quote [.text "a"], .symbol "eval"] ++ [.symbol "swap"])) := by
  have level : 1 < 2 := by omega
  have data : ∀ word ∈ [Word.text "a"], word.kind ≠ .symbol := by decide
  obtain ⟨-, -, -, laws, within⟩ := evaluate_composition 2 [] [.text "a"]
  obtain ⟨cons, unwrap⟩ := laws 1 level
  exact ⟨level, data, cons (.text "b") (by decide), within 0 _ _ (unwrap data) _ _⟩

end Concatenative
