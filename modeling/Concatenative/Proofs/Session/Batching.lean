import Concatenative.Proofs.Concatenation
import Concatenative.Proofs.Levels
import Concatenative.Proofs.Session

/-!
# Inputs in one batch

Two sources that stand for programs can be given one by one or as one source with a line break in
between (`Session.submit_append_newline`). Both ways end alike and write the same; the one difference
is how far a failure is undone. Without undoing there is no difference at all, notes apart
(`Session.attempt_append_newline`).
-/

namespace Concatenative

open Exec

namespace Session

/-- How two sources given one by one and given together compare: both ways succeed and leave machines
that are alike, or both fail with the same fault, having written the same, and what was given
together is undone as a whole. -/
inductive Batched (before : Machine) :
    (apart together : EStateM.Result Fault Machine Unit) → Prop
  | ok {apart together : Machine} (alike : apart.Alike together) :
    Batched before (.ok () apart) (.ok () together)
  | error {fault : Fault} {apart together : Machine} (sink : together.sink = apart.sink)
    (disk : together.disk = apart.disk) (stack : together.stack = before.stack)
    (vocabulary : together.vocabulary = before.vocabulary) (depth : together.depth = before.depth) :
    Batched before (.error fault apart) (.error fault together)

/-- Failures at the same point, of which the one given together is undone as a whole. -/
theorem Batched.of_rolledBack {before middle failed failed' apart together : Machine} {fault : Fault}
    (rest : before.depth = 0) (alike : failed.Alike failed') (back : RolledBack middle failed apart)
    (back' : RolledBack before failed' together) :
    Batched before (.error fault apart) (.error fault together) :=
  .error (by rw [back'.sink, back.sink, alike.sink]) (by rw [back'.disk, back.disk, alike.disk])
    back'.stack back'.vocabulary (by rw [back'.depth, rest])

/-- A source is tried as its program is run on a machine that differs in its notes at most. -/
theorem sameEnd_attempt {source : String} {words : Quote} (read : Quote.ofSource source = .ok words)
    (limit : Nat) {left right : Machine} (alike : left.Alike right) :
    SameEnd Machine.Alike (Session.attempt limit source left) (evaluate limit words right) := by
  obtain ⟨log, tried⟩ := attempt_of_ok read limit left
  rw [tried]
  exact evaluate_alike limit words
    ⟨alike.stack, alike.vocabulary, alike.depth, alike.sink, alike.disk⟩

/-- Two sources that stand for programs, tried one after the other and tried together. -/
theorem attempt_append_newline {first second : String} {front rest : Quote}
    (readFirst : Quote.ofSource first = .ok front) (readSecond : Quote.ofSource second = .ok rest)
    (limit : Nat) (machine : Machine) :
    SameEnd Machine.Alike
      ((Session.attempt limit first >>= fun _ => Session.attempt limit second) machine)
      (Session.attempt limit (first ++ "\n" ++ second) machine) := by
  have readBoth : Quote.ofSource (first ++ "\n" ++ second) = .ok (front ++ rest) := by
    rw [Quote.ofSource_append_newline readFirst, readSecond]
  obtain ⟨log, together⟩ := attempt_of_ok readBoth limit machine
  have alike : machine.Alike { machine with log } := ⟨rfl, rfl, rfl, rfl, rfl⟩
  rw [together, evaluate_append]
  exact (sameEnd_attempt readFirst limit alike).bind fun _ _ _ alike =>
    sameEnd_attempt readSecond limit alike

/-- Wherever a session has come to, two sources that stand for programs end one after the other as
they do with a line break between them. -/
theorem submit_append_newline {limit : Nat} {start machine : Machine} (fresh : start.Fresh)
    (reached : Reaches limit start machine) {first second : String} {front rest : Quote}
    (readFirst : Quote.ofSource first = .ok front) (readSecond : Quote.ofSource second = .ok rest) :
    Batched machine ((submit limit first >>= fun _ => submit limit second) machine)
      (submit limit (first ++ "\n" ++ second) machine) := by
  have atRest := reached.depth fresh.depth
  have same := attempt_append_newline readFirst readSecond limit machine
  generalize together : Session.attempt limit (first ++ "\n" ++ second) machine = result at same
  simp only [bind, EStateM.bind] at same ⊢
  rcases submit_cases limit first machine with
    ⟨middle, tried, done⟩ | ⟨fault, failed, apart, tried, done, back⟩
  · simp only [tried] at same
    simp only [done]
    -- The first source has run: what is left to compare is how far the second one is undone.
    rcases submit_cases limit second middle with
      ⟨after, tried, done⟩ | ⟨fault, failed, apart, tried, done, back⟩
    · rw [tried] at same
      cases same with
      | ok alike =>
        rw [done, submit_of_ok together]
        exact .ok alike
    · rw [tried] at same
      cases same with
      | error alike =>
        obtain ⟨_, failure, back'⟩ := submit_of_error together
        rw [done, failure]
        exact .of_rolledBack atRest alike back back'
  · simp only [tried] at same
    cases same with
    | error alike =>
      obtain ⟨_, failure, back'⟩ := submit_of_error together
      simp only [done, failure]
      exact .of_rolledBack atRest alike back back'

/-- A source that ends in a comment, and one that fails. -/
theorem submit_append_newline_comment :
    Quote.ofSource "\"a\" # )" = .ok [.text "a"] ∧ Quote.ofSource "x" = .ok [.symbol "x"] ∧
      Batched {} ((submit 1 "\"a\" # )" >>= fun _ => submit 1 "x") {})
        (submit 1 ("\"a\" # )" ++ "\n" ++ "x") {}) := by
  have first : Quote.ofSource "\"a\" # )" = .ok [.text "a"] := rfl
  have second : Quote.ofSource "x" = .ok [.symbol "x"] := rfl
  have fresh : ({} : Machine).Fresh := ⟨rfl, rfl⟩
  exact ⟨first, second, submit_append_newline fresh .refl first second⟩

end Session

end Concatenative
