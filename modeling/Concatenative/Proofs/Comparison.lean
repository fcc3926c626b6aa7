import Concatenative.Proofs.BigStep
import Concatenative.Proofs.Equality

/-!
# Comparing words

The comparison of words is a partial equivalence: it is symmetric and transitive, and only words
with an undefined number in them are not the same as themselves. That it is so for numbers is seen
from what is compared, which is the number without the sign of a zero (`Number.beq_iff`); from there
it goes up through the quotes. The builtins that build quotes and take them apart cannot tell words
that are the same from each other (`Exec.sameEnd_of_same`). All of this is put together in
`Word.same_partial_equivalence`.
-/

namespace Concatenative

open Exec

/-! ## Numbers -/

namespace Number

open Float.Model (UnpackedFloat)

/-- The number without the sign of a zero. -/
def unsignedZero : UnpackedFloat → UnpackedFloat
  | .zero _ => .zero .positive
  | value => value

theorem isNaN_unsignedZero (value : UnpackedFloat) :
    (unsignedZero value).isNaN = value.isNaN := by
  cases value <;> rfl

/-- Finite numbers are the same exactly if all their parts are. -/
theorem beq_finite_iff {sign sign' : UnpackedFloat.Sign} {m m' : Nat} {e e' : Int} {pos : 0 < m}
    {pos' : 0 < m'} : (UnpackedFloat.finite sign m e pos).beq (.finite sign' m' e' pos') = true ↔
      UnpackedFloat.finite sign m e pos = .finite sign' m' e' pos' := by
  have magnitude : (compare e e').then (compare m m') = .eq ↔ m = m' ∧ e = e' := by
    rw [Ordering.then_eq_eq, Std.compare_eq_iff_eq, Std.compare_eq_iff_eq, and_comm]
  rw [UnpackedFloat.finite.injEq]
  cases sign <;> cases sign'
  case negative.negative =>
    show (some ((compare e e').then (compare m m')).swap == some .eq) = true ↔ _
    rw [beq_iff_eq, Option.some_inj, Ordering.swap_eq_eq, magnitude]
    exact (and_iff_right rfl).symm
  case positive.positive =>
    show (some ((compare e e').then (compare m m')) == some .eq) = true ↔ _
    rw [beq_iff_eq, Option.some_inj, magnitude]
    exact (and_iff_right rfl).symm
  all_goals exact iff_of_false Bool.false_ne_true nofun

/-- Numbers of different forms are never the same, nor is the undefined one ever. -/
theorem beq_unpacked_iff (a b : UnpackedFloat) :
    a.beq b = true ↔ a.isNaN = false ∧ unsignedZero a = unsignedZero b := by
  cases a with
  | notANumber => exact iff_of_false Bool.false_ne_true fun h => Bool.false_ne_true h.1.symm
  | infinity sign =>
    refine Iff.trans ?_ (and_iff_right rfl).symm
    cases b with
    | infinity sign' =>
      cases sign <;> cases sign'
      case negative.negative | positive.positive => exact iff_of_true rfl rfl
      all_goals exact iff_of_false Bool.false_ne_true nofun
    | _ => cases sign <;> exact iff_of_false Bool.false_ne_true nofun
  | zero sign =>
    refine Iff.trans ?_ (and_iff_right rfl).symm
    cases b with
    | zero sign' => exact iff_of_true rfl rfl
    | notANumber => exact iff_of_false Bool.false_ne_true nofun
    | infinity sign' | finite sign' =>
      cases sign' <;> exact iff_of_false Bool.false_ne_true nofun
  | finite sign m e pos =>
    refine Iff.trans ?_ (and_iff_right rfl).symm
    cases b with
    | finite sign' m' e' pos' => exact beq_finite_iff
    | infinity sign' =>
      cases sign <;> cases sign' <;> exact iff_of_false Bool.false_ne_true nofun
    | _ => cases sign <;> exact iff_of_false Bool.false_ne_true nofun

/-- Two numbers are compared without the signs of zeros, and an undefined one is equal to none. -/
theorem beq_iff {x y : Float} : (x == y) = true ↔ x.isNaN = false ∧
    unsignedZero x.toModel.unpack = unsignedZero y.toModel.unpack :=
  beq_unpacked_iff _ _

theorem beq_symm {x y : Float} (same : (x == y) = true) : (y == x) = true := by
  obtain ⟨defined, equal⟩ := beq_iff.1 same
  have other : (unsignedZero x.toModel.unpack).isNaN = false :=
    (isNaN_unsignedZero _).trans defined
  rw [equal, isNaN_unsignedZero] at other
  exact beq_iff.2 ⟨other, equal.symm⟩

theorem beq_trans {x y z : Float} (first : (x == y) = true) (second : (y == z) = true) :
    (x == z) = true := by
  obtain ⟨defined, equal⟩ := beq_iff.1 first
  obtain ⟨_, equal'⟩ := beq_iff.1 second
  exact beq_iff.2 ⟨defined, equal.trans equal'⟩

end Number

/-! ## Words -/

mutual

theorem Word.same_symm : (v w : Word) → v.same w = true → w.same v = true
  | .number x, w, same => by
    cases w with
    | number y => exact Number.beq_symm same
    | _ => cases same
  | .text s, w, same => by
    cases w with
    | text t => exact BEq.symm same
    | _ => cases same
  | .truth a, w, same => by
    cases w with
    | truth b => exact BEq.symm same
    | _ => cases same
  | .symbol m, w, same => by
    cases w with
    | symbol n => exact BEq.symm same
    | _ => cases same
  | .quote p, w, same => by
    cases w with
    | quote q => exact Quote.same_symm p q same
    | _ => cases same

theorem Quote.same_symm : (p q : List Word) → Quote.same p q = true → Quote.same q p = true
  | [], q, same => by
    cases q with
    | nil => rfl
    | cons w q => cases same
  | v :: p, q, same => by
    cases q with
    | nil => cases same
    | cons w q =>
      rw [Quote.same, Bool.and_eq_true] at same ⊢
      exact ⟨Word.same_symm v w same.1, Quote.same_symm p q same.2⟩

end

mutual

theorem Word.same_trans : (u v w : Word) → u.same v = true → v.same w = true → u.same w = true
  | .number x, v, w, first, second => by
    cases v with
    | number y =>
      cases w with
      | number z => exact Number.beq_trans first second
      | _ => cases second
    | _ => cases first
  | .text s, v, w, first, second => by
    cases v with
    | text t => exact eq_of_beq first ▸ second
    | _ => cases first
  | .truth a, v, w, first, second => by
    cases v with
    | truth b => exact eq_of_beq first ▸ second
    | _ => cases first
  | .symbol m, v, w, first, second => by
    cases v with
    | symbol n => exact eq_of_beq first ▸ second
    | _ => cases first
  | .quote p, v, w, first, second => by
    cases v with
    | quote q =>
      cases w with
      | quote r => exact Quote.same_trans p q r first second
      | _ => cases second
    | _ => cases first

theorem Quote.same_trans : (p q r : List Word) → Quote.same p q = true →
    Quote.same q r = true → Quote.same p r = true
  | [], q, r, first, second => by
    cases q with
    | nil => exact second
    | cons v q => cases first
  | u :: p, q, r, first, second => by
    cases q with
    | nil => cases first
    | cons v q =>
      cases r with
      | nil => cases second
      | cons w r =>
        rw [Quote.same, Bool.and_eq_true] at first second ⊢
        exact ⟨Word.same_trans u v w first.1 second.1,
          Quote.same_trans p q r first.2 second.2⟩

end

theorem Word.same_comm (v w : Word) : v.same w = w.same v :=
  Bool.eq_iff_iff.2 ⟨Word.same_symm v w, Word.same_symm w v⟩

/-! ## Quotes -/

namespace Quote

/-- Quotes are compared position by position. -/
theorem same_iff_forall₂ {p q : List Word} :
    Quote.same p q = true ↔ List.Forall₂ (fun v w : Word => v.same w = true) p q := by
  induction p generalizing q with
  | nil => cases q <;> simp [Quote.same]
  | cons v p ih => cases q <;> simp [Quote.same, ih]

theorem same_append {p q p' q' : List Word} (front : Quote.same p q = true)
    (rest : Quote.same p' q' = true) : Quote.same (p ++ p') (q ++ q') = true := by
  rw [same_iff_forall₂] at front rest ⊢
  exact List.rel_append front rest

/-- Quotes that are the same are both empty or have first words and others that are the same. -/
theorem uncons?_of_same {p q : List Word} (same : Quote.same p q = true) :
    Option.Rel (fun a b : Word × Quote => a.1.same b.1 = true ∧ Quote.same a.2 b.2 = true)
      (uncons? p) (uncons? q) := by
  rw [same_iff_forall₂] at same
  cases same with
  | nil => exact .none
  | cons head tail => exact .some ⟨head, same_iff_forall₂.2 tail⟩

end Quote

/-! ## Builtins on stacks that are the same -/

namespace Exec

/-- Whether two runs both succeed with results that `values` relates or both fail with the same fault,
and leave stacks that are the same. -/
inductive EndsSame {α : Type} (values : α → α → Prop) :
    EStateM.Result Fault Machine α → EStateM.Result Fault Machine α → Prop
  | ok {a b : α} {left right : Machine} (value : values a b)
    (related : Quote.same left.stack right.stack = true) : EndsSame values (.ok a left) (.ok b right)
  | error {fault : Fault} {left right : Machine}
    (related : Quote.same left.stack right.stack = true) :
    EndsSame values (.error fault left) (.error fault right)

/-- Whether two actions lead from stacks that are the same to ends that are the same. -/
def Respects {α : Type} (values : α → α → Prop) (x y : Exec α) : Prop :=
  ∀ left right : Machine, Quote.same left.stack right.stack = true →
    EndsSame values (x left) (y right)

namespace Respects

variable {α β : Type} {values : α → α → Prop} {results : β → β → Prop} {x y : Exec α}

theorem bind {f g : α → Exec β} (first : Respects values x y)
    (second : ∀ a b, values a b → Respects results (f a) (g b)) :
    Respects results (x >>= f) (y >>= g) := by
  intro left right related
  show EndsSame results (EStateM.bind x f left) (EStateM.bind y g right)
  unfold EStateM.bind
  have outcome := first left right related
  generalize x left = result at outcome ⊢
  generalize y right = result' at outcome ⊢
  cases outcome with
  | ok value related => exact second _ _ value _ _ related
  | error related => exact .error related

theorem push {v w : Word} (same : v.same w = true) : Respects Eq (push v) (push w) := by
  intro left right related
  refine .ok rfl ?_
  show Quote.same (v :: left.stack) (w :: right.stack) = true
  rw [Quote.same, Bool.and_eq_true]
  exact ⟨same, related⟩

theorem throw (fault : Fault) : Respects values (throw fault) (throw fault) :=
  fun _ _ related => .error related

/-- A word is taken, or refused for its kind, as any other word that is the same. -/
theorem takeAs (accepted : List Kind) {view : Word → Option α}
    (views : ∀ v w : Word, v.same w = true → Option.Rel values (view v) (view w)) :
    Respects values (takeAs accepted view) (takeAs accepted view) := by
  intro left right related
  unfold Exec.takeAs
  rw [Quote.same_iff_forall₂] at related
  generalize tops : left.stack = words at related ⊢
  generalize tops' : right.stack = words' at related ⊢
  cases related with
  | nil =>
    refine .error ?_
    rw [tops, tops']
    rfl
  | @cons v w rest rest' same below =>
    have seen := views v w same
    dsimp only
    generalize view v = value at seen ⊢
    generalize view w = value' at seen ⊢
    cases seen with
    | some value => exact .ok value (Quote.same_iff_forall₂.2 below)
    | none =>
      rw [Word.kind_eq_of_same same]
      refine .error ?_
      rw [tops, tops']
      exact Quote.same_iff_forall₂.2 (.cons same below)

theorem takeAny : Respects (fun v w : Word => v.same w = true) takeAny takeAny := by
  refine takeAs Kind.all fun v w same => ?_
  rw [if_pos (Kind.mem_all _), if_pos (Kind.mem_all _)]
  exact .some same

theorem takeQuote :
    Respects (fun p q : Quote => Quote.same p q = true) takeQuote takeQuote := by
  refine takeAs [.quote] fun v w same => ?_
  cases v with
  | quote p =>
    cases w with
    | quote q => exact .some same
    | _ => cases same
  | _ =>
    cases w with
    | quote q => cases same
    | _ => exact .none

theorem takeText : Respects Eq takeText takeText := by
  refine takeAs [.text] fun v w same => ?_
  cases v with
  | text s =>
    cases w with
    | text t => exact .some (eq_of_beq same)
    | _ => cases same
  | _ =>
    cases w with
    | text t => cases same
    | _ => exact .none

theorem takeJoinable :
    Respects (Sum.LiftRel (fun p q : Quote => Quote.same p q = true) (fun s t : String => s = t))
      (Exec.takeAs [.quote, .text] Word.joinable?) (Exec.takeAs [.quote, .text] Word.joinable?) := by
  refine takeAs [.quote, .text] fun v w same => ?_
  cases v with
  | quote p =>
    cases w with
    | quote q => exact .some (.inl same)
    | _ => cases same
  | text s =>
    cases w with
    | text t => exact .some (.inr (eq_of_beq same))
    | _ => cases same
  | _ =>
    cases w with
    | quote q => cases same
    | text t => cases same
    | _ => exact .none

theorem cons : Respects Eq Builtin.performCons Builtin.performCons := by
  refine takeQuote.bind fun tail tail' tails => ?_
  refine takeAny.bind fun head head' heads => ?_
  refine push ?_
  rw [Word.same, Quote.same, heads, tails]
  rfl

theorem uncons : Respects Eq Builtin.performUncons Builtin.performUncons := by
  refine takeQuote.bind fun words words' same => ?_
  have parts := Quote.uncons?_of_same same
  generalize words.uncons? = taken at parts ⊢
  generalize words'.uncons? = taken' at parts ⊢
  cases parts with
  | none => exact throw .unconsEmpty
  | some part => exact (push part.1).bind fun _ _ _ => push part.2

theorem cat : Respects Eq Builtin.performCat Builtin.performCat := by
  refine takeJoinable.bind fun top top' tops => ?_
  cases tops with
  | inl same =>
    refine takeQuote.bind fun below below' same' => ?_
    exact push (Quote.same_append same' same)
  | inr same =>
    subst same
    refine takeText.bind fun below below' same => ?_
    subst same
    exact push (beq_self_eq_true _)

end Respects

/-- The builtins that build quotes and take them apart do the same to stacks that are the same. -/
theorem sameEnd_of_same {builtin : Builtin} (listed : builtin ∈ [.cons, .cat, .uncons])
    (run : Quote → Exec Unit) {left right : Machine}
    (related : Quote.same left.stack right.stack = true) :
    SameEnd (fun after after' => Quote.same after.stack after'.stack = true)
      (builtin.perform run left) (builtin.perform run right) := by
  have respects : Respects Eq (builtin.perform run) (builtin.perform run) := by
    simp only [List.mem_cons, List.not_mem_nil, or_false] at listed
    rcases listed with rfl | rfl | rfl
    · exact .cons
    · exact .cat
    · exact .uncons
  have outcome := respects left right related
  generalize builtin.perform run left = result at outcome ⊢
  generalize builtin.perform run right = result' at outcome ⊢
  cases outcome with
  | ok value related =>
    subst value
    exact .ok related
  | error related => exact .error related

end Exec

/-! ## The comparison as a whole -/

section Phrases

variable (run : Quote → Exec Unit) (machine : Machine) (below : List Word)

theorem Quote.perform_eq (v w : Word) :
    Quote.perform run [.symbol "eq?"] { machine with stack := w :: v :: below } =
      .ok () { machine with stack := .truth (v.same w) :: below } := by
  have taken : (takeAny >>= fun right => takeAny >>= fun left => push (.truth (left.same right)))
      { machine with stack := w :: v :: below } =
      .ok () { machine with stack := .truth (v.same w) :: below } := by
    rw [takeAny_bind_of_stack rfl, takeAny_bind_of_stack rfl]
    rfl
  exact bind_of_ok taken

theorem Quote.perform_dup (word : Word) :
    Quote.perform run [.symbol "dup"] { machine with stack := word :: below } =
      .ok () { machine with stack := word :: word :: below } := by
  have taken : (takeAny >>= fun top => push top >>= fun _ => push top)
      { machine with stack := word :: below } =
      .ok () { machine with stack := word :: word :: below } := by
    rw [takeAny_bind_of_stack rfl]
    rfl
  exact bind_of_ok taken

theorem Quote.perform_dup_eq (word : Word) :
    Quote.perform run [.symbol "dup", .symbol "eq?"] { machine with stack := word :: below } =
      .ok () { machine with stack := .truth (word.same word) :: below } := by
  rw [Quote.perform_pair, bind_of_ok (Quote.perform_dup run machine below word), Quote.perform_eq]

theorem Quote.perform_cons_of_stack (head : Word) (tail : Quote) :
    Quote.perform run [.symbol "cons"] { machine with stack := .quote tail :: head :: below } =
      .ok () { machine with stack := .quote (head :: tail) :: below } := by
  have taken : (takeQuote >>= fun tail => takeAny >>= fun head => push (.quote (head :: tail)))
      { machine with stack := .quote tail :: head :: below } =
      .ok () { machine with stack := .quote (head :: tail) :: below } := by
    rw [takeQuote_bind_of_stack rfl, takeAny_bind_of_stack rfl]
    rfl
  exact bind_of_ok taken

end Phrases

/-- What `eq?` answers is symmetric and transitive. A word is the same as its own copy exactly if no
undefined number is in it, at any depth. Words of different kinds are never the same, and quotes are
the same exactly if they have the same length and the same words, position by position. What `cons`
makes is the same exactly if its operands are. Quotes that are the same can be joined and taken apart
with results that are the same; and on stacks that are the same, the builtins that do so end in the same
way. -/
theorem Word.same_partial_equivalence (run : Quote → Exec Unit) (machine : Machine)
    (below : List Word) :
    (∀ v w : Word, v.same w = w.same v ∧
      Quote.perform run [.symbol "eq?"] { machine with stack := w :: v :: below } =
        .ok () { machine with stack := .truth (v.same w) :: below }) ∧
    (∀ u v w : Word, u.same v = true → v.same w = true → u.same w = true) ∧
    (∀ word : Word, ∃ answer,
      Quote.perform run [.symbol "dup", .symbol "eq?"] { machine with stack := word :: below } =
        .ok () { machine with stack := .truth answer :: below } ∧
      (answer = true ↔ ∀ value ∈ word.numbers, value.isNaN = false)) ∧
    (∀ v w : Word, v.kind ≠ w.kind → v.same w = false) ∧
    (∀ p q : Quote, Word.same (.quote p) (.quote q) = true ↔ p.length = q.length ∧
      ∀ i (_ : i < p.length) (_ : i < q.length), p[i].same q[i] = true) ∧
    (∀ (v w : Word) (p q : Quote), ∃ a b,
      Quote.perform run [.symbol "cons"] { machine with stack := .quote p :: v :: below } =
        .ok () { machine with stack := a :: below } ∧
      Quote.perform run [.symbol "cons"] { machine with stack := .quote q :: w :: below } =
        .ok () { machine with stack := b :: below } ∧
      (a.same b = true ↔ v.same w = true ∧ Word.same (.quote p) (.quote q) = true)) ∧
    (∀ p q p' q' : Quote, Quote.same p q = true → Quote.same p' q' = true →
      Quote.same (p ++ p') (q ++ q') = true) ∧
    (∀ p q : Quote, Quote.same p q = true →
      Option.Rel (fun a b : Word × Quote => a.1.same b.1 = true ∧ Quote.same a.2 b.2 = true)
        p.uncons? q.uncons?) ∧
    ∀ builtin ∈ [Builtin.cons, .cat, .uncons], ∀ left right : Machine,
      Quote.same left.stack right.stack = true →
      SameEnd (fun after after' => Quote.same after.stack after'.stack = true)
        (builtin.perform run left) (builtin.perform run right) := by
  refine ⟨fun v w => ⟨Word.same_comm v w, Quote.perform_eq run machine below v w⟩,
    Word.same_trans, fun word => ?_, fun v w kinds => ?_, fun p q => ?_, fun v w p q => ?_,
    fun _ _ _ _ => Quote.same_append, fun _ _ => Quote.uncons?_of_same,
    fun _ listed _ _ => sameEnd_of_same listed run⟩
  · exact ⟨_, Quote.perform_dup_eq run machine below word, Word.same_self_iff word⟩
  · rw [Bool.eq_false_iff]
    exact fun same => kinds (Word.kind_eq_of_same same)
  · rw [Word.same, Quote.same_iff_forall₂]
    exact List.forall₂_iff_get
  · refine ⟨_, _, Quote.perform_cons_of_stack run machine below v p,
      Quote.perform_cons_of_stack run machine below w q, ?_⟩
    rw [Word.same, Word.same, Quote.same, Bool.and_eq_true]

/-- Quotes with the two zeros, and a text and a symbol that are written alike. -/
theorem Word.same_partial_equivalence_zeros :
    Word.same (.quote [.number 0]) (.quote [.number (-0.0)]) = true ∧
    Word.same (.quote [.number (-0.0)]) (.quote [.number 0]) = true ∧
    Word.same (.quote [.number 0]) (.quote [.number 0]) = true ∧
    Word.same (.text "dup") (.symbol "dup") = false ∧
    Word.same (.number 0) (.number (-0.0)) = true ∧
    Quote.same ([.number 0] ++ [.number (-0.0)]) ([.number (-0.0)] ++ [.number 0]) = true ∧
    Option.Rel (fun a b : Word × Quote => a.1.same b.1 = true ∧ Quote.same a.2 b.2 = true)
      (Quote.uncons? [.number 0]) (Quote.uncons? [.number (-0.0)]) ∧
    SameEnd (fun after after' => Quote.same after.stack after'.stack = true)
      (Builtin.uncons.perform (evaluate 1) { stack := [.quote [.number 0]] })
      (Builtin.uncons.perform (evaluate 1) { stack := [.quote [.number (-0.0)]] }) := by
  obtain ⟨_, trans, _, kinds, positions, _, concat, uncons, ends⟩ :=
    same_partial_equivalence (evaluate 1) {} []
  have same : Quote.same [.number 0] [.number (-0.0)] = true := by decide +kernel
  have same' : Quote.same [.number (-0.0)] [.number 0] = true := by decide +kernel
  have related : Quote.same [.quote [.number 0]] [.quote [.number (-0.0)]] = true := by
    decide +kernel
  have around : Word.same (.quote [.number 0]) (.quote [.number 0]) = true :=
    trans _ (.quote [.number (-0.0)]) _ same same'
  have zeros : Word.same (.number 0) (.number (-0.0)) = true :=
    ((positions [.number 0] [.number (-0.0)]).1 same).2 0 (by decide) (by decide)
  exact ⟨same, same', around, kinds _ _ (by decide), zeros, concat _ _ _ _ same same',
    uncons _ _ same, ends .uncons (by simp) _ _ related⟩

end Concatenative
