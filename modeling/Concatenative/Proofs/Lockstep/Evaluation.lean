import Concatenative.Proofs.Lockstep

/-!
# Whole programs in lockstep

A lawful lockstep is kept by each builtin, hence by each word of a quote, hence by the quote. The
builtins that run quotes keep it if the way to run quotes does, so the induction is on the levels
left: on the last level both runs refuse, or the left one does while the right one has levels to
spare (`Lockstep.relates_evaluateWithin`).
-/

namespace Concatenative

open Exec

/-! ## Views of matching quotes -/

section Views

variable {names : String → String → Prop} {p q : Quote}

theorem Quote.Matches.singleSymbol? (h : Quote.Matches names p q) :
    Option.Rel names p.singleSymbol? q.singleSymbol? := by
  cases h with
  | nil => exact .none
  | cons head tail =>
    cases tail with
    | nil =>
      cases head with
      | symbol h => exact .some h
      | _ => exact .none
    | cons _ _ =>
      cases head <;> exact .none

theorem Quote.Matches.joinTexts (h : Quote.Matches names p q) : p.joinTexts = q.joinTexts := by
  unfold Quote.joinTexts
  generalize "" = joined
  induction h generalizing joined with
  | nil => rfl
  | cons head _ ih =>
    cases head with
    | text value => exact ih (joined ++ value)
    | _ => rfl

end Views

namespace Lockstep.Relates

variable {L : Lockstep} (laws : L.Lawful)

include laws

/-! ## Builtins that act on the stack -/

theorem arithmetic (operator : Operator) : L.Relates Eq operator.perform operator.perform := by
  refine (takeNumber laws).bind laws ?_
  rintro right _ rfl
  refine (takeNumber laws).bind laws ?_
  rintro left _ rfl
  refine (Relates.ofExcept laws fun fault failed => ?_).bind laws ?_
  · rw [operator.eq_divisionByZero failed]
    exact .divisionByZero
  · rintro result _ rfl
    exact push (.number result)

theorem dup : L.Relates Eq Builtin.performDup Builtin.performDup :=
  (takeAny laws).bind laws fun _ _ word =>
    (push word).bind laws fun _ _ _ => push word

theorem drop : L.Relates Eq Builtin.performDrop Builtin.performDrop :=
  (takeAny laws).bind laws fun _ _ _ => pure rfl

theorem swap : L.Relates Eq Builtin.performSwap Builtin.performSwap :=
  (takeAny laws).bind laws fun _ _ top =>
    (takeAny laws).bind laws fun _ _ below =>
      (push top).bind laws fun _ _ _ => push below

theorem copyBelow : L.Relates Eq Builtin.performCopyBelow Builtin.performCopyBelow :=
  (takeAny laws).bind laws fun _ _ top =>
    (takeAny laws).bind laws fun _ _ below =>
      (push below).bind laws fun _ _ _ =>
        (push top).bind laws fun _ _ _ => push below

theorem connective (connective : Bool → Bool → Bool) :
    L.Relates Eq (Builtin.performConnective connective) (Builtin.performConnective connective) := by
  refine (takeTruth laws).bind laws ?_
  rintro right _ rfl
  refine (takeTruth laws).bind laws ?_
  rintro left _ rfl
  exact push (.truth _)

theorem not : L.Relates Eq Builtin.performNot Builtin.performNot := by
  refine (takeTruth laws).bind laws ?_
  rintro value _ rfl
  exact push (.truth _)

theorem eq (permitted : L.Permits .eq) : L.Relates Eq Builtin.performEq Builtin.performEq := by
  refine (takeAny laws).bind laws fun right right' rights => ?_
  refine (takeAny laws).bind laws fun left left' lefts => ?_
  rw [laws.same permitted lefts rights]
  exact push (.truth _)

/-! ## Quotes and texts -/

theorem wrap : L.Relates Eq Builtin.performWrap Builtin.performWrap :=
  (takeAny laws).bind laws fun _ _ word => push (.quote (.cons word .nil))

theorem unwrap : L.Relates Eq Builtin.performUnwrap Builtin.performUnwrap :=
  (takeQuote laws).bind laws fun _ _ words => pushAll words

theorem cat : L.Relates Eq Builtin.performCat Builtin.performCat := by
  have joinables : ∀ {v w : Word}, v.Matches L.names w →
      Option.Rel (Sum.LiftRel (Quote.Matches L.names) (· = ·)) v.joinable? w.joinable? := by
    intro v w matched
    cases matched with
    | quote words => exact .some (.inl words)
    | text value => exact .some (.inr rfl)
    | _ => exact .none
  refine (takeAs laws _ joinables).bind_of_evolving laws (fun top top' tops => ?_) ?_
  · cases tops with
    | inl tops =>
      exact (takeQuote laws).bind laws fun _ _ below => push (.quote (List.rel_append below tops))
    | inr same =>
      subst same
      refine (takeText laws).bind laws ?_
      rintro below _ rfl
      exact push (.text _)
  · rintro (top | top) <;> infer_instance

theorem cons : L.Relates Eq Builtin.performCons Builtin.performCons :=
  (takeQuote laws).bind laws fun _ _ tail =>
    (takeAny laws).bind laws fun _ _ head => push (.quote (.cons head tail))

theorem uncons : L.Relates Eq Builtin.performUncons Builtin.performUncons := by
  refine (takeQuote laws).bind_of_evolving laws (fun words words' matched => ?_) fun words => ?_
  · cases matched with
    | nil => exact throw (laws.fault .unconsEmpty)
    | cons head tail => exact (push head).bind laws fun _ _ _ => push (.quote tail)
  · split <;> infer_instance

theorem split : L.Relates Eq Builtin.performSplit Builtin.performSplit := by
  refine (takeText laws).bind laws ?_
  rintro value _ rfl
  refine push (.quote (List.forall₂_same.2 fun word member => ?_))
  obtain ⟨c, _, rfl⟩ := List.mem_map.1 member
  exact .text _

theorem join : L.Relates Eq Builtin.performJoin Builtin.performJoin := by
  refine (takeQuote laws).bind laws fun words words' matched => ?_
  rw [matched.joinTexts]
  refine (Relates.ofExcept laws fun kind _ => .mismatch [.text] (some kind)).bind laws ?_
  rintro joined _ rfl
  exact push (.text joined)

/-! ## Conversions -/

theorem parseText (permitted : L.Permits .parse) :
    L.Relates Eq Builtin.performParse Builtin.performParse := by
  refine (takeText laws).bind laws ?_
  rintro source _ rfl
  exact (parse laws permitted source).bind laws fun _ _ words => push (.quote words)

theorem type : L.Relates Eq Builtin.performType Builtin.performType := by
  refine (takeAny laws).bind laws fun v w matched => ?_
  rw [matched.kind_eq]
  exact push (.text _)

theorem string (permitted : L.Permits .string) :
    L.Relates Eq Builtin.performString Builtin.performString := by
  refine (takeAny laws).bind laws fun v w matched => ?_
  rw [laws.toText permitted matched]
  exact push (.text _)

theorem number : L.Relates Eq Builtin.performNumber Builtin.performNumber := by
  refine (takeText laws).bind_of_evolving laws ?_ fun value => ?_
  · rintro value _ rfl
    cases Number.read? (Text.trim value) with
    | some x => exact push (.number x)
    | none => exact throw (laws.fault (.notNumeric value))
  · split <;> infer_instance

theorem symbol (permitted : L.Permits .symbol) :
    L.Relates Eq Builtin.performSymbol Builtin.performSymbol := by
  refine (takeText laws).bind laws ?_
  rintro name _ rfl
  dsimp only
  split
  · exact throw (laws.fault .emptySymbol)
  · next named => exact push (.symbol (laws.symbol permitted name (by simpa using named)))

/-! ## Output, files and definitions -/

theorem print : L.Relates Eq Builtin.performPrint Builtin.performPrint := by
  refine (takeText laws).bind laws ?_
  rintro value _ rfl
  exact fun left right machines => .emit laws machines (laws.write _ machines.sink)

theorem showStack (permitted : L.Permits .showStack) :
    L.Relates Eq Builtin.performShowStack Builtin.performShowStack :=
  fun _ _ machines => .emit laws machines (laws.showStack permitted machines)

theorem read : L.Relates Eq Builtin.performRead Builtin.performRead := by
  refine (takeText laws).bind laws ?_
  rintro path _ rfl
  refine (readFile laws path).bind laws ?_
  rintro contents _ rfl
  exact push (.text contents)

theorem write : L.Relates Eq Builtin.performWrite Builtin.performWrite := by
  refine (takeText laws).bind laws ?_
  rintro path _ rfl
  refine (takeText laws).bind laws ?_
  rintro contents _ rfl
  exact writeFile laws path contents

theorem definition {scope : Scope} (permitted : L.Permits (.define scope)) :
    L.Relates Eq (Builtin.performDefine scope) (Builtin.performDefine scope) := by
  rw [performDefine_eq]
  refine (takeQuote laws).bind laws fun label label' labels => ?_
  refine (takeQuote laws).bind laws fun body body' bodies => ?_
  unfold nameDefinition
  have found := labels.singleSymbol?
  generalize label.singleSymbol? = seen at found
  generalize label'.singleSymbol? = seen' at found
  cases found with
  | none => exact throw (laws.fault (.unnameable labels))
  | @some m n names =>
    dsimp only
    rw [← laws.builtin names]
    split
    · exact throw (laws.fault (.reserved names))
    · next free => exact define laws permitted names (by simpa using free) ⟨rfl, bodies⟩

/-! ## Running quotes -/

variable {run run' : Quote → Exec Unit} [∀ words, Evolving (run' words)]
  (runs : ∀ {p q : Quote}, Quote.Matches L.names p q → L.Relates Eq (run p) (run' q))

include runs

theorem dip : L.Relates Eq (Builtin.performDip run) (Builtin.performDip run') :=
  (takeQuote laws).bind laws fun _ _ words =>
    (takeAny laws).bind laws fun _ _ kept =>
      (runs words).bind laws fun _ _ _ => push kept

theorem eval : L.Relates Eq (Builtin.performEval run) (Builtin.performEval run') :=
  (takeQuote laws).bind laws fun _ _ words => runs words

theorem ifte : L.Relates Eq (Builtin.performIfte run) (Builtin.performIfte run') := by
  refine (takeQuote laws).bind laws fun _ _ negative => ?_
  refine (takeQuote laws).bind laws fun _ _ positive => ?_
  refine (takeTruth laws).bind laws ?_
  rintro condition _ rfl
  refine (runs ?_).isolated
  split
  · exact positive
  · exact negative

theorem builtin {builtin : Builtin} (permitted : L.Permits builtin) :
    L.Relates Eq (builtin.perform run) (builtin.perform run') := by
  cases builtin with
  | arithmetic operator => exact arithmetic laws operator
  | and => exact connective laws _
  | or => exact connective laws _
  | not => exact not laws
  | eq => exact eq laws permitted
  | dup => exact dup laws
  | drop => exact drop laws
  | swap => exact swap laws
  | copyBelow => exact copyBelow laws
  | dip => exact dip laws runs
  | eval => exact eval laws runs
  | ifte => exact ifte laws runs
  | wrap => exact wrap laws
  | unwrap => exact unwrap laws
  | cat => exact cat laws
  | cons => exact cons laws
  | uncons => exact uncons laws
  | split => exact split laws
  | join => exact join laws
  | define scope => exact definition laws permitted
  | parse => exact parseText laws permitted
  | type => exact type laws
  | string => exact string laws permitted
  | number => exact number laws
  | symbol => exact symbol laws permitted
  | print => exact print laws
  | showStack => exact showStack laws permitted
  | read => exact read laws
  | write => exact write laws
  | exit => exact throw (laws.fault .exit)

/-! ## Words, quotes and levels -/

omit laws [∀ words, Evolving (run' words)] in
theorem perform {d e : Definition} (meanings : L.Meanings d e) :
    L.Relates Eq (d.perform run) (e.perform run') := by
  have bodies := runs meanings.body
  unfold Definition.perform
  rcases meanings.scope with same | unscoped
  · rw [same]
    split
    · exact bodies.isolated
    · exact bodies
  · split <;> split
    · exact bodies.isolated
    · exact bodies.isolated_left unscoped
    · exact bodies.isolated_right unscoped
    · exact bodies

theorem call {m n : String} (names : L.names m n) : L.Relates Eq (call run m) (call run' n) := by
  unfold Concatenative.call
  rw [← laws.builtin names]
  -- Both names mean the same builtin or none, so both sides come to the same branch.
  cases meaning : Builtin.ofName? m with
  | some builtin => exact Relates.builtin laws runs ⟨m, n, names, meaning⟩
  | none =>
    refine get.bind_of_evolving laws (fun left right machines => ?_) fun machine => ?_
    · rcases laws.lookup machines.vocabulary names meaning with found | ⟨missing, stop⟩
      · generalize left.vocabulary.get? m = seen at found
        generalize right.vocabulary.get? n = seen' at found
        cases found with
        | none => exact throw (laws.fault (.unknown names))
        | some meanings =>
          exact (Relates.note _ _).bind laws fun _ _ _ => perform runs meanings
      · rw [missing]
        exact fun _ _ _ => .leftStopped (stop _ _)
    · split <;> infer_instance

theorem word {v w : Word} (matched : v.Matches L.names w) :
    L.Relates Eq (v.perform run) (w.perform run') := by
  cases matched with
  | symbol names => exact call laws runs names
  | number value => exact push (.number value)
  | text value => exact push (.text value)
  | truth value => exact push (.truth value)
  | quote words => exact push (.quote words)

theorem quote {p q : Quote} (matched : Quote.Matches L.names p q) :
    L.Relates Eq (Quote.perform run p) (Quote.perform run' q) := by
  induction matched with
  | nil => exact pure rfl
  | cons head _ ih =>
    rw [Quote.perform_cons, Quote.perform_cons]
    exact (word laws runs head).bind laws fun _ _ _ => ih

end Lockstep.Relates

namespace Lockstep

variable {L : Lockstep}

/-- Quotes that match run in step with so many levels left on the left and `spare` more on the
right, if they do so when the levels on the left are used up. -/
theorem relates_evaluateWithin (laws : L.Lawful) {limit limit' spare : Nat}
    (last : ∀ q, L.Relates Eq (throw (.tooDeep limit)) (evaluateWithin limit' spare q))
    (levels : Nat) {p q : Quote} (matched : Quote.Matches L.names p q) :
    L.Relates Eq (evaluateWithin limit levels p) (evaluateWithin limit' (levels + spare) q) := by
  -- The levels on the left are counted down; the right side keeps its spare ones to the end.
  induction levels generalizing p q with
  | zero =>
    rw [Nat.zero_add]
    exact last q
  | succ levels ih =>
    rw [Nat.succ_add]
    exact (Relates.quote laws ih matched).deeper

/-- Quotes that match end in step from machines in step. -/
theorem outcome_evaluate (laws : L.Lawful) {limit limit' spare : Nat}
    (last : ∀ q, L.Relates Eq (throw (.tooDeep limit)) (evaluateWithin limit' spare q))
    {p q : Quote} (matched : Quote.Matches L.names p q) {left right : Machine}
    (machines : L.Machines left right)
    (levels : limit' - right.depth = limit - left.depth + spare) :
    L.Outcome Eq (evaluate limit p left) (evaluate limit' q right) := by
  unfold evaluate
  rw [levels]
  exact relates_evaluateWithin laws last (limit - left.depth) matched left right machines

/-- Quotes that match end in step from machines on the same level, with as many levels on both
sides. -/
theorem outcome_evaluate_of_level (laws : L.Lawful) (level : L.shift = 0) {limit : Nat}
    (tooDeep : L.faults (.tooDeep limit) (.tooDeep limit)) {p q : Quote}
    (matched : Quote.Matches L.names p q) {left right : Machine} (machines : L.Machines left right) :
    L.Outcome Eq (evaluate limit p left) (evaluate limit q right) := by
  have levels : limit - right.depth = limit - left.depth + 0 := by
    rw [machines.depth, level]
    omega
  exact outcome_evaluate laws (fun _ => Relates.throw tooDeep) matched machines levels

end Lockstep

end Concatenative
