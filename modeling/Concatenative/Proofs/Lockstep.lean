import Concatenative.Proofs.Evolution
import Concatenative.Proofs.Matching

/-!
# Two runs in lockstep

Many properties of programs compare two runs: on a longer stack, against a larger vocabulary, with
more levels. A `Lockstep` says how two machines may differ and still be at the same point of the
same program, and in which cases one run may stop with a fault while the other goes on. If it is
`Lockstep.Lawful`, that is, if the few basic actions keep two machines in step, then so does every
action built from them; the laws are stated about names, vocabularies and sinks, not about programs.
Definitions run in step if they have the same scope, or if scopes make no difference
(`Lockstep.Unscoped`).

An outcome (`Lockstep.Outcome`) leaves four cases: both runs succeed, both fail, the left one stops
alone, or the right one stops alone. After the left run has stopped, the right one goes on by itself
from a machine that is in step with nothing, so what can be said then is only what every run does to
its output.
-/

namespace Concatenative

open Exec

/-- How two machines in the same program may differ. Without further choices, not at all. -/
structure Lockstep where
  /-- The symbols that may stand on the right for a symbol on the left. -/
  names : String → String → Prop := (· = ·)
  /-- The words under the stack on the right. -/
  below : List Word := []
  /-- How many levels the machine on the right is deeper. -/
  shift : Nat := 0
  vocabularies : Vocabulary → Vocabulary → Prop := (· = ·)
  sinks : Sink → Sink → Prop := (· = ·)
  /-- The faults with which both runs may stop. -/
  faults : Fault → Fault → Prop := (· = ·)
  /-- The faults with which the left run may stop alone, with its sink at that point and the sink on
  the right at any point from then on. -/
  leftStops : Fault → Sink → Sink → Prop := fun _ _ _ => False
  /-- The faults with which the right run may stop alone. -/
  rightStops : Fault → Prop := fun _ => False

namespace Lockstep

/-! ## Machines and outcomes in step -/

/-- Whether two machines are in step. -/
structure Machines (L : Lockstep) (left right : Machine) : Prop where
  stack : ∃ top, Quote.Matches L.names left.stack top ∧ right.stack = top ++ L.below
  vocabulary : L.vocabularies left.vocabulary right.vocabulary
  depth : right.depth = left.depth + L.shift
  sink : L.sinks left.sink right.sink
  disk : right.disk = left.disk

/-- Whether two definitions have the same scope and bodies that match. -/
structure Definitions (L : Lockstep) (left right : Definition) : Prop where
  scope : left.scope = right.scope
  body : Quote.Matches L.names left.body right.body

/-- Whether it makes no difference in which vocabulary a body runs: vocabularies that were in step at
different times are in step with each other. -/
def Unscoped (L : Lockstep) : Prop :=
  ∀ ⦃v v' w w' : Vocabulary⦄, L.vocabularies v w → L.vocabularies v' w' → L.vocabularies v w'

/-- Whether two definitions run in step: their bodies match, and their scopes are the same or make no
difference. -/
structure Meanings (L : Lockstep) (left right : Definition) : Prop where
  scope : left.scope = right.scope ∨ L.Unscoped
  body : Quote.Matches L.names left.body right.body

/-- How two actions may end, with results that `values` relates if both succeed. -/
inductive Outcome (L : Lockstep) {α β : Type} (values : α → β → Prop) :
    EStateM.Result Fault Machine α → EStateM.Result Fault Machine β → Prop
  | done {a : α} {b : β} {left right : Machine} (value : values a b)
    (machines : L.Machines left right) : Outcome L values (.ok a left) (.ok b right)
  | failed {f g : Fault} {left right : Machine} (fault : L.faults f g)
    (machines : L.Machines left right) : Outcome L values (.error f left) (.error g right)
  | leftStopped {f : Fault} {left : Machine} {result : EStateM.Result Fault Machine β}
    (stop : L.leftStops f left.sink (machineAfter result).sink) :
    Outcome L values (.error f left) result
  | rightStopped {g : Fault} {right : Machine} {result : EStateM.Result Fault Machine α}
    (stop : L.rightStops g) : Outcome L values result (.error g right)

/-- Whether two actions lead from machines in step to outcomes in step. -/
def Relates (L : Lockstep) {α β : Type} (values : α → β → Prop) (x : Exec α) (y : Exec β) : Prop :=
  ∀ left right, L.Machines left right → L.Outcome values (x left) (y right)

/-- Where neither run may stop alone and faults are equal, both runs end the same way. -/
theorem Outcome.sameEnd {L : Lockstep} {α : Type} {result result' : EStateM.Result Fault Machine α}
    (outcome : L.Outcome Eq result result') (faults : ∀ f g, L.faults f g → f = g)
    (leftStops : ∀ f s t, ¬ L.leftStops f s t) (rightStops : ∀ g, ¬ L.rightStops g) :
    SameEnd L.Machines result result' := by
  cases outcome with
  | done value after =>
    subst value
    exact .ok after
  | failed fault after =>
    rw [faults _ _ fault]
    exact .error after
  | leftStopped stop => exact absurd stop (leftStops _ _ _)
  | rightStopped stop => exact absurd stop (rightStops _)

/-! ## Laws -/

/-- Whether a builtin can be called at all. -/
def Permits (L : Lockstep) (builtin : Builtin) : Prop :=
  ∃ m n, L.names m n ∧ Builtin.ofName? m = some builtin

/-- Builtins cannot be called if none of their names stands on the left. -/
theorem not_permits {L : Lockstep} {observers : List String} {builtins : List Builtin}
    (listed : ∀ name ∈ Builtin.names, ∀ builtin ∈ Builtin.ofName? name,
      builtin ∈ builtins → name ∈ observers)
    (avoided : ∀ m n, L.names m n → m ∉ observers) {builtin : Builtin} (mem : builtin ∈ builtins) :
    ¬ L.Permits builtin := by
  rintro ⟨m, n, names, meaning⟩
  exact avoided m n names (Builtin.mem_of_ofName? listed meaning mem)

/-- Whether two writes end in step, or the left one stops the left run. -/
inductive Writes (L : Lockstep) : Sink × Option Obstacle → Sink × Option Obstacle → Prop
  | both {left right : Sink} (obstacle : Option Obstacle) (sinks : L.sinks left right) :
    Writes L (left, obstacle) (right, obstacle)
  | leftStops {left right : Sink} {obstacle : Obstacle} {ending : Option Obstacle}
    (stop : L.leftStops (.access outputPath obstacle) left right) :
    Writes L (left, some obstacle) (right, ending)

/-- Whether a name has the same meaning on both sides, or none on the left, which stops the left
run. -/
def Finds (L : Lockstep) (name : String) (left right : Option Definition) : Prop :=
  Option.Rel L.Meanings left right ∨
    left = none ∧ ∀ sink sink', L.leftStops (.unknown name) sink sink'

/-- Whether a name is given a meaning on both sides or on neither, or is refused on the right, which
stops the right run. -/
inductive Defines (L : Lockstep) (m n : String) :
    Except Fault Vocabulary → Except Fault Vocabulary → Prop
  | both {left right : Vocabulary} (vocabularies : L.vocabularies left right) :
    Defines L m n (.ok left) (.ok right)
  | neither : Defines L m n (.error (.alreadyDefined m)) (.error (.alreadyDefined n))
  | rightStops {left : Except Fault Vocabulary} (stop : L.rightStops (.alreadyDefined n)) :
    Defines L m n left (.error (.alreadyDefined n))

/-- What has to hold of names and words for actions to keep machines in step. -/
structure RespectsWords (L : Lockstep) : Prop where
  builtin : ∀ {m n}, L.names m n → Builtin.ofName? m = Builtin.ofName? n
  fault : ∀ {f g : Fault}, f.Matches L.names g → L.faults f g
  same : ∀ {v v' w w' : Word}, L.Permits .eq → v.Matches L.names v' → w.Matches L.names w' →
    v.same w = v'.same w'
  toText : ∀ {v w : Word}, L.Permits .string → v.Matches L.names w → v.toText = w.toText
  symbol : L.Permits .symbol → ∀ name, name ≠ "" → L.names name name
  parse : L.Permits .parse → ∀ source words, Quote.ofSource source = .ok words →
    Quote.Matches L.names words words

/-- What has to hold of the parts of machines for actions to keep machines in step. -/
structure RespectsMachines (L : Lockstep) : Prop where
  underflow : L.below = [] ∨ ∀ accepted sink sink', L.leftStops (.mismatch accepted none) sink sink'
  write : ∀ {s t : Sink} (text : String), L.sinks s t → L.Writes (s.write text) (t.write text)
  showStack : ∀ {left right : Machine}, L.Permits .showStack → L.Machines left right →
    L.Writes (left.sink.write (left.renderStack ++ "\n"))
      (right.sink.write (right.renderStack ++ "\n"))
  lookup : ∀ {v w : Vocabulary} {m n : String}, L.vocabularies v w → L.names m n →
    Builtin.ofName? m = none → L.Finds m (v.get? m) (w.get? n)
  define : ∀ {v w : Vocabulary} {m n : String} {d e : Definition}, L.Permits (.define d.scope) →
    L.vocabularies v w → L.names m n → Builtin.ofName? m = none → L.Definitions d e →
    L.Defines m n (v.define m d) (w.define n e)
  stops : ∀ {f : Fault} {s t t' : Sink}, L.leftStops f s t →
    (∃ more, t'.written = t.written ++ more) → L.leftStops f s t'

/-- The laws of a lockstep. -/
structure Lawful (L : Lockstep) : Prop extends RespectsWords L, RespectsMachines L

/-! ## Equal words -/

section Unchanged

variable {L : Lockstep}

/-- Where matching words are equal, the laws about words say only which names can be made. -/
theorem RespectsWords.of_unchanged (unchanged : ∀ m n, L.names m n → m = n)
    (fault : ∀ f g : Fault, f.Matches L.names g → L.faults f g)
    (symbol : L.Permits .symbol → ∀ name, name ≠ "" → L.names name name)
    (parse : L.Permits .parse → ∀ source words, Quote.ofSource source = .ok words →
      Quote.Matches L.names words words) : L.RespectsWords where
  builtin h := by rw [unchanged _ _ h]
  fault h := fault _ _ h
  same _ h k := by rw [h.eq unchanged, k.eq unchanged]
  toText _ h := by rw [h.eq unchanged]
  symbol := symbol
  parse := parse

/-- Where matching words are equal, so are definitions. -/
theorem Definitions.eq (unchanged : ∀ m n, L.names m n → m = n) {d e : Definition}
    (definitions : L.Definitions d e) : d = e := by
  obtain ⟨scope, body⟩ := d
  obtain ⟨scope', body'⟩ := e
  rw [show scope = scope' from definitions.scope, show body = body' from definitions.body.eq unchanged]

/-- Where matching words are equal and no words lie below, so are stacks. -/
theorem Machines.stack_eq (unchanged : ∀ m n, L.names m n → m = n) (below : L.below = [])
    {left right : Machine} (machines : L.Machines left right) : right.stack = left.stack := by
  obtain ⟨top, tops, stack⟩ := machines.stack
  rw [stack, below, List.append_nil, tops.eq unchanged]

/-- Where all names stand for themselves and no words lie below, equal stacks are in step. -/
theorem stack_of_eq (names : L.names = (· = ·)) (below : L.below = []) {left right : List Word}
    (same : right = left) : ∃ top, Quote.Matches L.names left top ∧ right = top ++ L.below := by
  refine ⟨left, Quote.matches_self (fun name => ?_) left, ?_⟩
  · rw [names]
  · rw [same, below, List.append_nil]

/-- Where all names stand for themselves only, the laws about words hold. -/
theorem RespectsWords.of_eq (names : L.names = (· = ·))
    (fault : ∀ f : Fault, (∀ limit, f ≠ .tooDeep limit) → L.faults f f) : L.RespectsWords := by
  have unchanged : ∀ m n, L.names m n → m = n := by
    intro m n h
    rwa [names] at h
  refine .of_unchanged unchanged (fun f g matched => ?_) (fun _ name _ => ?_)
    fun _ source words _ => Quote.matches_self (fun name => ?_) words
  · have same := matched.eq unchanged
    subst same
    exact fault f matched.ne_tooDeep
  all_goals rw [names]

/-- Where sinks are equal, every text is written in step. -/
theorem writes_of_eq (sinks : L.sinks = (· = ·)) {s t : Sink} (text : String) (same : L.sinks s t) :
    L.Writes (s.write text) (t.write text) := by
  rw [sinks] at same
  subst same
  exact .both (s.write text).2 (by rw [sinks])

/-- Where matching words are equal and no words lie below, the whole stack is shown in step if each
text is written in step. -/
theorem writes_renderStack (unchanged : ∀ m n, L.names m n → m = n) (below : L.below = [])
    (write : ∀ {s t : Sink} (text : String), L.sinks s t → L.Writes (s.write text) (t.write text))
    {left right : Machine} (machines : L.Machines left right) :
    L.Writes (left.sink.write (left.renderStack ++ "\n"))
      (right.sink.write (right.renderStack ++ "\n")) := by
  have same : right.renderStack = left.renderStack := by
    unfold Machine.renderStack
    rw [machines.stack_eq unchanged below]
  rw [same]
  exact write _ machines.sink

/-- Two machines that differ in sinks, levels and notes at most are kept in step if writing keeps
them in step. -/
theorem Lawful.of_eq (names : L.names = (· = ·)) (below : L.below = [])
    (vocabularies : L.vocabularies = (· = ·))
    (fault : ∀ f : Fault, (∀ limit, f ≠ .tooDeep limit) → L.faults f f)
    (write : ∀ {s t : Sink} (text : String), L.sinks s t → L.Writes (s.write text) (t.write text))
    (stops : ∀ {f : Fault} {s t t' : Sink}, L.leftStops f s t →
      (∃ more, t'.written = t.written ++ more) → L.leftStops f s t') : L.Lawful := by
  have unchanged : ∀ m n, L.names m n → m = n := by
    intro m n h
    rwa [names] at h
  have same : ∀ words, Quote.Matches L.names words words := fun words =>
    Quote.matches_self (fun name => by rw [names]) words
  refine { RespectsWords.of_eq names fault with
    underflow := .inl below
    write := write
    showStack := fun _ => writes_renderStack unchanged below write
    lookup := ?_
    define := ?_
    stops := stops }
  · intro v w m n hv hn _
    rw [vocabularies] at hv
    rw [names] at hn
    subst hv hn
    refine .inl ?_
    cases v.get? m with
    | none => exact .none
    | some definition => exact .some ⟨.inl rfl, same definition.body⟩
  · intro v w m n d e _ hv hn _ definitions
    have equal : d = e := definitions.eq unchanged
    rw [vocabularies] at hv
    rw [names] at hn
    subst hv hn equal
    cases defined : v.define m d with
    | error fault =>
      obtain ⟨_, rfl⟩ := Vocabulary.define_eq_error_iff.1 defined
      exact .neither
    | ok after => exact .both (by rw [vocabularies])

end Unchanged

/-! ## Actions in a row -/

namespace Relates

variable {L : Lockstep} {α β γ δ : Type} {values : α → β → Prop} {results : γ → δ → Prop}
  {x : Exec α} {y : Exec β}

theorem pure {a : α} {b : β} (value : values a b) : L.Relates values (pure a) (pure b) :=
  fun _ _ machines => .done value machines

theorem throw {f g : Fault} (fault : L.faults f g) :
    L.Relates values (throw f) (throw g) :=
  fun _ _ machines => .failed fault machines

theorem get : L.Relates L.Machines get get :=
  fun _ _ machines => .done machines machines

/-- Two actions in a row keep machines in step if each does. The second one on the right has to be
one that adds to the output only, for the case that the left run has stopped before it. -/
theorem bind_of_evolving (laws : L.Lawful) (first : L.Relates values x y) {f : α → Exec γ}
    {g : β → Exec δ} (second : ∀ a b, values a b → L.Relates results (f a) (g b))
    (later : ∀ b, Evolving (g b)) : L.Relates results (x >>= f) (y >>= g) := by
  intro left right machines
  show L.Outcome results (EStateM.bind x f left) (EStateM.bind y g right)
  unfold EStateM.bind
  have outcome := first left right machines
  cases hx : x left with
  | ok a left' =>
    cases hy : y right with
    | ok b right' =>
      rw [hx, hy] at outcome
      cases outcome with
      | done value machines => exact second a b value left' right' machines
    | error g right' =>
      -- The left run goes on alone, and nothing is asked of it any more.
      rw [hx, hy] at outcome
      cases outcome with
      | rightStopped stop => exact .rightStopped stop
  | error f left' =>
    cases hy : y right with
    | ok b right' =>
      -- The right run goes on alone, but all it does to the output is to add to it.
      rw [hx, hy] at outcome
      cases outcome with
      | leftStopped stop => exact .leftStopped (laws.stops stop (evolves (g b) right').output)
    | error g right' =>
      rw [hx, hy] at outcome
      cases outcome with
      | failed fault machines => exact .failed fault machines
      | leftStopped stop => exact .leftStopped stop
      | rightStopped stop => exact .rightStopped stop

theorem bind (laws : L.Lawful) (first : L.Relates values x y) {f : α → Exec γ} {g : β → Exec δ}
    (second : ∀ a b, values a b → L.Relates results (f a) (g b)) [later : ∀ b, Evolving (g b)] :
    L.Relates results (x >>= f) (y >>= g) :=
  first.bind_of_evolving laws second later

end Relates

/-! ## Basic actions -/

section Actions

variable {L : Lockstep} {α β : Type} {values : α → β → Prop} {left right : Machine}

/-- Machines in step stay in step when words that match are put in the place of their stacks. -/
theorem Machines.restack (machines : L.Machines left right) {s t u : List Word}
    (h : Quote.Matches L.names s t) (whole : u = t ++ L.below) :
    L.Machines { left with stack := s } { right with stack := u } :=
  ⟨⟨t, h, whole⟩, machines.vocabulary, machines.depth, machines.sink, machines.disk⟩

theorem Relates.note (entry entry' : Note) : L.Relates Eq (note entry) (note entry') :=
  fun _ _ machines => .done rfl
    ⟨machines.stack, machines.vocabulary, machines.depth, machines.sink, machines.disk⟩

theorem Relates.pushAll {p q : Quote} (h : Quote.Matches L.names p q) :
    L.Relates Eq (pushAll p) (pushAll q) := by
  intro left right machines
  obtain ⟨top, tops, stack⟩ := machines.stack
  have pushed : q.reverseAux right.stack = (q.reverse ++ top) ++ L.below := by
    rw [stack, List.reverseAux_eq, List.append_assoc]
  have matched : Quote.Matches L.names (p.reverseAux left.stack) (q.reverse ++ top) := by
    rw [List.reverseAux_eq]
    exact List.rel_append (List.rel_reverse h) tops
  exact .done rfl (machines.restack matched pushed)

theorem Relates.push {v w : Word} (h : v.Matches L.names w) : L.Relates Eq (push v) (push w) :=
  Relates.pushAll (p := [v]) (q := [w]) (.cons h .nil)

/-- Taking a word keeps machines in step if both sides see related things in words that match. An
empty stack on the left is where the words under the stack on the right show. -/
theorem Relates.takeAs (laws : L.Lawful) (accepted : List Kind) {view : Word → Option α}
    {view' : Word → Option β}
    (views : ∀ {v w : Word}, v.Matches L.names w → Option.Rel values (view v) (view' w)) :
    L.Relates values (takeAs accepted view) (takeAs accepted view') := by
  intro left right machines
  obtain ⟨top, tops, stack⟩ := machines.stack
  unfold Exec.takeAs
  cases hl : left.stack with
  | nil =>
    -- Whatever the right run takes here lies below the words that are in step.
    rw [hl] at tops
    cases tops
    rcases laws.underflow with nothing | stop
    · rw [stack, nothing]
      exact .failed (laws.fault (.mismatch accepted none)) machines
    · exact .leftStopped (stop accepted _ _)
  | cons v rest =>
    rw [hl] at tops
    cases tops with
    | cons matched rests =>
      rw [stack, List.cons_append]
      dsimp only
      generalize hv : view v = seen
      generalize hw : view' _ = seen'
      have related := views matched
      rw [hv, hw] at related
      cases related with
      | some related => exact .done related (machines.restack rests rfl)
      | none =>
        rw [matched.kind_eq]
        exact .failed (laws.fault (.mismatch accepted _)) machines

theorem Relates.takeAny (laws : L.Lawful) :
    L.Relates (Word.Matches L.names) takeAny takeAny := by
  refine Relates.takeAs laws Kind.all fun {v w} matched => ?_
  rw [if_pos (Kind.mem_all v.kind), if_pos (Kind.mem_all w.kind)]
  exact .some matched

theorem Relates.takeNumber (laws : L.Lawful) : L.Relates Eq takeNumber takeNumber :=
  Relates.takeAs laws _ Word.Matches.number?

theorem Relates.takeText (laws : L.Lawful) : L.Relates Eq takeText takeText :=
  Relates.takeAs laws _ Word.Matches.text?

theorem Relates.takeTruth (laws : L.Lawful) : L.Relates Eq takeTruth takeTruth :=
  Relates.takeAs laws _ Word.Matches.truth?

theorem Relates.takeQuote (laws : L.Lawful) :
    L.Relates (Quote.Matches L.names) takeQuote takeQuote :=
  Relates.takeAs laws _ Word.Matches.quote?

/-- The same result, or the same error, goes on in step. -/
theorem Relates.ofExcept (laws : L.Lawful) {ε : Type} {fault : ε → Fault} {result : Except ε α}
    (faults : ∀ error, result = .error error → (fault error).Matches L.names (fault error)) :
    L.Relates Eq (ofExcept fault result) (ofExcept fault result) := by
  cases result with
  | ok value => exact Relates.pure rfl
  | error error => exact Relates.throw (laws.fault (faults error rfl))

/-- Texts whose writes end in step are written in step. -/
theorem Outcome.emit (laws : L.Lawful) {text text' : String} (machines : L.Machines left right)
    (writes : L.Writes (left.sink.write text) (right.sink.write text')) :
    L.Outcome Eq (emit text left) (emit text' right) := by
  unfold Exec.emit
  generalize left.sink.write text = written at writes
  generalize right.sink.write text' = written' at writes
  cases writes with
  | @both sink sink' obstacle sinks =>
    have after : L.Machines { left with sink } { right with sink := sink' } :=
      ⟨machines.stack, machines.vocabulary, machines.depth, sinks, machines.disk⟩
    cases obstacle with
    | none => exact .done rfl after
    | some obstacle => exact .failed (laws.fault (.access outputPath obstacle)) after
  | @leftStops _ _ _ ending stop => cases ending <;> exact .leftStopped stop

theorem Relates.readFile (laws : L.Lawful) (path : String) :
    L.Relates Eq (readFile path) (readFile path) := by
  refine Relates.get.bind laws fun left right machines => ?_
  rw [machines.disk]
  exact Relates.ofExcept laws fun obstacle _ => .access path obstacle

theorem Relates.writeFile (laws : L.Lawful) (path contents : String) :
    L.Relates Eq (writeFile path contents) (writeFile path contents) := by
  have store : ∀ disk : Disk, L.Relates Eq
      (modify fun machine : Machine => { machine with disk })
      (modify fun machine : Machine => { machine with disk }) := fun disk left right machines =>
    .done rfl ⟨machines.stack, machines.vocabulary, machines.depth, machines.sink, rfl⟩
  refine Relates.get.bind laws fun left right machines => ?_
  rw [machines.disk]
  refine (Relates.ofExcept laws fun obstacle _ => .access path obstacle).bind laws ?_
  rintro disk _ rfl
  exact store disk

/-- Sources are read in step where the programs they stand for match themselves. -/
theorem Relates.parse (laws : L.Lawful) (permitted : L.Permits .parse) (source : String) :
    L.Relates (Quote.Matches L.names) (parse source) (parse source) := by
  intro left right machines
  obtain ⟨log, hl⟩ := parse_apply source left
  obtain ⟨log', hr⟩ := parse_apply source right
  have after : L.Machines { left with log } { right with log := log' } :=
    ⟨machines.stack, machines.vocabulary, machines.depth, machines.sink, machines.disk⟩
  rw [hl, hr]
  cases read : Quote.ofSource source with
  | error error => exact .failed (laws.fault (.malformed error)) after
  | ok words => exact .done (laws.parse permitted source words read) after

/-- Names in step are given meanings in step. -/
theorem Relates.define (laws : L.Lawful) {m n : String} {d e : Definition}
    (permitted : L.Permits (.define d.scope)) (names : L.names m n)
    (free : Builtin.ofName? m = none) (definitions : L.Definitions d e) :
    L.Relates Eq (define m d) (define n e) := by
  intro left right machines
  have defines := laws.define permitted machines.vocabulary names free definitions
  rw [define_apply, define_apply]
  generalize left.vocabulary.define m d = result at defines
  generalize right.vocabulary.define n e = result' at defines
  cases defines with
  | both vocabularies =>
    exact .done rfl ⟨machines.stack, vocabularies, machines.depth, machines.sink, machines.disk⟩
  | neither => exact .failed (laws.fault (.alreadyDefined names)) machines
  | rightStops stop => exact .rightStopped stop

/-! ## Scopes and levels -/

/-- The same end with another vocabulary, which may depend on the machine. -/
def rescope (vocabulary : Machine → Vocabulary) :
    EStateM.Result Fault Machine α → EStateM.Result Fault Machine α
  | .ok value machine => .ok value { machine with vocabulary := vocabulary machine }
  | .error fault machine => .error fault { machine with vocabulary := vocabulary machine }

theorem rescope_self (result : EStateM.Result Fault Machine α) :
    rescope Machine.vocabulary result = result := by
  cases result <;> rfl

theorem isolated_eq_rescope (x : Exec α) (machine : Machine) :
    isolated x machine = rescope (fun _ => machine.vocabulary) (x machine) := by
  unfold Exec.isolated
  cases x machine <;> rfl

/-- Outcomes stay in step when vocabularies in step are put in the place of theirs. -/
theorem Outcome.rescope {result : EStateM.Result Fault Machine α}
    {result' : EStateM.Result Fault Machine β} (outcome : L.Outcome values result result')
    {v w : Machine → Vocabulary}
    (vocabularies : ∀ {left right}, L.Machines left right → L.vocabularies (v left) (w right)) :
    L.Outcome values (Lockstep.rescope v result) (Lockstep.rescope w result') := by
  have back : ∀ {left right : Machine}, L.Machines left right → L.Machines
      { left with vocabulary := v left } { right with vocabulary := w right } := fun after =>
    ⟨after.stack, vocabularies after, after.depth, after.sink, after.disk⟩
  cases outcome with
  | done value after => exact .done value (back after)
  | failed fault after => exact .failed fault (back after)
  | leftStopped stop => cases result' <;> exact .leftStopped stop
  | rightStopped stop => exact .rightStopped stop

section Scopes

variable {x : Exec α} {y : Exec β} (inner : L.Relates values x y)

include inner

/-- The vocabularies put back were in step before, whatever became of them inside. -/
theorem Relates.isolated : L.Relates values (isolated x) (isolated y) := by
  intro left right machines
  rw [isolated_eq_rescope, isolated_eq_rescope]
  exact (inner left right machines).rescope fun _ => machines.vocabulary

/-- Where scopes make no difference, the left action may run in a scope of its own. -/
theorem Relates.isolated_left (unscoped : L.Unscoped) : L.Relates values (Exec.isolated x) y := by
  intro left right machines
  rw [isolated_eq_rescope, ← rescope_self (y right)]
  exact (inner left right machines).rescope fun after =>
    unscoped machines.vocabulary after.vocabulary

/-- Where scopes make no difference, the right action may run in a scope of its own. -/
theorem Relates.isolated_right (unscoped : L.Unscoped) : L.Relates values x (Exec.isolated y) := by
  intro left right machines
  rw [isolated_eq_rescope, ← rescope_self (x left)]
  exact (inner left right machines).rescope fun after =>
    unscoped after.vocabulary machines.vocabulary

end Scopes

/-- The left action has to come back to its own level, or the levels could not be told apart at
zero. -/
theorem Relates.deeper {x : Exec α} {y : Exec β} [Evolving x] (inner : L.Relates values x y) :
    L.Relates values (deeper x) (deeper y) := by
  intro left right machines
  have entered : L.Machines { left with depth := left.depth + 1 }
      { right with depth := right.depth + 1 } :=
    ⟨machines.stack, machines.vocabulary, by simp only [machines.depth]; omega, machines.sink,
      machines.disk⟩
  have back : ∀ {left' right' : Machine}, left'.depth = left.depth + 1 → L.Machines left' right' →
      L.Machines { left' with depth := left'.depth - 1 }
        { right' with depth := right'.depth - 1 } := fun level after =>
    ⟨after.stack, after.vocabulary, by simp only [after.depth, level]; omega, after.sink,
      after.disk⟩
  -- At level zero the subtraction would lose the difference, so the level on the left has to be known.
  have level := (evolves x { left with depth := left.depth + 1 }).depth
  have outcome := inner _ _ entered
  unfold Exec.deeper
  generalize x { left with depth := left.depth + 1 } = result at outcome level
  generalize y { right with depth := right.depth + 1 } = result' at outcome
  cases outcome with
  | done value after => exact .done value (back level after)
  | failed fault after => exact .failed fault (back level after)
  | leftStopped stop => cases result' <;> exact .leftStopped stop
  | rightStopped stop => exact .rightStopped stop

end Actions

end Lockstep

end Concatenative
