import Concatenative.Proofs.BigStep

/-!
# What a failing builtin leaves behind

A builtin takes its operands first, the one on top of the stack first, and acts on them afterwards.
It can fail in either part, and what is left of the stack tells which. An operand that is refused
stays on top, and only the operands above it are gone. Once all operands are gone nothing more is
taken, so whatever fails later leaves the stack below them. Nothing is put on the stack before the
last thing that can fail, and neither the vocabulary nor the level is touched in either part
(`Builtin.leftover_of_error`).

The three builtins that run quotes do so after the same first part; what the quote leaves is then its
own affair.
-/

namespace Concatenative

open Exec

/-- The kinds that a builtin accepts for its operands, the one on top first. What `cat` accepts below
depends on what is on top. -/
def Builtin.operands (top : Option Kind) : Builtin → List (List Kind)
  | arithmetic _ => [[.number], [.number]]
  | and | or => [[.truth], [.truth]]
  | not => [[.truth]]
  | eq | swap | copyBelow => [Kind.all, Kind.all]
  | dup | drop | wrap | type | string => [Kind.all]
  | dip | cons => [[.quote], Kind.all]
  | eval | unwrap | uncons | join => [[.quote]]
  | ifte => [[.quote], [.quote], [.truth]]
  | cat => [[.quote, .text], if top = some .text then [.text] else [.quote]]
  | define _ => [[.quote], [.quote]]
  | split | parse | number | symbol | print | read => [[.text]]
  | write => [[.text], [.text]]
  | showStack | exit => []

/-! ## Refused operands -/

/-- Whether a fault is the refusal of an operand after the operands in `removed` were taken: they have
the kinds that are accepted, the word that is then on top has none of those accepted next, or there is
no word, and the fault names what it found. -/
structure OperandRefused (kinds : List (List Kind)) (removed left : List Word)
    (accepted : List Kind) (fault : Fault) : Prop where
  taken : Fits removed (kinds.take removed.length)
  next : kinds[removed.length]? = some accepted
  top : ∀ word ∈ left.head?, word.kind ∉ accepted
  cause : fault = .mismatch accepted (left.head?.map Word.kind)
  report : fault.diagnostic = .mismatch (Kind.describe accepted)
    ((left.head?.map fun word => word.kind.tag).getD "empty stack")

/-- Fewer operands were taken than there are. -/
theorem OperandRefused.length_lt {kinds : List (List Kind)} {removed left : List Word}
    {accepted : List Kind} {fault : Fault}
    (refused : OperandRefused kinds removed left accepted fault) :
    removed.length < kinds.length :=
  (List.getElem?_eq_some_iff.1 refused.next).1

/-- A refused operand is on top of what is left, and the words above it were taken. -/
theorem Refuses.exists_removed {kinds : List (List Kind)} {stack left : List Word} {fault : Fault}
    (refuses : Refuses kinds stack fault left) :
    ∃ removed accepted, stack = removed ++ left ∧
      OperandRefused kinds removed left accepted fault := by
  induction refuses with
  | nothing accepted more => exact ⟨[], accepted, rfl, .nil, rfl, nofun, rfl, rfl⟩
  | @other accepted word kind more rest =>
    refine ⟨[], accepted, rfl, .nil, rfl, ?_, rfl, rfl⟩
    intro top same
    cases same
    exact kind
  | @later accepted word kind more rest left fault _ ih =>
    obtain ⟨removed, next, stack, refused⟩ := ih
    refine ⟨word :: removed, next, ?_, ?_⟩
    · rw [stack, List.cons_append]
    · exact ⟨.cons kind refused.taken, refused.next, refused.top, refused.cause, refused.report⟩

/-! ## Actions that take operands -/

/-- What is left when an action fails on a machine: an operand was refused, or all were taken and the
fault is one of those that may come `late`. -/
structure Exec.Leftover (kinds : List (List Kind)) (late : Fault → Prop) (before : Machine)
    (fault : Fault) (after : Machine) : Prop where
  vocabulary : after.vocabulary = before.vocabulary
  depth : after.depth = before.depth
  stack : Refuses kinds before.stack fault after.stack ∨
    ∃ removed, before.stack = removed ++ after.stack ∧ Fits removed kinds ∧ late fault

/-- Whether an action on a machine, if it fails, leaves what is left after operands of these kinds. -/
def Exec.LeavesOff (kinds : List (List Kind)) (late : Fault → Prop) {α : Type} (action : Exec α)
    (machine : Machine) : Prop :=
  ∀ fault after, action machine = .error fault after → Leftover kinds late machine fault after

namespace Exec.LeavesOff

variable {kinds more : List (List Kind)} {accepted : List Kind} {late : Fault → Prop}
  {machine : Machine} {α β : Type}

/-- An action that does not fail leaves nothing to say. -/
theorem of_ok {action : Exec α} {value : α} {after : Machine}
    (done : action machine = .ok value after) : LeavesOff kinds late action machine := by
  intro fault failed error
  rw [done] at error
  cases error

/-- An action that fails without taking anything, when all operands have been taken before. -/
theorem of_error {action : Exec α} {fault : Fault} {after : Machine}
    (failed : action machine = .error fault after) (stack : after.stack = machine.stack)
    (vocabulary : after.vocabulary = machine.vocabulary) (depth : after.depth = machine.depth)
    (holds : late fault) : LeavesOff [] late action machine := by
  intro fault' after' error
  rw [failed] at error
  cases error
  exact ⟨vocabulary, depth, .inr ⟨[], stack.symm, .nil, holds⟩⟩

theorem throw {fault : Fault} (holds : late fault) :
    LeavesOff [] late (throw fault : Exec α) machine :=
  of_error rfl rfl rfl rfl holds

/-- More faults may come late. -/
theorem mono {late' : Fault → Prop} {action : Exec α} (left : LeavesOff kinds late action machine)
    (more : ∀ fault, late fault → late' fault) : LeavesOff kinds late' action machine := by
  intro fault after failed
  obtain ⟨vocabulary, depth, stack⟩ := left fault after failed
  exact ⟨vocabulary, depth, stack.imp_right fun ⟨removed, split, fit, holds⟩ =>
    ⟨removed, split, fit, more fault holds⟩⟩

theorem push (word : Word) : LeavesOff kinds late (push word) machine :=
  of_ok rfl

/-- Taking an operand and going on. What is accepted behind it may depend on what it is. -/
theorem takeAs_bind {view : Word → Option α} {next : α → Exec β}
    (fits : ∀ word, word.kind ∈ accepted ↔ (view word).isSome = true)
    (rest : ∀ word below value, machine.stack = word :: below → view word = some value →
      LeavesOff more late (next value) { machine with stack := below }) :
    LeavesOff (accepted :: more) late (takeAs accepted view >>= next) machine := by
  intro fault failed error
  cases stack : machine.stack with
  | nil =>
    have refused : takeAs accepted view machine = .error (.mismatch accepted none) machine := by
      unfold takeAs
      rw [stack]
    rw [bind_of_error refused] at error
    cases error
    refine ⟨rfl, rfl, .inl ?_⟩
    rw [stack]
    exact .nothing accepted more
  | cons word below =>
    cases seen : view word with
    | none =>
      have refused : takeAs accepted view machine =
          .error (.mismatch accepted (some word.kind)) machine := by
        unfold takeAs
        rw [stack]
        simp only [seen]
      have kind : word.kind ∉ accepted := by
        rw [fits, seen]
        exact Bool.false_ne_true
      rw [bind_of_error refused] at error
      cases error
      refine ⟨rfl, rfl, .inl ?_⟩
      rw [stack]
      exact .other kind more below
    | some value =>
      have taken : takeAs accepted view machine = .ok value { machine with stack := below } := by
        unfold takeAs
        rw [stack]
        simp only [seen]
      have kind : word.kind ∈ accepted := by
        rw [fits, seen]
        rfl
      rw [bind_of_ok taken] at error
      have left := rest word below value stack seen fault failed error
      refine ⟨left.vocabulary, left.depth, ?_⟩
      rw [stack]
      rcases left.stack with refused | ⟨removed, split, fit, holds⟩
      · exact .inl (.later kind refused)
      · refine .inr ⟨word :: removed, ?_, .cons kind fit, holds⟩
        rw [show below = removed ++ failed.stack from split, List.cons_append]

section Operands

variable {next : Word → Exec β} {ofNumber : Float → Exec β} {ofText : String → Exec β}
  {ofTruth : Bool → Exec β} {ofQuote : Quote → Exec β}

theorem takeAny (rest : ∀ value below,
    LeavesOff more late (next value) { machine with stack := below }) :
    LeavesOff (Kind.all :: more) late (takeAny >>= next) machine := by
  refine takeAs_bind (fun word => ?_) fun _ below value _ _ => rest value below
  simp [Kind.mem_all word.kind]

theorem takeNumber (rest : ∀ value below,
    LeavesOff more late (ofNumber value) { machine with stack := below }) :
    LeavesOff ([.number] :: more) late (takeNumber >>= ofNumber) machine := by
  refine takeAs_bind (fun word => ?_) fun _ below value _ _ => rest value below
  cases word <;> simp [Word.kind, Word.number?]

theorem takeText (rest : ∀ value below,
    LeavesOff more late (ofText value) { machine with stack := below }) :
    LeavesOff ([.text] :: more) late (takeText >>= ofText) machine := by
  refine takeAs_bind (fun word => ?_) fun _ below value _ _ => rest value below
  cases word <;> simp [Word.kind, Word.text?]

theorem takeTruth (rest : ∀ value below,
    LeavesOff more late (ofTruth value) { machine with stack := below }) :
    LeavesOff ([.truth] :: more) late (takeTruth >>= ofTruth) machine :=
  takeAs_bind Word.kind_mem_truth_iff fun _ below value _ _ => rest value below

theorem takeQuote (rest : ∀ value below,
    LeavesOff more late (ofQuote value) { machine with stack := below }) :
    LeavesOff ([.quote] :: more) late (takeQuote >>= ofQuote) machine :=
  takeAs_bind Word.kind_mem_quote_iff fun _ below value _ _ => rest value below

end Operands

/-- A computation that may fail, and then a word on the stack. -/
theorem ofExcept_push {ε : Type} {fault : ε → Fault} {result : Except ε α} {word : α → Word}
    (holds : ∀ error, result = .error error → late (fault error)) :
    LeavesOff [] late (ofExcept fault result >>= fun value => Exec.push (word value)) machine := by
  cases result with
  | ok value => exact of_ok rfl
  | error error => exact of_error rfl rfl rfl rfl (holds error rfl)

/-! ## Actions that take nothing -/

theorem emit {text : String} (holds : ∀ obstacle, late (.access outputPath obstacle)) :
    LeavesOff [] late (emit text) machine := by
  unfold LeavesOff Exec.emit
  intro fault after error
  split at error
  · cases error
  · cases error
    exact ⟨rfl, rfl, .inr ⟨[], rfl, .nil, holds _⟩⟩

theorem writeFile {path contents : String} (holds : ∀ obstacle, late (.access path obstacle)) :
    LeavesOff [] late (writeFile path contents) machine := by
  have opened : Exec.writeFile path contents machine =
      (ofExcept (.access path) (machine.disk.write path contents) >>= fun disk =>
        modify fun machine => { machine with disk }) machine := rfl
  cases written : machine.disk.write path contents with
  | ok disk =>
    rw [written] at opened
    exact of_ok opened
  | error obstacle =>
    rw [written] at opened
    exact of_error opened rfl rfl rfl (holds obstacle)

theorem parse_push {source : String} (holds : ∀ error, late (.malformed error)) :
    LeavesOff [] late (parse source >>= fun words => Exec.push (.quote words)) machine := by
  obtain ⟨log, parsed⟩ := parse_apply source machine
  cases read : Quote.ofSource source with
  | ok words =>
    rw [read] at parsed
    exact of_ok (bind_of_ok parsed)
  | error error =>
    rw [read] at parsed
    exact of_error (bind_of_error parsed) rfl rfl rfl (holds error)

theorem nameDefinition {scope : Scope} {label body : Quote}
    (holds : ∀ fault : Fault, fault.category = .definition → late fault) :
    LeavesOff [] late (nameDefinition scope label body) machine := by
  unfold Exec.nameDefinition
  split
  · exact throw (holds _ rfl)
  · split
    · exact throw (holds _ rfl)
    · next name _ _ =>
      have defined := define_apply name ⟨scope, body⟩ machine
      cases result : machine.vocabulary.define name ⟨scope, body⟩ with
      | ok vocabulary =>
        rw [result] at defined
        exact of_ok defined
      | error fault =>
        rw [result] at defined
        obtain ⟨-, rfl⟩ := Vocabulary.define_eq_error_iff.1 result
        exact of_error defined rfl rfl rfl (holds _ rfl)

end Exec.LeavesOff

/-! ## Builtins -/

/-- The kind that `join` complains about is none that it accepts. -/
theorem Quote.kind_ne_text_of_joinTexts {words : Quote} {kind : Kind}
    (failed : words.joinTexts = .error kind) : kind ≠ .text := by
  unfold Quote.joinTexts at failed
  generalize "" = joined at failed
  induction words generalizing joined with
  | nil => cases failed
  | cons word words ih =>
    rw [List.foldlM_cons] at failed
    cases word with
    | text value => exact ih _ failed
    | _ =>
      cases failed
      exact nofun

/-- Whether a fault is one with which a builtin may stop when it has its operands. -/
def Builtin.MayFailWith (builtin : Builtin) (fault : Fault) : Prop :=
  fault.category ∈ [.domain, .definition, .access, .malformed, .exit] ∨
    builtin = .join ∧ ∃ kind, kind ≠ .text ∧ fault = .mismatch [.text] (some kind)

namespace Builtin

open Exec.LeavesOff

theorem mayFailWith_of_category {builtin : Builtin} {fault : Fault} (category : Category)
    (same : fault.category = category)
    (member : category ∈ [Category.domain, .definition, .access, .malformed, .exit] := by decide) :
    builtin.MayFailWith fault :=
  .inl (same ▸ member)

/-- Whether a builtin may stop with a fault when it has its operands, which is a request to leave only
for `exit`. -/
def StopsWith (builtin : Builtin) (fault : Fault) : Prop :=
  builtin.MayFailWith fault ∧ (fault = .exit → builtin = .exit)

theorem stopsWith_of_category {builtin : Builtin} {fault : Fault} (category : Category)
    (same : fault.category = category)
    (member : category ∈ [Category.domain, .definition, .access, .malformed] := by decide) :
    builtin.StopsWith fault := by
  have listed : [Category.domain, .definition, .access, .malformed] ⊆
      [Category.domain, .definition, .access, .malformed, .exit] := by decide
  refine ⟨mayFailWith_of_category category same (listed member), fun leaves => ?_⟩
  rw [← same, leaves] at member
  exact absurd member (by decide)

theorem stopsWith_join {kind : Kind} (other : kind ≠ .text) :
    join.StopsWith (.mismatch [.text] (some kind)) :=
  ⟨.inr ⟨rfl, kind, other, rfl⟩, fun leaves => absurd leaves (by simp)⟩

/-- A builtin that runs no quotes and fails leaves what is left after its operands, and it asks to
leave only if it is `exit`. -/
theorem leavesOff_stopsWith {builtin : Builtin} (simple : builtin.runsQuotes = false)
    (run : Quote → Exec Unit) (machine : Machine) :
    LeavesOff (builtin.operands (machine.stack.head?.map Word.kind)) builtin.StopsWith
      (builtin.perform run) machine := by
  have domain : ∀ fault : Fault, fault.category = .domain → builtin.StopsWith fault :=
    fun fault => stopsWith_of_category .domain
  have definition : ∀ fault : Fault, fault.category = .definition → builtin.StopsWith fault :=
    fun fault => stopsWith_of_category .definition
  have access : ∀ path obstacle, builtin.StopsWith (.access path obstacle) :=
    fun path obstacle => stopsWith_of_category .access rfl
  cases builtin with
  | dip | eval | ifte => cases simple
  | arithmetic operator =>
    refine takeNumber fun right below => takeNumber fun left below => ofExcept_push ?_
    intro fault failed
    rw [operator.eq_divisionByZero failed]
    exact domain _ rfl
  | and | or => exact takeTruth fun right below => takeTruth fun left below => push _
  | not => exact takeTruth fun value below => push _
  | eq => exact takeAny fun right below => takeAny fun left below => push _
  | dup => exact takeAny fun word below => of_ok rfl
  | drop => exact takeAny fun word below => of_ok rfl
  | swap => exact takeAny fun top below => takeAny fun second below => of_ok rfl
  | copyBelow => exact takeAny fun top below => takeAny fun second below => of_ok rfl
  | wrap => exact takeAny fun word below => push _
  | unwrap => exact takeQuote fun words below => of_ok rfl
  | cat =>
    refine takeAs_bind (fun word => ?_) fun word below value stack seen => ?_
    · cases word <;> simp [Word.kind, Word.joinable?]
    · rw [stack]
      cases word with
      | quote words =>
        cases seen
        exact takeQuote fun words below => push _
      | text value =>
        cases seen
        exact takeText fun text below => push _
      | _ => cases seen
  | cons => exact takeQuote fun tail below => takeAny fun head below => push _
  | uncons =>
    refine takeQuote fun words below => ?_
    cases words with
    | nil => exact throw (domain _ rfl)
    | cons head tail => exact of_ok rfl
  | split => exact takeText fun text below => push _
  | join =>
    refine takeQuote fun words below => ofExcept_push ?_
    intro kind failed
    exact stopsWith_join (Quote.kind_ne_text_of_joinTexts failed)
  | define scope =>
    rw [show (Builtin.define scope).perform run = performDefine scope from rfl, performDefine_eq]
    exact takeQuote fun label below => takeQuote fun body below => nameDefinition definition
  | parse =>
    exact takeText fun source below => parse_push fun error =>
      stopsWith_of_category .malformed rfl
  | type => exact takeAny fun word below => push _
  | string => exact takeAny fun word below => push _
  | number =>
    refine takeText fun text below => ?_
    split
    · exact push _
    · exact throw (domain _ rfl)
  | symbol =>
    refine takeText fun name below => ?_
    split
    · exact throw (domain _ rfl)
    · exact push _
  | print => exact takeText fun text below => emit fun obstacle => access _ obstacle
  | showStack => exact emit fun obstacle => access _ obstacle
  | read =>
    refine takeText fun path below => ?_
    exact ofExcept_push fun obstacle _ => access path obstacle
  | write =>
    exact takeText fun path below => takeText fun contents below =>
      writeFile fun obstacle => access path obstacle
  | exit => exact throw ⟨mayFailWith_of_category .exit rfl, fun _ => rfl⟩

/-- A builtin that runs no quotes and fails leaves what is left after its operands. -/
theorem leavesOff {builtin : Builtin} (simple : builtin.runsQuotes = false)
    (run : Quote → Exec Unit) (machine : Machine) :
    LeavesOff (builtin.operands (machine.stack.head?.map Word.kind)) builtin.MayFailWith
      (builtin.perform run) machine :=
  (leavesOff_stopsWith simple run machine).mono fun _ stops => stops.1

/-- A builtin that runs quotes is refused an operand, or it has its operands and runs one of them. -/
theorem refused_or_runs {builtin : Builtin} (runs : builtin.runsQuotes = true) (machine : Machine)
    (top : Option Kind) :
    (∃ fault left, Refuses (builtin.operands top) machine.stack fault left ∧
      ∀ run, builtin.perform run machine = .error fault { machine with stack := left }) ∨
    ∃ operands rest words, ∃ finish : Ending → Ending, machine.stack = operands ++ rest ∧
      Fits operands (builtin.operands top) ∧ .quote words ∈ operands ∧
      ∀ run, builtin.perform run machine = finish (run words { machine with stack := rest }) := by
  rcases Refuses.taken_or_refused (builtin.operands top) machine.stack with
    ⟨operands, rest, stack, fit⟩ | ⟨fault, left, refused⟩
  · refine .inr ⟨operands, rest, ?_⟩
    cases builtin with
    | eval =>
      obtain ⟨words, rfl⟩ := eq_of_fits_eval fit
      exact ⟨words, id, stack, fit, by simp, fun run => performEval_of_stack stack⟩
    | dip =>
      obtain ⟨words, kept, rfl⟩ := eq_of_fits_dip fit
      let finish (ending : Ending) : Ending :=
        ((fun _ => ending : Exec Unit) >>= fun _ => Exec.push kept) machine
      exact ⟨words, finish, stack, fit, by simp, fun run => performDip_of_stack stack⟩
    | ifte =>
      obtain ⟨negative, positive, condition, rfl⟩ := eq_of_fits_ifte fit
      refine ⟨if condition then positive else negative, mapMachine machine.withVocabularyOf, stack,
        fit, ?_, fun run => ?_⟩
      · cases condition <;> simp
      · exact (performIfte_of_stack stack).trans (isolated_eq_mapMachine _ _)
    | _ => cases runs
  · refine .inl ⟨fault, left, refused, fun run => ?_⟩
    cases builtin with
    | eval => exact performEval_of_refuses refused
    | dip => exact performDip_of_refuses refused
    | ifte => exact performIfte_of_refuses refused
    | _ => cases runs

theorem length_operands_le (builtin : Builtin) (top : Option Kind) :
    (builtin.operands top).length ≤ if builtin.runsQuotes then 3 else 2 := by
  cases builtin <;> simp [operands, runsQuotes]

/-- A builtin that runs no quotes and fails changes neither the vocabulary nor the level, and takes at
most two words. If an operand is refused, the words taken are the operands above it; otherwise they
are all the operands, and the fault is none about operands. The other builtins have at most two
operands taken when one is refused, and do nothing else; otherwise, whatever the way to run quotes,
what they do is to run one of their operands with all of them taken and to go on from there. -/
theorem leftover_of_error (builtin : Builtin) (machine : Machine) :
    let kinds := builtin.operands (machine.stack.head?.map Word.kind)
    (builtin.runsQuotes = false → ∀ run fault after,
      builtin.perform run machine = .error fault after →
        after.vocabulary = machine.vocabulary ∧ after.depth = machine.depth ∧
        ∃ removed, machine.stack = removed ++ after.stack ∧ removed.length ≤ 2 ∧
          ((∃ accepted, OperandRefused kinds removed after.stack accepted fault) ∨
            Fits removed kinds ∧ builtin.MayFailWith fault)) ∧
    (builtin.runsQuotes = true →
      (∃ removed left accepted fault, machine.stack = removed ++ left ∧ removed.length ≤ 2 ∧
        OperandRefused kinds removed left accepted fault ∧
        ∀ run, builtin.perform run machine = .error fault { machine with stack := left }) ∨
      ∃ operands rest words, ∃ finish : Ending → Ending, machine.stack = operands ++ rest ∧
        Fits operands kinds ∧ .quote words ∈ operands ∧
        ∀ run, builtin.perform run machine = finish (run words { machine with stack := rest })) := by
  intro kinds
  have count := builtin.length_operands_le (machine.stack.head?.map Word.kind)
  refine ⟨fun simple run fault after failed => ?_, fun runs => ?_⟩
  · rw [simple] at count
    have left := leavesOff simple run machine fault after failed
    refine ⟨left.vocabulary, left.depth, ?_⟩
    rcases left.stack with refuses | ⟨removed, stack, fit, late⟩
    · obtain ⟨removed, accepted, stack, refused⟩ := refuses.exists_removed
      have fewer : removed.length < 2 := Nat.lt_of_lt_of_le refused.length_lt count
      exact ⟨removed, stack, Nat.le_of_lt fewer, .inl ⟨accepted, refused⟩⟩
    · have all : removed.length ≤ 2 := fit.length_eq ▸ count
      exact ⟨removed, stack, all, .inr ⟨fit, late⟩⟩
  · rw [runs] at count
    rcases refused_or_runs runs machine (machine.stack.head?.map Word.kind) with
      ⟨fault, left, refuses, ends⟩ | runs
    · obtain ⟨removed, accepted, stack, refused⟩ := refuses.exists_removed
      have fewer : removed.length < 3 := Nat.lt_of_lt_of_le refused.length_lt count
      exact .inl ⟨removed, left, accepted, fault, stack, Nat.le_of_lt_succ fewer, refused, ends⟩
    · exact .inr runs

/-- A definition whose body is no quote: the name has been taken, and the number is still there. -/
theorem leftover_of_error_bodyless :
    let machine : Machine := { stack := [.quote [.symbol "f"], .number 1, .text "below"] }
    let left : List Word := [.number 1, .text "below"]
    (Builtin.define .shared).runsQuotes = false ∧
    (Builtin.define .shared).perform (evaluate 1) machine =
      .error (.mismatch [.quote] (some .number)) { machine with stack := left } ∧
    ∃ removed, machine.stack = removed ++ left ∧ removed.length ≤ 2 ∧
      ((∃ accepted, OperandRefused [[.quote], [.quote]] removed left accepted
          (.mismatch [.quote] (some .number))) ∨
        Fits removed [[.quote], [.quote]] ∧
          (Builtin.define .shared).MayFailWith (.mismatch [.quote] (some .number))) := by
  intro machine left
  have failed : (Builtin.define .shared).perform (evaluate 1) machine =
      .error (.mismatch [.quote] (some .number)) { machine with stack := left } := rfl
  obtain ⟨-, -, ends⟩ := (leftover_of_error (.define .shared) machine).1 rfl _ _ _ failed
  exact ⟨rfl, failed, ends⟩

end Builtin

end Concatenative
