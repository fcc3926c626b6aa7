import Concatenative.Proofs.Balance
import Concatenative.Proofs.BigStep

/-!
# How deeply values are nested

Only the parser looks at how deeply quotes are nested, and it looks at sources. What a program builds
from there is bounded by what it calls (`Runs.nestedWithin`): two builtins put a word into a quote
around it, and each call of one of them adds one level at most; the builtin that reads a source makes
one quote of a whole program, which is one level more than a source may have; all others only move
words about.
-/

namespace Concatenative

open Exec

/-- Whether no word on the stack and no body in the vocabulary is nested more deeply than `bound`. -/
structure Machine.NestedWithin (bound : Nat) (machine : Machine) : Prop where
  stack : ∀ word ∈ machine.stack, word.nesting ≤ bound
  bodies : ∀ name definition, machine.vocabulary.get? name = some definition →
    (Word.quote definition.body).nesting ≤ bound

/-- Whether a builtin puts a word into a quote around it. -/
def Builtin.deepens : Builtin → Bool
  | wrap | cons => true
  | _ => false

namespace Machine.NestedWithin

variable {bound more : Nat} {machine : Machine}

theorem mono (within : machine.NestedWithin bound) (le : bound ≤ more) :
    machine.NestedWithin more :=
  ⟨fun word mem => Nat.le_trans (within.stack word mem) le,
    fun name definition found => Nat.le_trans (within.bodies name definition found) le⟩

/-- Only the stack and the vocabulary count. -/
theorem congr {other : Machine} (within : machine.NestedWithin bound)
    (stack : other.stack = machine.stack) (vocabulary : other.vocabulary = machine.vocabulary) :
    other.NestedWithin bound :=
  ⟨stack ▸ within.stack, vocabulary ▸ within.bodies⟩

theorem withStack (within : machine.NestedWithin bound) {stack : List Word}
    (words : ∀ word ∈ stack, word.nesting ≤ bound) :
    { machine with stack }.NestedWithin bound :=
  ⟨words, within.bodies⟩

/-- What is left of the stack after words were taken is nested no more deeply. -/
theorem withRest (within : machine.NestedWithin bound) {stack : List Word}
    (rest : stack ⊆ machine.stack) : { machine with stack }.NestedWithin bound :=
  within.withStack fun word mem => within.stack word (rest mem)

theorem withWord (within : machine.NestedWithin bound) {word : Word}
    (nested : word.nesting ≤ bound) :
    { machine with stack := word :: machine.stack }.NestedWithin bound :=
  within.withStack (List.forall_mem_cons.2 ⟨nested, within.stack⟩)

/-- Operands that are taken are nested no more deeply, and neither is what is left. -/
theorem taken (within : machine.NestedWithin bound) (operands : List Word) {rest : List Word}
    (stack : machine.stack = operands ++ rest) :
    Quote.nesting operands ≤ bound ∧ { machine with stack := rest }.NestedWithin bound := by
  refine ⟨Quote.nesting_le_iff.2 fun word mem => within.stack word ?_, within.withRest ?_⟩
  · rw [stack]
    exact List.mem_append_left rest mem
  · rw [stack]
    exact List.subset_append_right operands rest

end Machine.NestedWithin

theorem Quote.nesting_append (front rest : Quote) :
    Quote.nesting (front ++ rest) = max (Quote.nesting front) (Quote.nesting rest) := by
  induction front with
  | nil => exact (Nat.zero_max _).symm
  | cons word front ih =>
    rw [List.cons_append, Quote.nesting, Quote.nesting, ih, Nat.max_assoc]

/-! ## Actions -/

/-- Whether an action that begins with words nested within `before` ends with words nested within
`after`, and with a result of which `values` holds if it succeeds. -/
def Exec.Nests {α : Type} (before after : Nat) (values : α → Prop) (action : Exec α) : Prop :=
  ∀ machine : Machine, machine.NestedWithin before →
    match action machine with
    | .ok value left => values value ∧ left.NestedWithin after
    | .error _ left => left.NestedWithin after

namespace Exec.Nests

variable {before after : Nat} {α β : Type} {values : α → Prop} {results : β → Prop}

theorem machineAfter {action : Exec α} (nests : Nests before after values action) {machine : Machine}
    (within : machine.NestedWithin before) :
    (machineAfter (action machine)).NestedWithin after := by
  have ends := nests machine within
  cases result : action machine with
  | ok value left =>
    rw [result] at ends
    exact ends.2
  | error fault left =>
    rw [result] at ends
    exact ends

theorem pure {value : α} (holds : values value) : Nests before before values (pure value) :=
  fun _ within => ⟨holds, within⟩

theorem throw (fault : Fault) (le : before ≤ after) : Nests before after values (throw fault) :=
  fun _ within => within.mono le

/-- Actions in a row: only the last one may deepen words. -/
theorem bind (le : before ≤ after) {action : Exec α} {next : α → Exec β}
    (first : Nests before before values action)
    (rest : ∀ value, values value → Nests before after results (next value)) :
    Nests before after results (action >>= next) := by
  intro machine within
  have ends := first machine within
  cases result : action machine with
  | ok value left =>
    rw [result] at ends
    rw [bind_of_ok result]
    exact rest value ends.1 left ends.2
  | error fault left =>
    rw [result] at ends
    rw [bind_of_error result]
    exact ends.mono le

theorem ofExcept {ε : Type} (fault : ε → Fault) {result : Except ε α}
    (holds : ∀ value, result = .ok value → values value) :
    Nests before before values (ofExcept fault result) := by
  cases result with
  | ok value => exact pure (holds value rfl)
  | error error => exact throw _ (Nat.le_refl _)

/-! ### The stack -/

theorem push {word : Word} (nested : word.nesting ≤ after) (le : before ≤ after) :
    Nests before after (fun _ => True) (push word) :=
  fun _ within => ⟨trivial, (within.mono le).withWord nested⟩

theorem pushAll {words : Quote} (nested : Quote.nesting words ≤ before) :
    Nests before before (fun _ => True) (pushAll words) := by
  refine fun machine within => ⟨trivial, within.withStack fun word mem => ?_⟩
  rw [List.reverseAux_eq, List.mem_append, List.mem_reverse] at mem
  rcases mem with new | old
  · exact Quote.nesting_le_iff.1 nested word new
  · exact within.stack word old

theorem takeAs (accepted : List Kind) {view : Word → Option α}
    (seen : ∀ word value, word.nesting ≤ before → view word = some value → values value) :
    Nests before before values (takeAs accepted view) := by
  intro machine within
  unfold Exec.takeAs
  cases stack : machine.stack with
  | nil => exact within
  | cons word rest =>
    have words := within.stack
    rw [stack] at words
    cases view' : view word with
    | none =>
      simp only [view']
      exact within
    | some value =>
      simp only [view']
      refine ⟨seen word value (words word List.mem_cons_self) view', within.withStack ?_⟩
      exact fun other mem => words other (List.mem_cons_of_mem word mem)

theorem takeAny : Nests before before (fun word => word.nesting ≤ before) takeAny := by
  refine takeAs _ fun word value nested seen => ?_
  rw [Option.ite_none_right_eq_some] at seen
  cases seen.2
  exact nested

theorem takeQuote :
    Nests before before (fun words => (Word.quote words).nesting ≤ before) takeQuote := by
  refine takeAs _ fun word words nested seen => ?_
  cases word with
  | quote =>
    cases seen
    exact nested
  | _ => cases seen

/-- A word that is no quote may be of any size. -/
theorem takeOther (accepted : List Kind) (view : Word → Option α) :
    Nests before before (fun _ => True) (Exec.takeAs accepted view) :=
  takeAs accepted fun _ _ _ _ => trivial

/-! ### Output, files and names -/

theorem emit (text : String) : Nests before before (fun _ => True) (emit text) := by
  intro machine within
  unfold Exec.emit
  rcases machine.sink.write text with ⟨sink, _ | obstacle⟩
  · exact ⟨trivial, within.congr rfl rfl⟩
  · exact within.congr rfl rfl

theorem get : Nests before before (fun _ => True) (get : Exec Machine) :=
  fun _ within => ⟨trivial, within⟩

theorem readFile (path : String) : Nests before before (fun _ => True) (readFile path) :=
  get.bind (Nat.le_refl _) fun _ _ => ofExcept _ fun _ _ => trivial

theorem writeFile (path contents : String) :
    Nests before before (fun _ => True) (writeFile path contents) := by
  refine get.bind (Nat.le_refl _) fun machine _ => ?_
  have written : Nests before before (fun _ => True)
      (Exec.ofExcept (.access path) (machine.disk.write path contents)) :=
    ofExcept _ fun _ _ => trivial
  refine written.bind (Nat.le_refl _) fun disk _ => ?_
  exact fun _ within => ⟨trivial, within.congr rfl rfl⟩

theorem parse (source : String) :
    Nests before before (fun words => Quote.nesting words ≤ Nesting.depthLimit) (parse source) := by
  intro machine within
  obtain ⟨log, parsed⟩ := parse_apply source machine
  rw [parsed]
  cases read : Quote.ofSource source with
  | error error => exact within.congr rfl rfl
  | ok words => exact ⟨Quote.nesting_le_of_ofSource read, within.congr rfl rfl⟩

theorem define (name : String) {definition : Definition}
    (nested : (Word.quote definition.body).nesting ≤ before) :
    Nests before before (fun _ => True) (define name definition) := by
  intro machine within
  rw [define_apply]
  cases defined : machine.vocabulary.define name definition with
  | error fault => exact within
  | ok vocabulary =>
    refine ⟨trivial, within.stack, fun other meaning found => ?_⟩
    exact Vocabulary.forall_get?_of_define defined within.bodies nested found

end Exec.Nests

/-! ## Builtins -/

section Builtins

variable {bound : Nat}

theorem Operator.nests (operator : Operator) :
    Nests bound bound (fun _ => True) operator.perform := by
  refine (Nests.takeOther _ _).bind (Nat.le_refl _) fun right _ => ?_
  refine (Nests.takeOther _ _).bind (Nat.le_refl _) fun left _ => ?_
  have result : Nests bound bound (fun _ => True) (ofExcept id (operator.apply left right)) :=
    .ofExcept _ fun _ _ => trivial
  exact result.bind (Nat.le_refl _) fun value _ => .push (Nat.zero_le _) (Nat.le_refl _)

namespace Builtin

theorem nests_connective (connective : Bool → Bool → Bool) :
    Nests bound bound (fun _ => True) (performConnective connective) := by
  refine (Nests.takeOther _ _).bind (Nat.le_refl _) fun right _ => ?_
  refine (Nests.takeOther _ _).bind (Nat.le_refl _) fun left _ => ?_
  exact .push (Nat.zero_le _) (Nat.le_refl _)

theorem nests_cat : Nests bound bound (fun _ => True) performCat := by
  have joined : Nests bound bound
      (fun top => ∀ words, top = .inl words → (Word.quote words).nesting ≤ bound)
      (takeAs [.quote, .text] Word.joinable?) := by
    refine .takeAs _ ?_
    rintro word _ nested seen words rfl
    cases word with
    | quote =>
      cases seen
      exact nested
    | _ => cases seen
  refine joined.bind (Nat.le_refl _) fun top tops => ?_
  cases top with
  | inl top =>
    refine Nests.takeQuote.bind (Nat.le_refl _) fun below belows => .push ?_ (Nat.le_refl _)
    have above := tops top rfl
    rw [Word.nesting] at above belows ⊢
    rw [Quote.nesting_append]
    omega
  | inr top =>
    refine (Nests.takeOther _ _).bind (Nat.le_refl _) fun below _ => ?_
    exact .push (Nat.zero_le _) (Nat.le_refl _)

theorem nests_uncons : Nests bound bound (fun _ => True) performUncons := by
  refine Nests.takeQuote.bind (Nat.le_refl _) fun words nested => ?_
  cases words with
  | nil => exact .throw _ (Nat.le_refl _)
  | cons head tail =>
    rw [Word.nesting, Quote.nesting] at nested
    have first : Nests bound bound (fun _ => True) (push head) :=
      .push (by omega) (Nat.le_refl _)
    refine first.bind (Nat.le_refl _) fun _ _ => .push ?_ (Nat.le_refl _)
    rw [Word.nesting]
    omega

theorem nests_define (scope : Scope) : Nests bound bound (fun _ => True) (performDefine scope) := by
  rw [performDefine_eq]
  refine Nests.takeQuote.bind (Nat.le_refl _) fun label _ => ?_
  refine Nests.takeQuote.bind (Nat.le_refl _) fun body nested => ?_
  unfold nameDefinition
  split
  · exact .throw _ (Nat.le_refl _)
  · split
    · exact .throw _ (Nat.le_refl _)
    · exact .define _ nested

/-- Each call of a builtin adds one level at most, and only some builtins add any. -/
theorem nests {builtin : Builtin} (simple : builtin.runsQuotes = false) (run : Quote → Exec Unit)
    (pos : 0 < bound) (parsed : builtin = .parse → Nesting.depthLimit < bound) :
    Nests bound (bound + [builtin].countP deepens) (fun _ => True) (builtin.perform run) := by
  have same := Nat.le_refl bound
  cases builtin with
  | dip | eval | ifte => cases simple
  | arithmetic operator => exact operator.nests
  | and => exact nests_connective (· && ·)
  | or => exact nests_connective (· || ·)
  | not => exact (Nests.takeOther _ _).bind same fun _ _ => .push (Nat.zero_le _) same
  | eq =>
    refine Nests.takeAny.bind same fun right _ => Nests.takeAny.bind same fun left _ => ?_
    exact .push (Nat.zero_le _) same
  | dup =>
    refine Nests.takeAny.bind same fun word nested => ?_
    exact (Nests.push nested same).bind same fun _ _ => .push nested same
  | drop => exact Nests.takeAny.bind same fun _ _ => .pure trivial
  | swap =>
    refine Nests.takeAny.bind same fun top tops => Nests.takeAny.bind same fun below belows => ?_
    exact (Nests.push tops same).bind same fun _ _ => .push belows same
  | copyBelow =>
    refine Nests.takeAny.bind same fun top tops => Nests.takeAny.bind same fun below belows => ?_
    refine (Nests.push belows same).bind same fun _ _ => ?_
    exact (Nests.push tops same).bind same fun _ _ => .push belows same
  | wrap =>
    refine Nests.takeAny.bind (Nat.le_succ bound) fun word nested => .push ?_ (Nat.le_succ bound)
    rw [Word.nesting, Quote.nesting, Quote.nesting, Nat.max_zero]
    exact Nat.succ_le_succ nested
  | unwrap =>
    refine Nests.takeQuote.bind same fun words nested => .pushAll ?_
    exact Nat.le_of_succ_le nested
  | cat => exact nests_cat
  | cons =>
    refine Nests.takeQuote.bind (Nat.le_succ bound) fun tail tails => ?_
    refine Nests.takeAny.bind (Nat.le_succ bound) fun head heads => .push ?_ (Nat.le_succ bound)
    rw [Word.nesting] at tails ⊢
    rw [Quote.nesting]
    show max _ _ + 1 ≤ bound + 1
    omega
  | uncons => exact nests_uncons
  | split =>
    refine (Nests.takeOther _ _).bind same fun value _ => .push ?_ same
    have flat : Quote.nesting (value.toList.map fun c => .text (String.singleton c)) ≤ 0 := by
      rw [Quote.nesting_le_iff]
      intro word mem
      obtain ⟨c, _, rfl⟩ := List.mem_map.1 mem
      exact Nat.le_refl 0
    rw [Word.nesting]
    omega
  | join =>
    refine Nests.takeQuote.bind same fun words _ => ?_
    have joined : Nests bound bound (fun _ => True)
        (Exec.ofExcept (fun kind => .mismatch [.text] (some kind)) (Quote.joinTexts words)) :=
      .ofExcept _ fun _ _ => trivial
    exact joined.bind same fun _ _ => .push (Nat.zero_le _) same
  | define scope => exact nests_define scope
  | parse =>
    refine (Nests.takeOther _ _).bind same fun source _ => ?_
    refine (Nests.parse source).bind same fun words nested => .push ?_ same
    exact Nat.succ_le_of_lt (Nat.lt_of_le_of_lt nested (parsed rfl))
  | type => exact Nests.takeAny.bind same fun _ _ => .push (Nat.zero_le _) same
  | string => exact Nests.takeAny.bind same fun _ _ => .push (Nat.zero_le _) same
  | number =>
    refine (Nests.takeOther _ _).bind same fun value _ => ?_
    cases Number.read? (Text.trim value) with
    | some x => exact .push (Nat.zero_le _) same
    | none => exact .throw _ same
  | symbol =>
    refine (Nests.takeOther _ _).bind same fun name _ => ?_
    dsimp only
    split
    · exact .throw _ same
    · exact .push (Nat.zero_le _) same
  | print => exact (Nests.takeOther _ _).bind same fun _ _ => .emit _
  | showStack => exact Nests.get.bind same fun _ _ => .emit _
  | read =>
    refine (Nests.takeOther _ _).bind same fun path _ => ?_
    exact (Nests.readFile path).bind same fun _ _ => .push (Nat.zero_le _) same
  | write =>
    refine (Nests.takeOther _ _).bind same fun path _ => ?_
    exact (Nests.takeOther _ _).bind same fun contents _ => .writeFile path contents
  | exit => exact .throw _ same

end Builtin

end Builtins

/-! ## Runs -/

/-- How deeply the words of a task are nested. -/
def Task.nesting : Task → Nat
  | quote words | row words => Quote.nesting words
  | word single => single.nesting
  | builtin _ => 0

/-- Words that cannot be taken stay on the stack, and others may be gone. -/
theorem Refuses.subset {kinds : List (List Kind)} {stack left : List Word} {fault : Fault}
    (refused : Refuses kinds stack fault left) : left ⊆ stack := by
  induction refused with
  | nothing => exact List.Subset.refl []
  | other => exact List.Subset.refl _
  | later _ _ ih => exact List.subset_cons_of_subset _ ih

namespace Runs

variable {limit bound : Nat} {task : Task} {machine : Machine} {calls : List Builtin}
  {ending : Ending}

/-- After a run words are nested as deeply as before it at most, and one level more for each call of a
builtin that puts a word into a quote. A program that was read has to find room within the bound
already. -/
theorem nestedWithin (runs : Runs limit task machine calls ending)
    (nested : task.nesting ≤ bound) (within : machine.NestedWithin bound) (pos : 0 < bound)
    (parsed : Builtin.parse ∈ calls → Nesting.depthLimit < bound) :
    (machineAfter ending).NestedWithin (bound + calls.countP Builtin.deepens) := by
  induction runs generalizing bound with
  | tooDeep => exact within
  | deeper _ _ ih =>
    rw [machineAfter_mapMachine]
    exact (ih nested (within.congr rfl rfl) pos parsed).congr rfl rfl
  | nil => exact within
  | @cons word rest _ _ calls more _ _ _ ih ih' =>
    have both : word.nesting ≤ bound ∧ Quote.nesting rest ≤ bound := Nat.max_le.1 nested
    have middle := ih both.1 within pos fun called =>
      parsed (List.mem_append_left _ called)
    -- The words to come are as they were, whatever the first one has built.
    have grown : bound ≤ bound + calls.countP Builtin.deepens := Nat.le_add_right _ _
    rw [List.countP_append, ← Nat.add_assoc]
    exact ih' (Nat.le_trans both.2 grown) middle (Nat.lt_of_lt_of_le pos grown) fun called =>
      Nat.lt_of_lt_of_le (parsed (List.mem_append_right _ called)) grown
  | @stop word rest _ _ _ _ _ ih =>
    have both : word.nesting ≤ bound ∧ Quote.nesting rest ≤ bound := Nat.max_le.1 nested
    exact ih both.1 within pos parsed
  | data => exact within.withWord nested
  | named _ _ ih => exact ih (Nat.zero_le _) within pos parsed
  | unknown => exact within
  | isolated _ found _ ih =>
    have body := Nat.le_of_succ_le (within.bodies _ _ found)
    have inside := ih body (within.congr rfl rfl) pos parsed
    rw [machineAfter_mapMachine]
    exact ⟨inside.stack, (within.mono (Nat.le_add_right _ _)).bodies⟩
  | shared _ found _ ih =>
    have body := Nat.le_of_succ_le (within.bodies _ _ found)
    exact ih body (within.congr rfl rfl) pos parsed
  | primitive simple machine run =>
    refine (Builtin.nests simple run pos ?_).machineAfter within
    rintro rfl
    exact parsed List.mem_cons_self
  | @eval words _ _ _ _ stack _ ih =>
    obtain ⟨taken, rest⟩ := within.taken [.quote words] stack
    have body : Quote.nesting words < bound := (Nat.max_le.1 taken).1
    rw [List.countP_cons_of_neg (by decide)]
    exact ih (Nat.le_of_lt body) rest pos fun called =>
      parsed (List.mem_cons_of_mem _ called)
  | evalRefused refused => exact (within.withRest refused.subset).mono (Nat.le_add_right _ _)
  | @dip words kept _ _ _ _ stack _ ih =>
    obtain ⟨taken, rest⟩ := within.taken [.quote words, kept] stack
    obtain ⟨body, taken⟩ : Quote.nesting words < bound ∧ _ := Nat.max_le.1 taken
    have inside := ih (Nat.le_of_lt body) rest pos fun called =>
      parsed (List.mem_cons_of_mem _ called)
    rw [List.countP_cons_of_neg (by decide)]
    exact inside.withWord (Nat.le_trans (Nat.max_le.1 taken).1 (Nat.le_add_right _ _))
  | @dipStop words kept _ _ _ _ _ stack _ ih =>
    obtain ⟨taken, rest⟩ := within.taken [.quote words, kept] stack
    have body : Quote.nesting words < bound := (Nat.max_le.1 taken).1
    rw [List.countP_cons_of_neg (by decide)]
    exact ih (Nat.le_of_lt body) rest pos fun called =>
      parsed (List.mem_cons_of_mem _ called)
  | dipRefused refused => exact (within.withRest refused.subset).mono (Nat.le_add_right _ _)
  | @ifte negative positive condition _ _ _ _ stack _ ih =>
    obtain ⟨taken, rest⟩ := within.taken [.quote negative, .quote positive, .truth condition] stack
    obtain ⟨body, taken⟩ : Quote.nesting negative < bound ∧ _ := Nat.max_le.1 taken
    have body' : Quote.nesting positive < bound := (Nat.max_le.1 taken).1
    have branch : Quote.nesting (if condition then positive else negative) ≤ bound := by
      cases condition
      · exact Nat.le_of_lt body
      · exact Nat.le_of_lt body'
    have inside := ih branch rest pos fun called => parsed (List.mem_cons_of_mem _ called)
    rw [machineAfter_mapMachine, List.countP_cons_of_neg (by decide)]
    exact ⟨inside.stack, (within.mono (Nat.le_add_right _ _)).bodies⟩
  | ifteRefused refused => exact (within.withRest refused.subset).mono (Nat.le_add_right _ _)

/-- A word that is put on the stack and wrapped there. -/
theorem wrap {word : Word} (plain : ∀ name, word ≠ .symbol name) (above : machine.depth < limit) :
    Runs limit (.quote [word, .symbol "wrap"]) machine [.wrap]
      (.ok () { machine with stack := .quote [word] :: machine.stack }) := by
  have taken : Builtin.performWrap
      { machine with depth := machine.depth + 1, stack := word :: machine.stack } =
      .ok () { machine with
        depth := machine.depth + 1, stack := .quote [word] :: machine.stack } := by
    cases word <;> rfl
  have wrapped : Runs limit (.builtin .wrap)
      { machine with depth := machine.depth + 1, stack := word :: machine.stack } [.wrap]
      (.ok () { machine with
        depth := machine.depth + 1, stack := .quote [word] :: machine.stack }) :=
    taken ▸ .primitive rfl _ (evaluate limit)
  exact .deeper above (.cons (.data plain) (.cons (.named rfl wrapped) .nil))

end Runs

end Concatenative
