import Mathlib.Logic.Equiv.Basic
import Concatenative.Proofs.Frame

/-!
# Renaming

Names that no builtin has carry no meaning. If all of them are exchanged by a bijection, in a quote,
on the stack it runs on and in the vocabulary, the run is the same up to that exchange
(`evaluate_rename`). A program that looks at the text of a name can tell, so the builtins that turn
symbols into texts, texts into symbols or the stack into output have to be out of reach.
-/

namespace Concatenative

open Exec

/-- The symbols through which a run may come to see what a name is, or to make one. -/
def reflective : List String :=
  ["string", "symbol", "parse", ".s"]

/-! ## Renaming what a machine holds -/

mutual

/-- A word with all its symbols renamed, at any depth. -/
def Word.rename (exchange : String → String) : Word → Word
  | .symbol name => .symbol (exchange name)
  | .quote words => .quote (Quote.rename exchange words)
  | word => word

/-- A quote with all its symbols renamed, at any depth. -/
def Quote.rename (exchange : String → String) : List Word → List Word
  | [] => []
  | word :: words => word.rename exchange :: Quote.rename exchange words

end

/-- A definition with the symbols of its body renamed. -/
def Definition.rename (exchange : String → String) (definition : Definition) : Definition :=
  { definition with body := Quote.rename exchange definition.body }

/-- A vocabulary in which each name has been renamed, and each symbol in a body. -/
def Vocabulary.rename (exchange : String → String) (vocabulary : Vocabulary) : Vocabulary :=
  ⟨.ofList (vocabulary.toList.map fun entry => (exchange entry.1, entry.2.rename exchange))⟩

/-- A fault with the names it mentions renamed. -/
def Fault.rename (exchange : String → String) : Fault → Fault
  | unknown name => unknown (exchange name)
  | unnameable words => unnameable (Quote.rename exchange words)
  | reserved name => reserved (exchange name)
  | alreadyDefined name => alreadyDefined (exchange name)
  | fault => fault

/-- A machine with all names on its stack and in its vocabulary renamed. -/
def Machine.rename (exchange : String → String) (machine : Machine) : Machine :=
  { machine with
    stack := Quote.rename exchange machine.stack
    vocabulary := machine.vocabulary.rename exchange }

/-- The end of a run with all names renamed. -/
def Exec.renameEnd {α : Type} (exchange : String → String) :
    EStateM.Result Fault Machine α → EStateM.Result Fault Machine α
  | .ok value machine => .ok value (machine.rename exchange)
  | .error fault machine => .error (fault.rename exchange) (machine.rename exchange)

/-- A renamed fault is of the same category. -/
theorem Fault.category_rename (exchange : String → String) (fault : Fault) :
    (fault.rename exchange).category = fault.category := by
  cases fault <;> rfl

mutual

/-- Different words stay different. -/
theorem Word.same_rename {exchange : String → String} (injective : Function.Injective exchange) :
    (v w : Word) → (v.rename exchange).same (w.rename exchange) = v.same w
  | .symbol m, .symbol n => by simp only [Word.rename, Word.same, injective.beq_eq]
  | .quote p, .quote q => by simp only [Word.rename, Word.same, Quote.same_rename injective p q]
  | .number _, w | .text _, w | .truth _, w => by cases w <;> rfl
  | .symbol _, .number _ | .symbol _, .text _ | .symbol _, .truth _ | .symbol _, .quote _
  | .quote _, .number _ | .quote _, .text _ | .quote _, .truth _ | .quote _, .symbol _ => rfl

theorem Quote.same_rename {exchange : String → String} (injective : Function.Injective exchange) :
    (p q : List Word) →
      Quote.same (Quote.rename exchange p) (Quote.rename exchange q) = Quote.same p q
  | [], [] | [], _ :: _ | _ :: _, [] => rfl
  | v :: p, w :: q => by
    simp only [Quote.rename, Quote.same, Word.same_rename injective v w,
      Quote.same_rename injective p q]

end

/-! ## Renamed vocabularies -/

namespace Vocabulary

variable (exchange : Equiv.Perm String)

/-- A renamed name has its meaning, renamed. -/
theorem get?_rename (vocabulary : Vocabulary) (name : String) :
    (vocabulary.rename exchange).get? (exchange name) =
      (vocabulary.get? name).map (Definition.rename exchange) := by
  have distinct : (vocabulary.toList.map fun entry =>
      (exchange entry.1, entry.2.rename exchange)).Pairwise
        fun entry other => ¬ compare entry.1 other.1 = .eq := by
    have different := List.pairwise_map.1 vocabulary.nodup_map_fst_toList
    refine List.pairwise_map.2 (different.imp fun apart same => apart ?_)
    exact exchange.injective (Std.LawfulEqCmp.eq_of_compare same)
  cases found : vocabulary.get? name with
  | none =>
    refine Std.ExtTreeMap.getElem?_ofList_of_contains_eq_false ?_
    rw [List.map_map, Bool.eq_false_iff, Ne, List.contains_iff_mem]
    intro mem
    obtain ⟨⟨other, meaning⟩, listed, same⟩ := List.mem_map.1 mem
    have before : other = name := exchange.injective same
    rw [mem_toList, before, found] at listed
    cases listed
  | some definition =>
    refine Std.ExtTreeMap.getElem?_ofList_of_mem Std.ReflCmp.compare_self distinct ?_
    exact List.mem_map.2 ⟨(name, definition), mem_toList.2 found, rfl⟩

theorem contains_rename (vocabulary : Vocabulary) (name : String) :
    (vocabulary.rename exchange).contains (exchange name) = vocabulary.contains name := by
  rw [contains_eq_isSome, contains_eq_isSome, get?_rename, Option.isSome_map]

/-- The renamed vocabulary is the only one in which each renamed name has the renamed meaning. -/
theorem eq_rename {vocabulary other : Vocabulary}
    (meanings : ∀ name, other.get? (exchange name) =
      (vocabulary.get? name).map (Definition.rename exchange)) :
    other = vocabulary.rename exchange := by
  ext1 name
  obtain ⟨before, rfl⟩ := exchange.surjective name
  rw [meanings, get?_rename]

/-- A name is defined after the renaming as before it. -/
theorem define_rename {vocabulary after : Vocabulary} {name : String} {definition : Definition}
    (defined : vocabulary.define name definition = .ok after) :
    (vocabulary.rename exchange).define (exchange name) (definition.rename exchange) =
      .ok (after.rename exchange) := by
  have unused := get?_eq_none_of_define defined
  obtain ⟨result, defined'⟩ := exists_define
    (show (vocabulary.rename exchange).get? (exchange name) = none by rw [get?_rename, unused]; rfl)
    (definition.rename exchange)
  rw [defined']
  congr
  refine eq_rename exchange fun other => ?_
  rw [get?_of_define defined', get?_of_define defined, get?_rename]
  by_cases same : name = other
  · rw [if_pos same, if_pos (congrArg exchange same), Option.map_some]
  · rw [if_neg same, if_neg (exchange.injective.ne same)]

end Vocabulary

/-! ## The lockstep -/

section Graph

variable {names : String → String → Prop} {exchange : String → String} {known : String → Prop}

mutual

/-- Words match along a renaming of known names if the right one is the left one renamed and all its
names are known. -/
theorem Word.matches_rename_iff (graph : ∀ m n, names m n ↔ n = exchange m ∧ known m) :
    (v : Word) → {w : Word} →
      (v.Matches names w ↔ w = v.rename exchange ∧ ∀ name ∈ v.symbols, known name)
  | .number _, w | .text _, w | .truth _, w => by
    constructor
    · intro matched
      cases matched
      exact ⟨rfl, nofun⟩
    · intro h
      rw [h.1]
      constructor
  | .symbol name, w => by
    rw [Word.symbols, List.forall_mem_singleton]
    refine ⟨fun matched => ?_, fun h => h.1 ▸ .symbol ((graph _ _).2 ⟨rfl, h.2⟩)⟩
    cases matched with
    | symbol h =>
      obtain ⟨rfl, holds⟩ := (graph _ _).1 h
      exact ⟨rfl, holds⟩
  | .quote words, w => by
    have inside : ∀ {q : Quote}, Quote.Matches names words q ↔
        q = Quote.rename exchange words ∧ ∀ name ∈ Quote.symbols words, known name :=
      Quote.matches_rename_iff graph words
    refine ⟨fun matched => ?_, fun h => h.1 ▸ .quote (inside.2 ⟨rfl, h.2⟩)⟩
    cases matched with
    | quote h =>
      obtain ⟨rfl, holds⟩ := inside.1 h
      exact ⟨rfl, holds⟩

theorem Quote.matches_rename_iff (graph : ∀ m n, names m n ↔ n = exchange m ∧ known m) :
    (p : List Word) → {q : List Word} →
      (Quote.Matches names p q ↔
        q = Quote.rename exchange p ∧ ∀ name ∈ Quote.symbols p, known name)
  | [], q => by
    refine ⟨fun matched => ?_, fun h => h.1 ▸ .nil⟩
    cases matched
    exact ⟨rfl, nofun⟩
  | v :: p, q => by
    rw [Quote.symbols, List.forall_mem_append]
    refine ⟨fun matched => ?_, fun ⟨same, first, others⟩ => ?_⟩
    · cases matched with
      | cons head tail =>
        obtain ⟨rfl, first⟩ := (Word.matches_rename_iff graph v).1 head
        obtain ⟨rfl, others⟩ := (Quote.matches_rename_iff graph p).1 tail
        exact ⟨rfl, first, others⟩
    · rw [same]
      exact .cons ((Word.matches_rename_iff graph v).2 ⟨rfl, first⟩)
        ((Quote.matches_rename_iff graph p).2 ⟨rfl, others⟩)

end

end Graph

namespace Renaming

/-- Two runs, the right one with all names renamed. -/
def lockstep (exchange : Equiv.Perm String) : Lockstep where
  names m n := n = exchange m ∧ m ∉ reflective
  vocabularies v w := w = v.rename exchange ∧ v.Avoids reflective
  faults f g := g = f.rename exchange

variable {exchange : Equiv.Perm String}

theorem graph (m n : String) :
    (lockstep exchange).names m n ↔ n = exchange m ∧ m ∉ reflective :=
  Iff.rfl

theorem matches_iff {p q : Quote} :
    Quote.Matches (lockstep exchange).names p q ↔
      q = Quote.rename exchange p ∧ p.Avoids reflective := by
  rw [Quote.matches_rename_iff graph p]
  refine and_congr_right fun _ => ⟨fun h name observer occurs => h name occurs observer,
    fun h name occurs observer => h name observer occurs⟩

/-- The builtins that look at a name or make one are out of reach. -/
theorem not_permits {builtin : Builtin}
    (reflects : builtin ∈ [.string, .symbol, .parse, .showStack]) :
    ¬ (lockstep exchange).Permits builtin := by
  have avoided : ∀ m n, (lockstep exchange).names m n → m ∉ reflective := fun _ _ names => names.2
  exact Lockstep.not_permits (by decide) avoided reflects

/-- A renaming that leaves the names of builtins alone gives them to no other name. -/
theorem ofName?_exchange (fixed : ∀ name ∈ Builtin.names, exchange name = name) (name : String) :
    Builtin.ofName? (exchange name) = Builtin.ofName? name := by
  cases meaning : Builtin.ofName? name with
  | some builtin =>
    have listed := Builtin.isSome_ofName?.1 (by rw [meaning]; rfl)
    rw [fixed name listed, meaning]
  | none =>
    rw [← Option.not_isSome_iff_eq_none, Builtin.isSome_ofName?] at meaning ⊢
    intro listed
    -- The name that a builtin's name came from is that name.
    have same := exchange.injective (fixed (exchange name) listed)
    rw [same] at listed
    exact meaning listed

theorem fault_eq {f g : Fault} (matched : f.Matches (lockstep exchange).names g) :
    g = f.rename exchange := by
  cases matched with
  | unknown h | reserved h | alreadyDefined h => rw [h.1]; rfl
  | unnameable h => rw [(matches_iff.1 h).1]; rfl
  | _ => rfl

theorem same_eq {v v' w w' : Word} (h : v.Matches (lockstep exchange).names v')
    (k : w.Matches (lockstep exchange).names w') : v.same w = v'.same w' := by
  rw [((Word.matches_rename_iff graph v).1 h).1, ((Word.matches_rename_iff graph w).1 k).1,
    Word.same_rename exchange.injective]

theorem respectsWords (fixed : ∀ name ∈ Builtin.names, exchange name = name) :
    (lockstep exchange).RespectsWords where
  builtin names := by rw [names.1, ofName?_exchange fixed]
  fault := fault_eq
  same _ := same_eq
  toText permitted := absurd permitted (not_permits (by simp))
  symbol permitted := absurd permitted (not_permits (by simp))
  parse permitted := absurd permitted (not_permits (by simp))

theorem respectsMachines : (lockstep exchange).RespectsMachines where
  underflow := .inl rfl
  write := Lockstep.writes_of_eq rfl
  showStack permitted := absurd permitted (not_permits (by simp))
  lookup := by
    rintro v _ m _ ⟨rfl, avoids⟩ ⟨rfl, _⟩ _
    rw [Vocabulary.get?_rename]
    refine .inl ?_
    cases found : v.get? m with
    | none => exact .none
    | some definition =>
      exact .some ⟨.inl rfl, matches_iff.2 ⟨rfl, avoids m definition found⟩⟩
  define := by
    rintro v _ m _ d ⟨scope, body⟩ _ ⟨rfl, avoids⟩ ⟨rfl, _⟩ _ ⟨rfl, bodies⟩
    obtain ⟨rfl, avoided⟩ := matches_iff.1 bodies
    cases defined : v.define m d with
    | error fault =>
      obtain ⟨used, rfl⟩ := Vocabulary.define_eq_error_iff.1 defined
      rw [← Vocabulary.contains_rename exchange] at used
      rw [Vocabulary.define_eq_error_iff.2 ⟨used, rfl⟩]
      exact .neither
    | ok after =>
      have renamed : (v.rename exchange).define (exchange m) ⟨d.scope, Quote.rename exchange d.body⟩ =
          .ok (after.rename exchange) := Vocabulary.define_rename exchange defined
      rw [renamed]
      refine .both ⟨rfl, fun name definition => ?_⟩
      exact Vocabulary.forall_get?_of_define defined avoids avoided
  stops stop _ := stop

theorem lawful (fixed : ∀ name ∈ Builtin.names, exchange name = name) :
    (lockstep exchange).Lawful :=
  { respectsWords fixed, respectsMachines with }

theorem alike_of_machines {left right : Machine}
    (machines : (lockstep exchange).Machines left right) :
    (left.rename exchange).Alike right where
  stack := by
    obtain ⟨top, tops, stack⟩ := machines.stack
    rw [stack, (matches_iff.1 tops).1]
    exact List.append_nil _
  vocabulary := machines.vocabulary.1
  depth := machines.depth
  sink := machines.sink.symm
  disk := machines.disk

end Renaming

/-! ## Renamed runs -/

/-- A run in which all names are exchanged, those of builtins apart, ends the same way up to that
exchange: it succeeds or fails as before, with the same fault about the new names, which is of the
same category, and leaves the renamed stack and vocabulary, the same output and the same files. No
symbol that leads to the text of a name, or from a text to a name, may be within reach. -/
theorem evaluate_rename (exchange : Equiv.Perm String)
    (fixed : ∀ name ∈ Builtin.names, exchange name = name) (limit : Nat) (words : Quote)
    (machine : Machine) (quote : words.Avoids reflective)
    (stack : Quote.Avoids reflective machine.stack) (bodies : machine.vocabulary.Avoids reflective) :
    SameEnd Machine.Alike (renameEnd exchange (evaluate limit words machine))
      (evaluate limit (Quote.rename exchange words) (machine.rename exchange)) ∧
    ∀ fault : Fault, (fault.rename exchange).category = fault.category := by
  refine ⟨?_, fun fault => fault.category_rename exchange⟩
  have machines : (Renaming.lockstep exchange).Machines machine (machine.rename exchange) :=
    ⟨⟨Quote.rename exchange machine.stack, Renaming.matches_iff.2 ⟨rfl, stack⟩,
      (List.append_nil _).symm⟩, ⟨rfl, bodies⟩, rfl, rfl, rfl⟩
  have tooDeep : (Renaming.lockstep exchange).faults (.tooDeep limit) (.tooDeep limit) := rfl
  have outcome := Lockstep.outcome_evaluate_of_level (Renaming.lawful fixed) rfl tooDeep
    (Renaming.matches_iff.2 ⟨rfl, quote⟩) machines
  generalize evaluate limit (Quote.rename exchange words) _ = result' at outcome ⊢
  generalize evaluate limit words machine = result at outcome ⊢
  cases outcome with
  | done value after =>
    subst value
    exact .ok (Renaming.alike_of_machines after)
  | failed fault after =>
    have same : _ = _ := fault
    subst same
    exact .error (Renaming.alike_of_machines after)
  | leftStopped stop => exact stop.elim
  | rightStopped stop => exact stop.elim

/-- Two names exchanged in a definition of the first one and a call of the other one, which has no
meaning. -/
theorem evaluate_rename_swap :
    ∃ left right,
      evaluate 128 [.quote [.symbol "f"], .quote [.symbol "f"], .symbol "def", .symbol "g"] {} =
        .error (.unknown "g") left ∧
      evaluate 128 [.quote [.symbol "g"], .quote [.symbol "g"], .symbol "def", .symbol "f"]
        (Machine.rename (Equiv.swap "f" "g") {}) = .error (.unknown "f") right ∧
      (left.rename (Equiv.swap "f" "g")).Alike right := by
  have fixed : ∀ name ∈ Builtin.names, Equiv.swap "f" "g" name = name := by decide
  have none : Vocabulary.empty.Avoids reflective := by
    intro name definition found
    rw [Vocabulary.get?_empty] at found
    cases found
  obtain ⟨left, run⟩ : ∃ left,
      evaluate 128 [.quote [.symbol "f"], .quote [.symbol "f"], .symbol "def", .symbol "g"] {} =
        .error (.unknown "g") left := ⟨_, rfl⟩
  have ends := (evaluate_rename (Equiv.swap "f" "g") fixed 128
    [.quote [.symbol "f"], .quote [.symbol "f"], .symbol "def", .symbol "g"] {}
    (by unfold Quote.Avoids; decide) (by unfold Quote.Avoids; decide) none).1
  have renamed : Quote.rename (Equiv.swap "f" "g")
      [.quote [.symbol "f"], .quote [.symbol "f"], .symbol "def", .symbol "g"] =
      [.quote [.symbol "g"], .quote [.symbol "g"], .symbol "def", .symbol "f"] := by decide
  have fault : (Fault.unknown "g").rename (Equiv.swap "f" "g") = .unknown "f" := by decide
  rw [run, renamed, renameEnd, fault] at ends
  generalize evaluate 128 _ (Machine.rename (Equiv.swap "f" "g") {}) = result at ends ⊢
  cases ends with
  | @error _ _ right alike => exact ⟨left, right, run, rfl, alike⟩

end Concatenative
