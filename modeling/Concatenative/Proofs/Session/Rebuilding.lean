import Concatenative.Proofs.Composition
import Concatenative.Proofs.Levels
import Concatenative.Proofs.RoundTrip
import Concatenative.Proofs.Session

/-!
# A session from its text

What a session has come to can be written out as a source: each definition as its body, its name and
the word that defines it, and then the words of the stack. A new session that takes this source
comes to the same stack and the same vocabulary (`Session.submit_listing`), in whatever order the
definitions are listed. No body is run, and no definition finds its name taken.
-/

namespace Concatenative

open Exec

/-! ## Definitions as text -/

/-- The name of the builtin that makes definitions of a scope. -/
def Scope.keyword : Scope → String
  | isolated => "def"
  | shared => "defm"

namespace Definition

/-- The text that gives a name its definition. -/
def statement (name : String) (definition : Definition) : String :=
  Quote.render definition.body ++ " (" ++ name ++ ") " ++ definition.scope.keyword

/-- The words that give a name its definition. -/
def program (name : String) (definition : Definition) : Quote :=
  [.quote definition.body, .quote [.symbol name], .symbol definition.scope.keyword]

end Definition

/-- The text of definitions and of a stack, the top of the stack at the end. -/
def listing (entries : List (String × Definition)) (stack : List Word) : String :=
  " ".intercalate (entries.map (fun entry => entry.2.statement entry.1) ++
    stack.reverse.map Word.render)

/-- The words that define names, one definition after the other. -/
def definitionWords (entries : List (String × Definition)) : Quote :=
  entries.flatMap fun entry => entry.2.program entry.1

/-- The text of a definition is that of its words. -/
theorem Definition.statement_eq (name : String) (definition : Definition) :
    definition.statement name = " ".intercalate ((definition.program name).map Word.render) := by
  rw [← String.toList_inj, Quote.toList_intercalate_render]
  simp [statement, program, Quote.render, Word.render, Quote.chars_cons_cons,
    Quote.chars_singleton, Word.chars_quote [.symbol name], Word.chars_symbol]

/-- The texts of quotes with a space between each two are the text of all their words. -/
theorem Quote.intercalate_flatten {rows : List Quote} (filled : ∀ row ∈ rows, row ≠ []) :
    " ".intercalate (rows.map fun row => " ".intercalate (row.map Word.render)) =
      " ".intercalate (rows.flatten.map Word.render) := by
  induction rows with
  | nil => rfl
  | cons row rows ih =>
    rw [List.forall_mem_cons] at filled
    cases rows with
    | nil => simp
    | cons next rows =>
      have first : row.map Word.render ≠ [] := by simpa using filled.1
      have more : (next :: rows).flatten.map Word.render ≠ [] := by
        have nonempty := filled.2 next List.mem_cons_self
        simp [nonempty]
      rw [List.flatten_cons, List.map_append, String.intercalate_append_of_ne_nil first more,
        ← ih filled.2]
      exact String.intercalate_cons_cons

/-- A listing is the text of the words that define its names and of the words of its stack. -/
theorem listing_eq (entries : List (String × Definition)) (stack : List Word) :
    listing entries stack =
      " ".intercalate ((definitionWords entries ++ stack.reverse).map Word.render) := by
  have filled : ∀ row ∈ entries.map (fun entry => entry.2.program entry.1) ++
      stack.reverse.map (fun word => [word]), row ≠ [] := by
    intro row mem
    rw [List.mem_append, List.mem_map, List.mem_map] at mem
    rcases mem with ⟨entry, _, rfl⟩ | ⟨word, _, rfl⟩
    · exact List.cons_ne_nil _ _
    · exact List.cons_ne_nil _ _
  have flat : (entries.map (fun entry => entry.2.program entry.1) ++
      stack.reverse.map (fun word => [word])).flatten = definitionWords entries ++ stack.reverse := by
    rw [List.flatten_append, ← List.flatMap_def, ← List.flatMap_def, List.flatMap_singleton']
    rfl
  rw [← flat, ← Quote.intercalate_flatten filled, listing, List.map_append, List.map_map,
    List.map_map]
  simp [Definition.statement_eq, Function.comp_def]

/-! ## Reading a listing -/

/-- What is asked of a word, so that it is read back from its text. -/
structure Word.Printable (word : Word) : Prop where
  plain : ∀ name ∈ word.symbols, PlainName name
  finite : ∀ value ∈ word.numbers, value.isFinite = true
  nested : word.nesting ≤ Nesting.depthLimit

/-- What is asked of a definition, so that its text defines the name again. -/
structure Definition.Listable (name : String) (definition : Definition) : Prop where
  plain : PlainName name
  free : Builtin.ofName? name = none
  body : (Word.quote definition.body).Printable

theorem Scope.plainName_keyword (scope : Scope) : PlainName scope.keyword := by
  cases scope <;> decide

theorem Definition.Listable.printable {name : String} {definition : Definition}
    (listable : definition.Listable name) : ∀ word ∈ definition.program name, word.Printable := by
  intro word mem
  simp only [Definition.program, List.mem_cons, List.not_mem_nil, or_false] at mem
  rcases mem with rfl | rfl | rfl
  · exact listable.body
  · refine ⟨?_, nofun, ?_⟩
    · simpa [Word.symbols, Quote.symbols] using listable.plain
    · simp [Word.nesting, Quote.nesting, Nesting.depthLimit]
  · refine ⟨?_, nofun, Nat.zero_le _⟩
    simpa [Word.symbols] using Scope.plainName_keyword definition.scope

theorem Quote.ofSource_intercalate_render {words : Quote}
    (printable : ∀ word ∈ words, word.Printable) :
    Quote.ofSource (" ".intercalate (words.map Word.render)) = .ok words := by
  refine Quote.ofSource_chars ?_ ?_ (fun word mem => (printable word mem).nested)
    (Quote.toList_intercalate_render words)
  · intro name occurs
    rw [Quote.symbols_eq_flatMap, List.mem_flatMap] at occurs
    obtain ⟨word, mem, inside⟩ := occurs
    exact (printable word mem).plain name inside
  · intro value occurs
    rw [Quote.numbers_eq_flatMap, List.mem_flatMap] at occurs
    obtain ⟨word, mem, inside⟩ := occurs
    exact (printable word mem).finite value inside

/-- A listing is read as the words that it lists. -/
theorem Quote.ofSource_listing {entries : List (String × Definition)} {stack : List Word}
    (listable : ∀ entry ∈ entries, entry.2.Listable entry.1)
    (printable : ∀ word ∈ stack, word.Printable) :
    Quote.ofSource (listing entries stack) = .ok (definitionWords entries ++ stack.reverse) := by
  rw [listing_eq]
  apply Quote.ofSource_intercalate_render
  intro word mem
  rw [List.mem_append, List.mem_reverse] at mem
  rcases mem with defining | data
  · obtain ⟨entry, listed, inside⟩ := List.mem_flatMap.1 defining
    exact (listable entry listed).printable word inside
  · exact printable word data

/-! ## Running a listing -/

/-- The words of a definition define its name; the body is not run. -/
theorem Definition.perform_program (run : Quote → Exec Unit) {name : String}
    {definition : Definition} (free : Builtin.ofName? name = none) {machine : Machine}
    {vocabulary : Vocabulary}
    (defined : machine.vocabulary.define name definition = .ok vocabulary) :
    Quote.perform run (definition.program name) machine =
      .ok () { machine with vocabulary, log := .defined name definition :: machine.log } := by
  obtain ⟨scope, body⟩ := definition
  have taken : Quote.perform run (Definition.program name ⟨scope, body⟩) machine =
      (nameDefinition scope [.symbol name] body >>= fun _ => pure ()) machine := by
    cases scope <;> rfl
  have named : nameDefinition scope [.symbol name] body = Exec.define name ⟨scope, body⟩ := by
    simp [nameDefinition, Quote.singleSymbol?, free]
  rw [taken, bind_pure_unit, named, define_apply, defined]

/-- Definitions of different names, none of them taken, are all made, and nothing else is. -/
theorem perform_definitionWords (run : Quote → Exec Unit) {entries : List (String × Definition)}
    (free : ∀ entry ∈ entries, Builtin.ofName? entry.1 = none)
    (distinct : (entries.map Prod.fst).Nodup) (machine : Machine)
    (unused : ∀ entry ∈ entries, machine.vocabulary.get? entry.1 = none) :
    ∃ vocabulary log,
      Quote.perform run (definitionWords entries) machine =
        .ok () { machine with vocabulary, log } ∧
      ∀ name definition, vocabulary.get? name = some definition ↔
        (name, definition) ∈ entries ∨ machine.vocabulary.get? name = some definition := by
  induction entries generalizing machine with
  | nil => exact ⟨machine.vocabulary, machine.log, rfl, by simp⟩
  | cons entry entries ih =>
    rw [List.forall_mem_cons] at free unused
    rw [List.map_cons, List.nodup_cons] at distinct
    obtain ⟨after, defined⟩ := Vocabulary.exists_define unused.1 entry.2
    have lookup := Vocabulary.get?_of_define defined
    -- The first definition takes none of the names that are still to be defined.
    have others : ∀ other ∈ entries, after.get? other.1 = none := by
      intro other mem
      have different : entry.1 ≠ other.1 := fun same =>
        distinct.1 (same ▸ List.mem_map_of_mem mem)
      rw [lookup, if_neg different]
      exact unused.2 other mem
    obtain ⟨vocabulary, log, performed, meanings⟩ := ih free.2 distinct.2 { machine with
      vocabulary := after, log := .defined entry.1 entry.2 :: machine.log } others
    have words : definitionWords (entry :: entries) =
        entry.2.program entry.1 ++ definitionWords entries := List.flatMap_cons
    refine ⟨vocabulary, log, ?_, fun name definition => ?_⟩
    · rw [words, Quote.perform_append]
      show EStateM.bind _ _ machine = _
      rw [EStateM.bind, Definition.perform_program run free.1 defined]
      exact performed
    · rw [meanings, lookup, List.mem_cons, Prod.ext_iff]
      by_cases same : entry.1 = name
      · subst same
        simp [unused.1, or_comm, eq_comm]
      · simp [same, Ne.symm same]

/-- Where no name has a meaning, the words of a listing leave its vocabulary and its stack. -/
theorem evaluate_listing {limit : Nat} {machine : Machine} (below : machine.depth < limit)
    (unused : machine.vocabulary = .empty) {vocabulary : Vocabulary} {stack : List Word}
    {entries : List (String × Definition)} (listed : entries.Perm vocabulary.toList)
    (free : ∀ entry ∈ entries, Builtin.ofName? entry.1 = none)
    (data : ∀ word ∈ stack, word.kind ≠ .symbol) :
    ∃ log, evaluate limit (definitionWords entries ++ stack.reverse) machine =
      .ok () { machine with stack := stack ++ machine.stack, vocabulary, log } := by
  have distinct : (entries.map Prod.fst).Nodup :=
    (listed.map Prod.fst).nodup_iff.2 vocabulary.nodup_map_fst_toList
  obtain ⟨after, log, performed, meanings⟩ := perform_definitionWords
    (evaluateWithin limit (limit - (machine.depth + 1))) free distinct
    { machine with depth := machine.depth + 1 } (by simp [unused])
  -- The order of the entries is gone: a vocabulary is what it says about each name.
  have rebuilt : after = vocabulary := by
    ext1 name
    apply Option.ext
    intro definition
    rw [meanings, listed.mem_iff, Vocabulary.mem_toList]
    simp [unused]
  subst rebuilt
  have pushed := Quote.perform_data (evaluateWithin limit (limit - (machine.depth + 1)))
    fun word mem => data word (List.mem_reverse.1 mem)
  refine ⟨log, ?_⟩
  rw [evaluate_of_lt below, deeper, Quote.perform_append, pushed]
  simp only [bind, EStateM.bind, performed, pushAll, modify, modifyGet, MonadStateOf.modifyGet,
    EStateM.modifyGet, List.reverseAux_eq, List.reverse_reverse, Nat.add_sub_cancel]

namespace Session

/-- From a new session, the listing of a vocabulary, its entries in any order, and of a stack of
words that are no symbols leads to that stack and that vocabulary. The output and the files are
untouched. -/
theorem submit_listing {limit : Nat} (level : 1 ≤ limit) {machine : Machine} (fresh : machine.Fresh)
    (blank : machine.stack = []) {vocabulary : Vocabulary} {stack : List Word}
    (listable : ∀ name definition, vocabulary.get? name = some definition → definition.Listable name)
    (data : ∀ word ∈ stack, word.kind ≠ .symbol) (printable : ∀ word ∈ stack, word.Printable)
    {entries : List (String × Definition)} (listed : entries.Perm vocabulary.toList) :
    ∃ log, submit limit (listing entries stack) machine =
      .ok () { machine with stack, vocabulary, log } := by
  have each : ∀ entry ∈ entries, entry.2.Listable entry.1 := fun entry mem =>
    listable entry.1 entry.2 (Vocabulary.mem_toList.1 (listed.mem_iff.1 mem))
  obtain ⟨log, tried⟩ := attempt_of_ok (Quote.ofSource_listing each printable) limit machine
  have below : ({ machine with log } : Machine).depth < limit := by
    show machine.depth < limit
    rw [fresh.depth]
    exact level
  obtain ⟨log', ends⟩ := evaluate_listing below fresh.vocabulary listed
    (fun entry mem => (each entry mem).free) data
  refine ⟨log', submit_of_ok ?_⟩
  rw [tried, ends, blank, List.append_nil]

/-- A macro, a function and two words, the definitions not in the order of their names. -/
theorem submit_listing_two_definitions :
    listing [("twice", ⟨.shared, [.symbol "dup"]⟩), ("mark", ⟨.isolated, [.text "#"]⟩)]
      [.quote [.symbol "twice"], .text "a"] =
        "(dup) (twice) defm (\"#\") (mark) def \"a\" (twice)" ∧
    ∃ log, submit 1 (listing
        [("twice", ⟨.shared, [.symbol "dup"]⟩), ("mark", ⟨.isolated, [.text "#"]⟩)]
        [.quote [.symbol "twice"], .text "a"]) {} =
      .ok () { stack := [.quote [.symbol "twice"], .text "a"],
               vocabulary := ⟨{ ("mark", ⟨.isolated, [.text "#"]⟩),
                                ("twice", ⟨.shared, [.symbol "dup"]⟩) }⟩,
               log } := by
  refine ⟨by decide, ?_⟩
  refine submit_listing (Nat.le_refl 1) ⟨rfl, rfl⟩ rfl ?_ ?_ ?_ ?_
  · intro name definition found
    have entry : (name, definition) ∈
        [("mark", ⟨.isolated, [.text "#"]⟩), ("twice", ⟨.shared, [.symbol "dup"]⟩)] :=
      Vocabulary.mem_toList.2 found
    simp only [List.mem_cons, Prod.mk.injEq, List.not_mem_nil, or_false] at entry
    rcases entry with ⟨rfl, rfl⟩ | ⟨rfl, rfl⟩
    · exact ⟨by decide, by decide, by decide, by decide, by decide⟩
    · exact ⟨by decide, by decide, by decide, by decide, by decide⟩
  · decide
  · simp only [List.forall_mem_cons]
    refine ⟨⟨by decide, by decide, by decide⟩, ⟨by decide, by decide, by decide⟩, nofun⟩
  · exact List.Perm.swap _ _ _

end Session

end Concatenative
