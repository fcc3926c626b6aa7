import Std.Data.ExtTreeMap
import Concatenative.Fault
import Concatenative.Word.Equality

/-!
# Vocabularies

A vocabulary gives meanings to names. It is a value: keeping a copy and going on with another costs
nothing and the two never affect each other, which is what isolated scopes and rollback rest on.
Names are listed in the order of their code points, and a name keeps its first meaning.
-/

namespace Concatenative

/-- In which vocabulary the body of a definition runs. -/
inductive Scope
  /-- In a copy of its own: what the body defines is gone when it ends. -/
  | isolated
  /-- In that of the caller: what the body defines stays. -/
  | shared
deriving DecidableEq

/-- The name of a scope. -/
def Scope.name : Scope → String
  | isolated => "function"
  | shared => "macro"

/-- The meaning of a name. -/
structure Definition where
  scope : Scope
  body : Quote
deriving DecidableEq

/-- Whether two definitions have the same scope and bodies that a program takes for the same. -/
def Definition.same (d e : Definition) : Bool :=
  d.scope == e.scope && Quote.same d.body e.body

/-- The meanings of names, ordered by name. -/
structure Vocabulary where
  entries : Std.ExtTreeMap String Definition

namespace Vocabulary

/-- The vocabulary without names. -/
def empty : Vocabulary :=
  ⟨∅⟩

instance : Inhabited Vocabulary :=
  ⟨empty⟩

/-- The meaning of a name. -/
def get? (vocabulary : Vocabulary) (name : String) : Option Definition :=
  vocabulary.entries[name]?

/-- Whether a name has a meaning. -/
def contains (vocabulary : Vocabulary) (name : String) : Bool :=
  vocabulary.entries.contains name

/-- How many names have a meaning. -/
def size (vocabulary : Vocabulary) : Nat :=
  vocabulary.entries.size

/-- The names in ascending order of code points. -/
def names (vocabulary : Vocabulary) : List String :=
  vocabulary.entries.keys

/-- The names and their meanings in ascending order of names. -/
def toList (vocabulary : Vocabulary) : List (String × Definition) :=
  vocabulary.entries.toList

/-- Gives a new name its meaning. -/
def define (vocabulary : Vocabulary) (name : String) (definition : Definition) :
    Except Fault Vocabulary :=
  if vocabulary.contains name then .error (.alreadyDefined name)
  else .ok ⟨vocabulary.entries.insert name definition⟩

/-- Whether two vocabularies have the same names with the same definitions. -/
def same (vocabulary other : Vocabulary) : Bool :=
  vocabulary.size == other.size &&
    vocabulary.toList.all fun entry => (other.get? entry.1).any entry.2.same

/-! ## Vocabularies as maps -/

@[ext]
theorem ext_get? {vocabulary other : Vocabulary}
    (h : ∀ name, vocabulary.get? name = other.get? name) : vocabulary = other := by
  cases vocabulary
  cases other
  simp only [mk.injEq]
  exact Std.ExtTreeMap.ext_getElem? h

@[simp]
theorem get?_empty (name : String) : empty.get? name = none := by
  simp [empty, get?]

theorem contains_eq_isSome (vocabulary : Vocabulary) (name : String) :
    vocabulary.contains name = (vocabulary.get? name).isSome := by
  simp [contains, get?]

/-- A definition adds its name and changes no other. -/
theorem get?_of_define {vocabulary after : Vocabulary} {name : String} {definition : Definition}
    (h : vocabulary.define name definition = .ok after) (other : String) :
    after.get? other = if name = other then some definition else vocabulary.get? other := by
  unfold define at h
  split at h
  · simp at h
  · cases h
    simp [get?, Std.ExtTreeMap.getElem?_insert]

/-- What holds of every entry and of a new one holds of every entry once it is defined. -/
theorem forall_get?_of_define {vocabulary after : Vocabulary} {name : String}
    {definition : Definition} {P : String → Definition → Prop}
    (h : vocabulary.define name definition = .ok after)
    (before : ∀ other meaning, vocabulary.get? other = some meaning → P other meaning)
    (new : P name definition) {other : String} {meaning : Definition}
    (found : after.get? other = some meaning) : P other meaning := by
  rw [get?_of_define h] at found
  by_cases same : name = other
  · rw [if_pos same] at found
    cases found
    exact same ▸ new
  · rw [if_neg same] at found
    exact before other meaning found

/-- Exactly the names that have a meaning are refused. -/
theorem define_eq_error_iff {vocabulary : Vocabulary} {name : String} {definition : Definition}
    {fault : Fault} :
    vocabulary.define name definition = .error fault ↔
      vocabulary.contains name = true ∧ fault = .alreadyDefined name := by
  unfold define
  split <;>
    simp_all only [Except.error.injEq, true_and, reduceCtorEq, Bool.false_eq_true, false_and]
  exact eq_comm

/-- A name without a meaning can be given any. -/
theorem exists_define {vocabulary : Vocabulary} {name : String}
    (unused : vocabulary.get? name = none) (definition : Definition) :
    ∃ after, vocabulary.define name definition = .ok after := by
  have missing : ¬ vocabulary.contains name = true := by
    simp [contains_eq_isSome, unused]
  exact ⟨_, if_neg missing⟩

theorem mem_names {vocabulary : Vocabulary} {name : String} :
    name ∈ vocabulary.names ↔ vocabulary.contains name = true := by
  simp [names, contains]

theorem length_names (vocabulary : Vocabulary) : vocabulary.names.length = vocabulary.size := by
  simp [names, size]

theorem pairwise_names (vocabulary : Vocabulary) :
    vocabulary.names.Pairwise (compare · · = .lt) :=
  Std.ExtTreeMap.ordered_keys

theorem mem_toList {vocabulary : Vocabulary} {name : String} {definition : Definition} :
    (name, definition) ∈ vocabulary.toList ↔ vocabulary.get? name = some definition :=
  Std.ExtTreeMap.mem_toList_iff_getElem?_eq_some

theorem nodup_map_fst_toList (vocabulary : Vocabulary) :
    (vocabulary.toList.map Prod.fst).Nodup := by
  rw [toList, Std.ExtTreeMap.map_fst_toList_eq_keys]
  exact Std.ExtTreeMap.nodup_keys

end Vocabulary

end Concatenative
