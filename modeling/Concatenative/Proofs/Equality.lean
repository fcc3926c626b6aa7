import Mathlib.Data.List.Perm.Subperm
import Mathlib.Data.Option.Basic
import Concatenative.Proofs.Contents
import Concatenative.Vocabulary

/-!
# What is taken for the same

The comparison of programs is that of numbers wherever numbers stand, so that the only thing that is
not the same as itself is one with an undefined number in it (`Word.same_self_iff`). Vocabularies are
the same when they have the same names and, for each, definitions that are the same
(`Vocabulary.same_iff`): how they came to be plays no part in it.
-/

namespace Concatenative

/-- Of numbers only the undefined one is not equal to itself. -/
theorem Number.beq_self (value : Float) : (value == value) = !value.isNaN := by
  show value.toModel.unpack.beq value.toModel.unpack = !value.toModel.unpack.isNaN
  generalize value.toModel.unpack = unpacked
  cases unpacked with
  | infinity sign => cases sign <;> rfl
  | notANumber => rfl
  | zero sign => rfl
  | finite sign mantissa exponent positive =>
    have same : (compare exponent exponent).then (compare mantissa mantissa) = .eq := by simp
    cases sign with
    | negative =>
      show (some ((compare exponent exponent).then (compare mantissa mantissa)).swap ==
        some .eq) = true
      rw [same]
      rfl
    | positive =>
      show (some ((compare exponent exponent).then (compare mantissa mantissa)) ==
        some .eq) = true
      rw [same]
      rfl

mutual

/-- A word is the same as itself unless there is an undefined number in it. -/
theorem Word.same_self_iff :
    (word : Word) → (word.same word = true ↔ ∀ value ∈ word.numbers, value.isNaN = false)
  | .number value => by simp [Word.same, Word.numbers, Number.beq_self]
  | .text value => by simp [Word.same, Word.numbers]
  | .truth value => by simp [Word.same, Word.numbers]
  | .symbol name => by simp [Word.same, Word.numbers]
  | .quote words => by
    rw [Word.same, Word.numbers]
    exact Quote.same_self_iff words

/-- A quote is the same as itself unless there is an undefined number in it. -/
theorem Quote.same_self_iff : (words : List Word) →
    (Quote.same words words = true ↔ ∀ value ∈ Quote.numbers words, value.isNaN = false)
  | [] => by simp [Quote.same, Quote.numbers]
  | word :: words => by
    rw [Quote.same, Quote.numbers, Bool.and_eq_true, Word.same_self_iff word,
      Quote.same_self_iff words]
    simp only [List.mem_append, or_imp, forall_and]

end

/-- Whether there is no undefined number in the body of a definition. -/
def Definition.Defined (definition : Definition) : Prop :=
  ∀ value ∈ Quote.numbers definition.body, value.isNaN = false

theorem Definition.same_self_iff (definition : Definition) :
    definition.same definition = true ↔ definition.Defined := by
  simp [Definition.same, Definition.Defined, Quote.same_self_iff]

namespace Vocabulary

variable {vocabulary other : Vocabulary}

theorem nodup_names (vocabulary : Vocabulary) : vocabulary.names.Nodup :=
  Std.ExtTreeMap.nodup_keys

/-- The names in one vocabulary are all the names in another with as many. -/
theorem contains_of_size (size : vocabulary.size = other.size)
    (among : ∀ name, vocabulary.contains name = true → other.contains name = true) (name : String) :
    other.contains name = vocabulary.contains name := by
  have subperm : vocabulary.names.Subperm other.names :=
    (nodup_names vocabulary).subperm fun name mem => mem_names.2 (among name (mem_names.1 mem))
  have perm : vocabulary.names.Perm other.names := by
    refine subperm.perm_of_length_le ?_
    rw [length_names, length_names]
    exact Nat.le_of_eq size.symm
  rw [Bool.eq_iff_iff, ← mem_names, ← mem_names]
  exact perm.mem_iff.symm

theorem size_of_contains
    (names : ∀ name, vocabulary.contains name = true ↔ other.contains name = true) :
    vocabulary.size = other.size := by
  have perm : vocabulary.names.Perm other.names := by
    refine (List.perm_ext_iff_of_nodup (nodup_names _) (nodup_names _)).2 fun name => ?_
    rw [mem_names, mem_names, names]
  rw [← length_names, ← length_names, perm.length_eq]

/-- Vocabularies are the same when they give the same names meanings that are the same. -/
theorem same_iff : vocabulary.same other = true ↔ ∀ name,
    Option.Rel (fun d e : Definition => d.same e = true) (vocabulary.get? name)
      (other.get? name) := by
  have each : (vocabulary.toList.all fun entry => (other.get? entry.1).any entry.2.same) = true ↔
      ∀ name d, vocabulary.get? name = some d →
        ∃ e, other.get? name = some e ∧ d.same e = true := by
    rw [List.all_eq_true, Prod.forall]
    simp only [mem_toList, Option.any_eq_true]
  rw [same, Bool.and_eq_true, beq_iff_eq, each]
  constructor
  · rintro ⟨size, meanings⟩ name
    cases found : vocabulary.get? name with
    | some d =>
      obtain ⟨e, found', same⟩ := meanings name d found
      rw [found']
      exact .some same
    | none =>
      -- There are not more names on the other side, so that this one is not there either.
      have among : ∀ name, vocabulary.contains name = true → other.contains name = true := by
        intro name present
        rw [contains_eq_isSome, Option.isSome_iff_exists] at present ⊢
        obtain ⟨d, found⟩ := present
        obtain ⟨e, found', -⟩ := meanings name d found
        exact ⟨e, found'⟩
      have missing := contains_of_size size among name
      rw [contains_eq_isSome, contains_eq_isSome, found, Option.isSome_none,
        Option.isSome_eq_false_iff, Option.isNone_iff_eq_none] at missing
      rw [missing]
      exact .none
  · intro meanings
    refine ⟨size_of_contains fun name => ?_, fun name d found => ?_⟩
    · have related := meanings name
      rw [contains_eq_isSome, contains_eq_isSome]
      generalize vocabulary.get? name = meaning at related
      generalize other.get? name = meaning' at related
      cases related <;> simp
    · have related := meanings name
      rw [found] at related
      generalize other.get? name = meaning' at related
      cases related with
      | some same => exact ⟨_, rfl, same⟩

/-- A vocabulary is the same as itself unless there is an undefined number in one of its bodies. -/
theorem same_self_iff (vocabulary : Vocabulary) : vocabulary.same vocabulary = true ↔
    ∀ name definition, vocabulary.get? name = some definition → definition.Defined := by
  rw [same_iff]
  constructor
  · intro meanings name definition found
    have related := meanings name
    rw [found] at related
    cases related with
    | some same => exact definition.same_self_iff.1 same
  · intro defined name
    cases found : vocabulary.get? name with
    | none => exact .none
    | some definition => exact .some (definition.same_self_iff.2 (defined name definition found))

/-- Vocabularies with equal entries are the same unless there is an undefined number in a body. -/
theorem same_of_get?_eq (entries : ∀ name, vocabulary.get? name = other.get? name)
    (defined : ∀ name definition, vocabulary.get? name = some definition → definition.Defined) :
    vocabulary.same other = true := by
  rw [← ext_get? entries]
  exact (same_self_iff vocabulary).2 defined

/-- A vocabulary with an undefined number in a body is not the same as itself. -/
theorem same_self_eq_false {name : String} {definition : Definition} {value : Float}
    (found : vocabulary.get? name = some definition)
    (inside : value ∈ Quote.numbers definition.body) (undefined : value.isNaN = true) :
    vocabulary.same vocabulary = false := by
  rw [Bool.eq_false_iff, ne_eq, same_self_iff]
  intro defined
  rw [defined name definition found value inside] at undefined
  cases undefined

end Vocabulary

end Concatenative
