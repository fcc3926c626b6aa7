import Concatenative.Proofs.Programs
import Concatenative.Proofs.Session

/-!
# Names over whole sessions

What holds of the names in a session at any time (`Session.names_of_reaches`): a name that has a
meaning keeps it, none of these names belongs to a builtin, and no name and no symbol is empty. The
first two hold of every single run. The last one depends on where symbols come from: a source has no
empty lexemes, the builtin that makes a symbol of a text refuses the empty text, and all others only
move symbols around. So a run is in lockstep with itself, through symbols that are not empty.
-/

namespace Concatenative

open Exec

/-! ## Symbols in sources -/

/-- No symbol in a program is empty. -/
theorem Quote.empty_notMem_of_ofSource {source : String} {words : Quote}
    (read : Quote.ofSource source = .ok words) : "" ∉ Quote.symbols words :=
  fun occurs => (plainName_of_ofSource read occurs).nonempty rfl

/-! ## A run in step with itself -/

/-- Whether no symbol on the stack or in a body is empty, and no name that has a meaning. -/
structure Machine.WellNamed (machine : Machine) : Prop where
  stack : "" ∉ Quote.symbols machine.stack
  name : ∀ name definition, machine.vocabulary.get? name = some definition → name ≠ ""
  body : ∀ name definition, machine.vocabulary.get? name = some definition →
    "" ∉ Quote.symbols definition.body

namespace Naming

/-- Two equal runs without empty names. -/
def lockstep : Lockstep where
  names m n := m = n ∧ m ≠ ""
  vocabularies v w := v = w ∧ ∀ name definition, v.get? name = some definition →
    name ≠ "" ∧ "" ∉ Quote.symbols definition.body

theorem unchanged (m n : String) (names : lockstep.names m n) : m = n :=
  names.1

theorem matches_self_iff {words : Quote} :
    Quote.Matches lockstep.names words words ↔ "" ∉ Quote.symbols words := by
  rw [Quote.matches_self_iff]
  refine ⟨fun h occurs => (h "" occurs).2 rfl, fun filled name occurs => ⟨rfl, ?_⟩⟩
  rintro rfl
  exact filled occurs

theorem respectsWords : lockstep.RespectsWords :=
  .of_unchanged unchanged (fun _ _ matched => matched.eq unchanged)
    (fun _ _ filled => ⟨rfl, filled⟩)
    (fun _ _ _ read => matches_self_iff.2 (Quote.empty_notMem_of_ofSource read))

theorem respectsMachines : lockstep.RespectsMachines where
  underflow := .inl rfl
  write := Lockstep.writes_of_eq rfl
  showStack _ := Lockstep.writes_renderStack unchanged rfl (Lockstep.writes_of_eq rfl)
  lookup := by
    rintro v _ m _ ⟨rfl, filled⟩ ⟨rfl, _⟩ _
    refine .inl ?_
    cases found : v.get? m with
    | none => exact .none
    | some definition => exact .some ⟨.inl rfl, matches_self_iff.2 (filled m definition found).2⟩
  define := by
    rintro v _ m _ d e _ ⟨rfl, filled⟩ ⟨rfl, named⟩ _ definitions
    have same : d = e := definitions.eq unchanged
    subst same
    cases defined : v.define m d with
    | error fault =>
      obtain ⟨_, rfl⟩ := Vocabulary.define_eq_error_iff.1 defined
      exact .neither
    | ok after =>
      refine .both ⟨rfl, fun name definition => ?_⟩
      exact Vocabulary.forall_get?_of_define defined filled
        ⟨named, matches_self_iff.1 definitions.body⟩
  stops stop _ := stop

theorem lawful : lockstep.Lawful :=
  { respectsWords, respectsMachines with }

theorem machines_self_iff {machine : Machine} :
    lockstep.Machines machine machine ↔ machine.WellNamed := by
  constructor
  · intro machines
    obtain ⟨top, tops, _⟩ := machines.stack
    exact ⟨matches_self_iff.1 (tops.self_left unchanged),
      fun name definition found => (machines.vocabulary.2 _ _ found).1,
      fun name definition found => (machines.vocabulary.2 _ _ found).2⟩
  · intro named
    exact ⟨⟨machine.stack, matches_self_iff.2 named.stack, (List.append_nil _).symm⟩,
      ⟨rfl, fun name definition found =>
        ⟨named.name name definition found, named.body name definition found⟩⟩, rfl, rfl, rfl⟩

/-- An input makes no empty names. -/
theorem wellNamed_perform (limit : Nat) (input : Session.Input) {machine : Machine}
    (named : machine.WellNamed) : (machineAfter (input.perform limit machine)).WellNamed := by
  have permitted : lockstep.Permits .parse := ⟨"parse", "parse", ⟨rfl, by decide⟩, rfl⟩
  -- Compared with itself, the input says of its own end what two machines in step have in common.
  have relates : lockstep.Relates Eq (input.perform limit) (input.perform limit) :=
    Lockstep.Relates.input lawful rfl permitted rfl input
  have outcome := relates machine machine (machines_self_iff.2 named)
  have ends := outcome.sameEnd (fun _ _ same => same) (fun _ _ _ stop => stop) fun _ stop => stop
  exact machines_self_iff.1 ends.machineAfter

end Naming

/-! ## Sessions -/

namespace Session

namespace Reaches

variable {limit : Nat} {start machine : Machine} (reached : Reaches limit start machine)

include reached

/-- A name keeps its meaning for the rest of the session. -/
theorem kept (rest : start.depth = 0) {name : String} {definition : Definition}
    (found : start.vocabulary.get? name = some definition) :
    machine.vocabulary.get? name = some definition := by
  induction reached with
  | refl => exact found
  | input input earlier ih => exact (input.evolves_perform limit (earlier.depth rest)).kept _ _ ih
  | outside sink disk earlier ih => exact ih

/-- The names that have a meaning belong to no builtin. -/
theorem free (fresh : start.Fresh) {name : String}
    (used : machine.vocabulary.contains name = true) : Builtin.ofName? name = none := by
  induction reached with
  | refl =>
    rw [fresh.vocabulary, Vocabulary.contains_eq_isSome, Vocabulary.get?_empty] at used
    cases used
  | input input earlier ih =>
    rcases (input.evolves_perform limit (earlier.depth fresh.depth)).fresh name used with
      before | free
    · exact ih before
    · exact free
  | outside sink disk earlier ih => exact ih used

theorem wellNamed (named : start.WellNamed) : machine.WellNamed := by
  induction reached with
  | refl => exact named
  | input input earlier ih => exact Naming.wellNamed_perform limit input ih
  | outside sink disk earlier ih => exact ⟨ih.stack, ih.name, ih.body⟩

end Reaches

/-- A run leaves every name its meaning and gives a meaning only to names of no builtin. So in a
session that began without names, no name that has a meaning is ever one of a builtin, and a name
that has a meaning at some time has it from then on; and if no symbol on the stack was empty at the
beginning, no name and no symbol ever is. -/
theorem names_of_reaches (limit : Nat) :
    (∀ words machine,
      (∀ name definition, machine.vocabulary.get? name = some definition →
        (machineAfter (evaluate limit words machine)).vocabulary.get? name = some definition) ∧
      ∀ name, machine.vocabulary.contains name = false →
        (machineAfter (evaluate limit words machine)).vocabulary.contains name = true →
        Builtin.ofName? name = none) ∧
    ∀ start machine, start.Fresh → Reaches limit start machine →
      (∀ name, machine.vocabulary.contains name = true →
        Builtin.ofName? name = none ∧ name ∉ Builtin.names) ∧
      (∀ name definition later, machine.vocabulary.get? name = some definition →
        Reaches limit machine later → later.vocabulary.get? name = some definition) ∧
      ("" ∉ Quote.symbols start.stack → machine.WellNamed) := by
  refine ⟨fun words machine => ?_, fun start machine fresh reached => ⟨fun name used => ?_, ?_, ?_⟩⟩
  · have later : machine.Evolves (machineAfter (evaluate limit words machine)) :=
      evolves (evaluateWithin limit (limit - machine.depth) words) machine
    refine ⟨later.kept, fun name unused used => ?_⟩
    rcases later.fresh name used with before | free
    · rw [unused] at before
      cases before
    · exact free
  · have free := reached.free fresh used
    refine ⟨free, fun listed => ?_⟩
    rw [← Builtin.isSome_ofName?, free] at listed
    cases listed
  · intro name definition later found onward
    exact onward.kept (reached.depth fresh.depth) found
  · intro filled
    refine reached.wellNamed ⟨filled, ?_, ?_⟩
    all_goals
      intro name definition found
      rw [fresh.vocabulary, Vocabulary.get?_empty] at found
      cases found

/-- The macro with an empty body that a first source defines, for the rest of the session. -/
theorem names_of_reaches_macro :
    ∃ machine, Reaches 128 {} machine ∧
      machine.vocabulary.get? "f" = some ⟨.shared, []⟩ ∧
      (∀ later, Reaches 128 machine later →
        later.vocabulary.get? "f" = some ⟨.shared, []⟩) ∧
      machine.WellNamed := by
  have fresh : Machine.Fresh {} := ⟨rfl, rfl⟩
  have reached : Reaches 128 {} (machineAfter ((Input.source "() (f) defm").perform 128 {})) :=
    .input _ .refl
  have found : (machineAfter ((Input.source "() (f) defm").perform 128 {})).vocabulary.get? "f" =
      some ⟨.shared, []⟩ := by
    decide +kernel
  obtain ⟨_, kept, named⟩ := (names_of_reaches 128).2 {} _ fresh reached
  exact ⟨_, reached, found, fun later => kept "f" _ later found, named (by decide)⟩

end Session

end Concatenative
