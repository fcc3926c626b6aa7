import Mathlib.Algebra.BigOperators.Group.Finset.Piecewise
import Mathlib.Data.Fintype.Card
import Concatenative.Proofs.Equality

/-!
# Vocabularies that share their storage

Vocabularies are values, so that a copy costs nothing and is never affected. A host may get both from
storage that is shared: a copy is one more holder of a cell, and a definition writes to a cell in place
if it has one holder and to a copy of it otherwise (`SharedStore`). Here it is shown that nobody can
tell: whatever is defined and copied in whatever order, each of the vocabularies that share is the one
that would be there without sharing (`SharedStore.Tracks`), and it answers as the finite map that the
definitions in its own past make up (`Vocabulary.Holds`).
-/

namespace Concatenative

/-! ## Values -/

/-- Vocabularies side by side, none of which shares anything with another. -/
abbrev Family (n : Nat) :=
  Fin n → Vocabulary

/-- What is done to vocabularies side by side. -/
inductive FamilyStep (n : Nat)
  | define (on : Fin n) (name : String) (definition : Definition)
  /-- To make the target a copy of the source. -/
  | clone (source target : Fin n)

variable {n : Nat}

/-- Gives a new name its meaning in one of the vocabularies. -/
def Family.define (family : Family n) (on : Fin n) (name : String) (definition : Definition) :
    Except Fault (Family n) :=
  ((family on).define name definition).map (Function.update family on)

/-- The vocabularies after a step. A definition that is refused is one that is not made. -/
def FamilyStep.apply (family : Family n) : FamilyStep n → Family n
  | define on name definition => (family.define on name definition).toOption.getD family
  | clone source target => Function.update family target (family source)

/-- The vocabularies after steps, at first without names. -/
def familyAfter (steps : List (FamilyStep n)) : Family n :=
  steps.foldl FamilyStep.apply fun _ => .empty

/-! ## Histories -/

/-- The definitions in the past of a vocabulary, the earliest one first. -/
abbrev History :=
  List (String × Definition)

/-- The finite map that definitions make up when they are made one after the other. -/
def History.replay (history : History) : String → Option Definition :=
  history.foldl (fun map entry => Function.update map entry.1 (some entry.2)) fun _ => none

/-- The histories after a step. A name is not given a second meaning, and a copy has the past of what
it is a copy of. -/
def FamilyStep.record (histories : Fin n → History) : FamilyStep n → Fin n → History
  | define on name definition =>
    if name ∈ (histories on).map Prod.fst then histories
    else Function.update histories on (histories on ++ [(name, definition)])
  | clone source target => Function.update histories target (histories source)

/-- The histories after steps. -/
def historiesAfter (steps : List (FamilyStep n)) : Fin n → History :=
  steps.foldl FamilyStep.record fun _ => []

namespace History

theorem replay_concat (history : History) (name : String) (definition : Definition) :
    replay (history ++ [(name, definition)]) =
      Function.update (replay history) name (some definition) := by
  simp [replay]

/-- The names of a history are those that its map knows. -/
theorem isSome_replay (history : History) (name : String) :
    (history.replay name).isSome = true ↔ name ∈ history.map Prod.fst := by
  induction history using List.reverseRecOn with
  | nil => simp [replay]
  | append_singleton history entry ih =>
    rw [replay_concat, List.map_append, List.mem_append, ← ih]
    by_cases same : name = entry.1
    · subst same
      simp
    · rw [Function.update_of_ne same]
      simp [same]

end History

/-- Whether a vocabulary answers as the finite map of a history. -/
structure Vocabulary.Holds (vocabulary : Vocabulary) (history : History) : Prop where
  get? : ∀ name, vocabulary.get? name = history.replay name
  contains : ∀ name, vocabulary.contains name = (history.replay name).isSome
  /-- Names are listed in the order of their code points. -/
  ascending : vocabulary.names.Pairwise fun name next => name.toList < next.toList
  listed : ∀ name, name ∈ vocabulary.names ↔ (history.replay name).isSome = true
  size : vocabulary.size = vocabulary.names.length

/-- A vocabulary that answers as a map when it is asked for a meaning does so in everything. -/
theorem Vocabulary.Holds.of_get? {vocabulary : Vocabulary} {history : History}
    (meanings : ∀ name, vocabulary.get? name = history.replay name) : vocabulary.Holds history where
  get? := meanings
  contains name := by rw [contains_eq_isSome, meanings]
  ascending := by
    refine vocabulary.pairwise_names.imp fun {name next} ordered => ?_
    replace ordered : compareOfLessAndEq name next = .lt := ordered
    rwa [compareOfLessAndEq_eq_lt] at ordered
  listed name := by rw [mem_names, contains_eq_isSome, meanings]
  size := vocabulary.length_names.symm

/-! ## Shared cells -/

/-- Vocabularies in cells that they may share. -/
structure SharedStore (n : Nat) where
  /-- The cell that a vocabulary is in. -/
  cell : Fin n → Nat
  /-- What is in a cell. -/
  contents : Nat → Vocabulary
  /-- How many vocabularies are counted for a cell. -/
  count : Nat → Nat
  /-- The first of the cells that have not been used. -/
  next : Nat

namespace SharedStore

/-- Vocabularies without names, each in a cell of its own. -/
def fresh (n : Nat) : SharedStore n where
  cell := Fin.val
  contents _ := .empty
  count cell := if cell < n then 1 else 0
  next := n

/-- What is to be seen of the vocabularies. -/
def view (store : SharedStore n) : Family n :=
  fun handle => store.contents (store.cell handle)

/-- Moves a vocabulary to another cell, and counts it there. -/
def move (store : SharedStore n) (handle : Fin n) (target : Nat) : SharedStore n :=
  let joined := Function.update store.count target (store.count target + 1)
  let source := store.cell handle
  { store with
    cell := Function.update store.cell handle target
    count := Function.update joined source (joined source - 1) }

/-- Makes the target a further holder of the cell of the source. -/
def clone (store : SharedStore n) (source target : Fin n) : SharedStore n :=
  store.move target (store.cell source)

/-- Writes to the cell of a vocabulary, in place if it is counted as the only one there and to a cell
of its own otherwise. -/
def write (store : SharedStore n) (handle : Fin n) (vocabulary : Vocabulary) : SharedStore n :=
  if store.count (store.cell handle) = 1 then
    { store with contents := Function.update store.contents (store.cell handle) vocabulary }
  else
    { store.move handle store.next with
      contents := Function.update store.contents store.next vocabulary
      next := store.next + 1 }

/-- Gives a new name its meaning in one of the vocabularies. -/
def define (store : SharedStore n) (on : Fin n) (name : String) (definition : Definition) :
    Except Fault (SharedStore n) :=
  ((store.view on).define name definition).map (store.write on)

end SharedStore

/-- The shared vocabularies after a step. -/
def FamilyStep.share (store : SharedStore n) : FamilyStep n → SharedStore n
  | define on name definition => (store.define on name definition).toOption.getD store
  | clone source target => store.clone source target

/-- The shared vocabularies after steps, at first without names. -/
def storeAfter (steps : List (FamilyStep n)) : SharedStore n :=
  steps.foldl FamilyStep.share (.fresh n)

namespace SharedStore

/-- Whether each cell has as many holders as are counted for it, and no unused cell has any. -/
structure WellCounted (store : SharedStore n) : Prop where
  counted : ∀ cell, store.count cell = (Finset.univ.filter (store.cell · = cell)).card
  used : ∀ handle, store.cell handle < store.next

/-- When a vocabulary is moved, the cell that it leaves has one holder less and the one that it comes
to has one more. -/
theorem card_holders_update (cell : Fin n → Nat) (handle : Fin n) (target other : Nat) :
    (Finset.univ.filter (Function.update cell handle target · = other)).card +
        (if cell handle = other then 1 else 0) =
      (Finset.univ.filter (cell · = other)).card + (if target = other then 1 else 0) := by
  have rest : ∀ h ∈ Finset.univ.erase handle,
      (if Function.update cell handle target h = other then 1 else 0) =
        if cell h = other then 1 else 0 := by
    intro h mem
    rw [Function.update_of_ne (Finset.ne_of_mem_erase mem)]
  rw [Finset.card_filter, Finset.card_filter,
    ← Finset.add_sum_erase _ _ (Finset.mem_univ handle),
    ← Finset.add_sum_erase _ (fun h => if cell h = other then 1 else 0) (Finset.mem_univ handle),
    Finset.sum_congr rfl rest, Function.update_self]
  omega

/-- A move is counted in the two cells. -/
theorem count_move (store : SharedStore n) (handle : Fin n) (target other : Nat) :
    (store.move handle target).count other =
      store.count other + (if target = other then 1 else 0) -
        (if store.cell handle = other then 1 else 0) := by
  have joined : Function.update store.count target (store.count target + 1) other =
      store.count other + if target = other then 1 else 0 := by
    by_cases joins : target = other
    · simp [joins]
    · simp [joins, Ne.symm joins]
  rw [← joined]
  by_cases leaves : store.cell handle = other
  · simp [move, leaves]
  · simp [move, leaves, Ne.symm leaves]

theorem counted_move {store : SharedStore n}
    (counted : ∀ cell, store.count cell = (Finset.univ.filter (store.cell · = cell)).card)
    (handle : Fin n) (target other : Nat) :
    (store.move handle target).count other =
      (Finset.univ.filter ((store.move handle target).cell · = other)).card := by
  have holders := card_holders_update store.cell handle target other
  have moved : (store.move handle target).cell = Function.update store.cell handle target := rfl
  rw [count_move, counted, moved]
  omega

variable {store : SharedStore n}

theorem wellCounted_fresh (n : Nat) : (fresh n).WellCounted where
  counted cell := by
    show (if cell < n then 1 else 0) = (Finset.univ.filter fun h : Fin n => h.val = cell).card
    split
    · next inside =>
      have one : (Finset.univ.filter fun h : Fin n => h.val = cell) = {⟨cell, inside⟩} := by
        ext h
        simp [Fin.ext_iff]
      rw [one, Finset.card_singleton]
    · next outside =>
      symm
      rw [Finset.card_eq_zero, Finset.filter_eq_empty_iff]
      rintro h - rfl
      exact outside h.isLt
  used handle := handle.isLt

/-- A vocabulary that is counted as the only one in its cell is alone there. -/
theorem WellCounted.eq_of_alone (wellCounted : store.WellCounted) {handle other : Fin n}
    (alone : store.count (store.cell handle) = 1) (same : store.cell other = store.cell handle) :
    other = handle := by
  rw [wellCounted.counted, Finset.card_eq_one] at alone
  obtain ⟨only, holders⟩ := alone
  have mem : ∀ h, store.cell h = store.cell handle → h = only := by
    intro h here
    have listed : h ∈ Finset.univ.filter (store.cell · = store.cell handle) := by simpa using here
    rwa [holders, Finset.mem_singleton] at listed
  rw [mem other same, mem handle rfl]

theorem wellCounted_clone (wellCounted : store.WellCounted) (source target : Fin n) :
    (store.clone source target).WellCounted where
  counted := counted_move wellCounted.counted target _
  used handle := by
    show Function.update store.cell target (store.cell source) handle < store.next
    rw [Function.update_apply]
    split
    · exact wellCounted.used source
    · exact wellCounted.used handle

theorem view_clone (store : SharedStore n) (source target : Fin n) :
    (store.clone source target).view = Function.update store.view target (store.view source) := by
  funext handle
  show store.contents (Function.update store.cell target (store.cell source) handle) = _
  simp only [Function.update_apply]
  split <;> rfl

theorem wellCounted_write (wellCounted : store.WellCounted) (handle : Fin n)
    (vocabulary : Vocabulary) : (store.write handle vocabulary).WellCounted := by
  unfold write
  split
  · exact ⟨wellCounted.counted, wellCounted.used⟩
  · refine ⟨counted_move wellCounted.counted handle store.next, fun other => ?_⟩
    show Function.update store.cell handle store.next other < store.next + 1
    rw [Function.update_apply]
    split
    · exact Nat.lt_succ_self _
    · exact Nat.lt_succ_of_lt (wellCounted.used other)

/-- A write is seen through the vocabulary that is written to and through no other: in place because
there is no other in the cell, and elsewhere because there is nothing in a new one. -/
theorem view_write (wellCounted : store.WellCounted) (handle : Fin n) (vocabulary : Vocabulary) :
    (store.write handle vocabulary).view = Function.update store.view handle vocabulary := by
  funext other
  unfold write
  split
  · next alone =>
    show Function.update store.contents (store.cell handle) vocabulary (store.cell other) = _
    by_cases same : other = handle
    · rw [same, Function.update_self, Function.update_self]
    · rw [Function.update_of_ne same, Function.update_of_ne]
      · rfl
      · exact fun here => same (wellCounted.eq_of_alone alone here)
  · show Function.update store.contents store.next vocabulary
      (Function.update store.cell handle store.next other) = _
    by_cases same : other = handle
    · rw [same, Function.update_self, Function.update_self, Function.update_self]
    · rw [Function.update_of_ne same, Function.update_of_ne same, Function.update_of_ne]
      · rfl
      · exact Nat.ne_of_lt (wellCounted.used other)

/-- A definition ends the same way with sharing and without, and what is to be seen afterwards is the
same. -/
theorem view_define (wellCounted : store.WellCounted) (on : Fin n) (name : String)
    (definition : Definition) :
    (store.define on name definition).map view = store.view.define on name definition := by
  unfold define Family.define
  cases (store.view on).define name definition with
  | error fault => rfl
  | ok after => exact congrArg Except.ok (view_write wellCounted on after)

/-! ## Steps -/

/-- Whether shared vocabularies are to be seen as vocabularies that share nothing, and those answer as
the maps of their histories. -/
structure Tracks (store : SharedStore n) (family : Family n) (histories : Fin n → History) :
    Prop where
  wellCounted : store.WellCounted
  view : store.view = family
  meanings : ∀ handle name, (family handle).get? name = (histories handle).replay name

namespace Tracks

variable {family : Family n} {histories : Fin n → History}

theorem fresh (n : Nat) :
    (SharedStore.fresh n).Tracks (fun _ => .empty) fun _ => [] where
  wellCounted := wellCounted_fresh n
  view := rfl
  meanings _ name := Vocabulary.get?_empty name

theorem clone (tracks : store.Tracks family histories) (source target : Fin n) :
    (store.clone source target).Tracks (Function.update family target (family source))
      (Function.update histories target (histories source)) where
  wellCounted := wellCounted_clone tracks.wellCounted source target
  view := by rw [view_clone, tracks.view]
  meanings handle name := by
    simp only [Function.update_apply]
    split
    · exact tracks.meanings source name
    · exact tracks.meanings handle name

/-- Exactly the names in the past of a vocabulary are refused. -/
theorem define_eq_error_iff (tracks : store.Tracks family histories) {on : Fin n} {name : String}
    {definition : Definition} {fault : Fault} :
    (family on).define name definition = .error fault ↔
      name ∈ (histories on).map Prod.fst ∧ fault = .alreadyDefined name := by
  rw [Vocabulary.define_eq_error_iff, Vocabulary.contains_eq_isSome, tracks.meanings,
    History.isSome_replay]

theorem define (tracks : store.Tracks family histories) (on : Fin n) (name : String)
    (definition : Definition) :
    ((FamilyStep.define on name definition).share store).Tracks
      ((FamilyStep.define on name definition).apply family)
      ((FamilyStep.define on name definition).record histories) := by
  have seen : store.view on = family on := congrFun tracks.view on
  simp only [FamilyStep.share, FamilyStep.apply, FamilyStep.record, SharedStore.define,
    Family.define, seen]
  cases answer : (family on).define name definition with
  | error fault =>
    rw [if_pos (tracks.define_eq_error_iff.1 answer).1]
    exact tracks
  | ok after =>
    have unused : name ∉ (histories on).map Prod.fst := by
      intro used
      rw [tracks.define_eq_error_iff.2 ⟨used, rfl⟩] at answer
      cases answer
    rw [if_neg unused]
    refine ⟨wellCounted_write tracks.wellCounted on after, ?_, fun handle other => ?_⟩
    · exact (view_write tracks.wellCounted on after).trans (by rw [tracks.view]; rfl)
    · show (Function.update family on after handle).get? other = _
      by_cases same : handle = on
      · subst same
        rw [Function.update_self, Function.update_self, History.replay_concat,
          Vocabulary.get?_of_define answer, Function.update_apply, tracks.meanings]
        simp only [eq_comm]
      · rw [Function.update_of_ne same, Function.update_of_ne same]
        exact tracks.meanings handle other

/-- What one step preserves. -/
theorem step (tracks : store.Tracks family histories) : (step : FamilyStep n) →
    (step.share store).Tracks (step.apply family) (step.record histories)
  | .define on name definition => tracks.define on name definition
  | .clone source target => tracks.clone source target

end Tracks

end SharedStore

theorem storeAfter_concat (steps : List (FamilyStep n)) (step : FamilyStep n) :
    storeAfter (steps ++ [step]) = step.share (storeAfter steps) := by
  simp [storeAfter]

/-- After any steps shared vocabularies are to be seen as vocabularies that share nothing. -/
theorem tracks_storeAfter (steps : List (FamilyStep n)) :
    (storeAfter steps).Tracks (familyAfter steps) (historiesAfter steps) := by
  induction steps using List.reverseRecOn with
  | nil => exact .fresh n
  | append_singleton steps step ih =>
    rw [storeAfter_concat, familyAfter, historiesAfter, List.foldl_concat, List.foldl_concat]
    exact ih.step step

/-! What a step after others changes and what it does not. -/

section

variable (steps : List (FamilyStep n)) (on other : Fin n) (name : String) (definition : Definition)

/-- A definition is not seen through any other vocabulary. -/
theorem view_storeAfter_of_ne (different : other ≠ on) :
    (storeAfter (steps ++ [.define on name definition])).view other =
      (storeAfter steps).view other := by
  have wellCounted := (tracks_storeAfter steps).wellCounted
  simp only [storeAfter_concat, FamilyStep.share, SharedStore.define]
  cases ((storeAfter steps).view on).define name definition with
  | error fault => rfl
  | ok after =>
    show ((storeAfter steps).write on after).view other = _
    rw [SharedStore.view_write wellCounted, Function.update_of_ne different]

theorem define_storeAfter_of_present
    (present : ((storeAfter steps).view on).contains name = true) :
    (storeAfter steps).define on name definition = .error (.alreadyDefined name) := by
  have refused : ((storeAfter steps).view on).define name definition =
      .error (.alreadyDefined name) := Vocabulary.define_eq_error_iff.2 ⟨present, rfl⟩
  rw [SharedStore.define, refused]
  rfl

theorem define_storeAfter_of_absent
    (absent : ((storeAfter steps).view on).contains name = false) :
    ∃ after, (storeAfter steps).define on name definition = .ok after ∧
      (after.view on).get? name = some definition := by
  have wellCounted := (tracks_storeAfter steps).wellCounted
  rw [Vocabulary.contains_eq_isSome, Option.isSome_eq_false_iff, Option.isNone_iff_eq_none] at absent
  obtain ⟨after, defined⟩ := Vocabulary.exists_define absent definition
  refine ⟨(storeAfter steps).write on after, ?_, ?_⟩
  · rw [SharedStore.define, defined]
    rfl
  · rw [SharedStore.view_write wellCounted, Function.update_self,
      Vocabulary.get?_of_define defined, if_pos rfl]

end

/-- Vocabularies that share their storage are independent, whatever has been defined and copied and in
whatever order. They are to be seen as if they were values, and each answers as the map of its own
history. A definition changes the vocabulary that it is made in and no other, and is refused, without
any change, exactly if the name is present. Vocabularies with equal entries and no undefined number are
the same, however each of them came to be, and a vocabulary with an undefined number in a body differs
from its own copy. -/
theorem storeAfter_independent (steps : List (FamilyStep n)) :
    (storeAfter steps).view = familyAfter steps ∧
      (∀ handle, ((storeAfter steps).view handle).Holds (historiesAfter steps handle)) ∧
      (∀ on name definition,
        ((storeAfter steps).define on name definition).map SharedStore.view =
            (storeAfter steps).view.define on name definition ∧
          (∀ other, other ≠ on →
            (storeAfter (steps ++ [.define on name definition])).view other =
              (storeAfter steps).view other) ∧
          (((storeAfter steps).view on).contains name = true →
            (storeAfter steps).define on name definition = .error (.alreadyDefined name) ∧
              (Fault.alreadyDefined name).diagnostic = .definition (name ++ " is already defined") ∧
              storeAfter (steps ++ [.define on name definition]) = storeAfter steps) ∧
          (((storeAfter steps).view on).contains name = false →
            ∃ after, (storeAfter steps).define on name definition = .ok after ∧
              (after.view on).get? name = some definition)) ∧
      (∀ (m : Nat) (others : List (FamilyStep m)) (handle : Fin n) (handle' : Fin m),
        (∀ name, ((storeAfter steps).view handle).get? name =
          ((storeAfter others).view handle').get? name) →
        (∀ name definition, ((storeAfter steps).view handle).get? name = some definition →
          definition.Defined) →
        ((storeAfter steps).view handle).same ((storeAfter others).view handle') = true) ∧
      ∀ source target,
        (storeAfter (steps ++ [.clone source target])).view =
            Function.update (storeAfter steps).view target ((storeAfter steps).view source) ∧
          ((∃ name definition, ((storeAfter steps).view source).get? name = some definition ∧
              ∃ value ∈ Quote.numbers definition.body, value.isNaN = true) →
            ((storeAfter (steps ++ [.clone source target])).view source).same
              ((storeAfter (steps ++ [.clone source target])).view target) = false) := by
  have tracks := tracks_storeAfter steps
  refine ⟨tracks.view, fun handle => .of_get? fun name => ?_,
    fun on name definition => ⟨?_, ?_, ?_, ?_⟩,
    fun m others handle handle' => Vocabulary.same_of_get?_eq, fun source target => ?_⟩
  · rw [tracks.view]
    exact tracks.meanings handle name
  · exact SharedStore.view_define tracks.wellCounted on name definition
  · exact fun other => view_storeAfter_of_ne steps on other name definition
  · intro present
    have refused := define_storeAfter_of_present steps on name definition present
    refine ⟨refused, rfl, ?_⟩
    rw [storeAfter_concat, FamilyStep.share, refused]
    rfl
  · exact define_storeAfter_of_absent steps on name definition
  · have copied := SharedStore.view_clone (storeAfter steps) source target
    rw [storeAfter_concat]
    refine ⟨copied, ?_⟩
    rintro ⟨name, definition, found, value, inside, undefined⟩
    have unchanged : ((storeAfter steps).clone source target).view source =
        (storeAfter steps).view source := by
      rw [copied, Function.update_apply, ite_self]
    have copy : ((storeAfter steps).clone source target).view target =
        (storeAfter steps).view source := by
      rw [copied, Function.update_self]
    rw [FamilyStep.share, unchanged, copy]
    exact Vocabulary.same_self_eq_false found inside undefined

/-! A copy is in the same cell until one of the two is written to. -/

example :
    let copied : List (FamilyStep 2) := [.define 0 "a" ⟨.isolated, []⟩, .clone 0 1]
    let written := copied ++ [.define 1 "b" ⟨.shared, []⟩]
    (storeAfter copied).cell 1 = (storeAfter copied).cell 0 ∧
      (storeAfter written).cell 1 ≠ (storeAfter written).cell 0 ∧
      ((storeAfter written).view 0).names = ["a"] ∧
      ((storeAfter written).view 1).names = ["a", "b"] := by
  decide

end Concatenative
