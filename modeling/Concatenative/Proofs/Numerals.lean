import Mathlib.Data.List.Induction
import Mathlib.Data.List.TakeWhile
import Concatenative.Decimal

/-!
# Numerals

What a numeral is, and which decimal it denotes, is said here by a grammar (`Decimal.Numeral`) that
knows nothing of a reader: a sign or none, digits with at most one point among or around them, and an
exponent or none. The reader accepts exactly the numerals, and finds the decimals they denote
(`Decimal.read?_eq_some_iff`).
-/

namespace Concatenative

/-- A row of characters with a property, in front of one without it, is split off whole. -/
theorem Text.span_append {p : Char → Bool} {row rest : List Char} (inside : ∀ c ∈ row, p c = true)
    (ended : ∀ c ∈ rest.head?, p c = false) :
    (row ++ rest).takeWhile p = row ∧ (row ++ rest).dropWhile p = rest := by
  rw [List.takeWhile_append_of_pos inside, List.dropWhile_append_of_pos inside]
  cases rest with
  | nil => exact ⟨List.append_nil row, rfl⟩
  | cons c rest =>
    have other : ¬ p c = true := Bool.eq_false_iff.1 (ended c rfl)
    rw [List.takeWhile_cons_of_neg other, List.dropWhile_cons_of_neg other, List.append_nil]
    exact ⟨rfl, rfl⟩

namespace Decimal

/-! ## The grammar -/

/-- Whether there are only digits in a row. -/
def Row (row : List Char) : Prop :=
  ∀ c ∈ row, c.isDigit = true

/-- The signs, and whether they are the minus sign. -/
inductive Sign : List Char → Bool → Prop
  | absent : Sign [] false
  | plus : Sign ['+'] false
  | minus : Sign ['-'] true

/-- Digits with at most one point among or around them, and at least one digit in all. With them come
the digits alone and how many of them stand behind the point. -/
inductive Mantissa : List Char → List Char → Nat → Prop
  | whole {row : List Char} (filled : row ≠ []) (digits : Row row) : Mantissa row row 0
  | point {whole fraction : List Char} (filled : whole ++ fraction ≠ [])
    (digits : Row (whole ++ fraction)) :
    Mantissa (whole ++ '.' :: fraction) (whole ++ fraction) fraction.length

/-- Exponents, and the powers of ten that they denote: a mark, a sign or none, and at least one digit.
Where there is none the power is zero. The size is the whole number that the digits denote, except
that no more digits are counted in once it has reached `exponentCap`. -/
inductive Exponent : List Char → Int → Prop
  | absent : Exponent [] 0
  | present {mark : Char} {sign row : List Char} {negative : Bool}
    (marked : mark = 'e' ∨ mark = 'E') (signed : Sign sign negative) (filled : row ≠ [])
    (digits : Row row) :
    Exponent (mark :: (sign ++ row))
      (if negative then -(exponentOfDigits row) else exponentOfDigits row)

/-- Numerals and the decimals that they denote. -/
inductive Numeral : List Char → Decimal → Prop
  | mk {sign mantissa row exponent : List Char} {negative : Bool} {places : Nat} {power : Int}
    (signed : Sign sign negative) (body : Mantissa mantissa row places)
    (scaled : Exponent exponent power) :
    Numeral (sign ++ (mantissa ++ exponent)) ⟨negative, foldDigits row, power - places⟩

/-! ## Characters of numerals -/

section Mantissa

variable {mantissa row : List Char} {places : Nat} (h : Mantissa mantissa row places)

include h

theorem Mantissa.row_ne_nil : row ≠ [] := by
  cases h with
  | whole filled _ | point filled _ => exact filled

theorem Mantissa.exists_digit : ∃ c ∈ mantissa, c.isDigit = true := by
  cases h with
  | whole filled digits =>
    obtain ⟨c, mem⟩ := List.exists_mem_of_ne_nil _ filled
    exact ⟨c, mem, digits c mem⟩
  | @point whole fraction filled digits =>
    obtain ⟨c, mem⟩ := List.exists_mem_of_ne_nil _ filled
    refine ⟨c, ?_, digits c mem⟩
    rcases List.mem_append.1 mem with before | behind
    · exact List.mem_append_left _ before
    · exact List.mem_append_right _ (List.mem_cons_of_mem _ behind)

theorem Mantissa.isDigit_or_point {c : Char} (mem : c ∈ mantissa) : c.isDigit = true ∨ c = '.' := by
  cases h with
  | whole _ digits => exact .inl (digits c mem)
  | point _ digits =>
    rcases List.mem_append.1 mem with before | behind
    · exact .inl (digits c (List.mem_append_left _ before))
    · rcases List.mem_cons.1 behind with point | behind
      · exact .inr point
      · exact .inl (digits c (List.mem_append_right _ behind))

/-- A mantissa does not begin like a sign. -/
theorem Mantissa.unsigned (rest : List Char) :
    ∀ c ∈ (mantissa ++ rest).head?, c ≠ '+' ∧ c ≠ '-' := by
  intro c head
  obtain ⟨d, mem, _⟩ := h.exists_digit
  have first : c ∈ mantissa := by
    obtain ⟨first, others, rfl⟩ := List.exists_cons_of_ne_nil (List.ne_nil_of_mem mem)
    cases head
    exact List.mem_cons_self
  rcases h.isDigit_or_point first with digit | rfl
  · constructor <;> (rintro rfl; exact absurd digit (by decide))
  · decide

end Mantissa

theorem Sign.mem {sign : List Char} {negative : Bool} (h : Sign sign negative) {c : Char}
    (mem : c ∈ sign) : c = '+' ∨ c = '-' := by
  cases h with
  | absent => cases mem
  | plus => exact .inl (List.mem_singleton.1 mem)
  | minus => exact .inr (List.mem_singleton.1 mem)

/-- In a numeral there is a digit, and there are no characters but digits, signs, points and marks. -/
theorem Numeral.characters {text : List Char} {d : Decimal} (h : Numeral text d) :
    (∃ c ∈ text, c.isDigit = true) ∧
      ∀ c ∈ text, c.isDigit = true ∨ c ∈ ['+', '-', '.', 'e', 'E'] := by
  obtain ⟨signed, body, scaled⟩ := h
  constructor
  · obtain ⟨c, mem, digit⟩ := body.exists_digit
    exact ⟨c, by simp [mem], digit⟩
  · intro c mem
    simp only [List.mem_append] at mem
    rcases mem with sign | mantissa | exponent
    · rcases signed.mem sign with rfl | rfl <;> simp
    · rcases body.isDigit_or_point mantissa with digit | rfl
      · exact .inl digit
      · simp
    · cases scaled with
      | absent => cases exponent
      | present marked signed' _ digits =>
        simp only [List.mem_cons, List.mem_append] at exponent
        rcases exponent with rfl | sign | digit
        · rcases marked with rfl | rfl <;> simp
        · rcases signed'.mem sign with rfl | rfl <;> simp
        · exact .inl (digits c digit)

/-! ## The reader -/

/-- What is read off in front is a sign. -/
theorem sign_readSign (text : List Char) :
    ∃ sign, Sign sign (readSign text).1 ∧ text = sign ++ (readSign text).2 := by
  unfold readSign
  split
  · exact ⟨['+'], .plus, rfl⟩
  · exact ⟨['-'], .minus, rfl⟩
  · exact ⟨[], .absent, rfl⟩

/-- A sign is read off in front of other characters. -/
theorem Sign.readSign_append {sign rest : List Char} {negative : Bool} (h : Sign sign negative)
    (plain : ∀ c ∈ rest.head?, c ≠ '+' ∧ c ≠ '-') : readSign (sign ++ rest) = (negative, rest) := by
  cases h with
  | plus | minus => rfl
  | absent =>
    rw [List.nil_append]
    unfold readSign
    split
    · exact absurd rfl (plain '+' rfl).1
    · exact absurd rfl (plain '-' rfl).2
    · rfl

/-- The exponents are what is read as such. -/
theorem readExponent?_eq_some_iff {text : List Char} {power : Int} :
    readExponent? text = some power ↔ Exponent text power := by
  constructor
  · intro read
    cases text with
    | nil =>
      cases read
      exact .absent
    | cons mark rest =>
      obtain ⟨sign, signed, whole⟩ := sign_readSign rest
      rw [readExponent?] at read
      generalize readSign rest = parts at read signed whole
      obtain ⟨negative, row⟩ := parts
      subst whole
      simp only [Option.ite_none_right_eq_some, Bool.and_eq_true, Bool.or_eq_true, beq_iff_eq,
        Bool.not_eq_true', List.isEmpty_eq_false_iff, List.all_eq_true, Option.some.injEq] at read
      obtain ⟨⟨⟨marked, filled⟩, digits⟩, rfl⟩ := read
      exact .present marked signed filled digits
  · intro h
    cases h with
    | absent => rfl
    | @present mark sign row negative marked signed filled digits =>
      have unsigned := (Mantissa.whole filled digits).unsigned []
      rw [List.append_nil] at unsigned
      rw [readExponent?, signed.readSign_append unsigned]
      refine if_pos ?_
      simp only [Bool.and_eq_true, Bool.or_eq_true, beq_iff_eq, Bool.not_eq_true',
        List.isEmpty_eq_false_iff, List.all_eq_true]
      exact ⟨⟨marked, filled⟩, digits⟩

/-- What ends a mantissa in front of it: neither a digit nor a point. -/
theorem Exponent.ends {exponent : List Char} {power : Int} (h : Exponent exponent power) :
    ∀ c ∈ exponent.head?, c.isDigit = false ∧ c ≠ '.' := by
  cases h with
  | absent => nofun
  | present marked _ _ _ =>
    rintro c ⟨⟩
    rcases marked with rfl | rfl <;> decide

/-- What is read off in front of the exponent is a mantissa, if there is a digit in it. -/
theorem mantissa_readFraction {text fraction rest : List Char}
    (read : readFraction (text.dropWhile Char.isDigit) = (fraction, rest))
    (filled : text.takeWhile Char.isDigit ++ fraction ≠ []) :
    ∃ mantissa, Mantissa mantissa (text.takeWhile Char.isDigit ++ fraction) fraction.length ∧
      text = mantissa ++ rest := by
  have whole := List.takeWhile_append_dropWhile (p := Char.isDigit) (l := text)
  have digits : Row (text.takeWhile Char.isDigit) := fun c mem => List.mem_takeWhile_imp mem
  unfold readFraction at read
  split at read
  · next behind point =>
    cases read
    have digits' : Row (behind.takeWhile Char.isDigit) := fun c mem => List.mem_takeWhile_imp mem
    refine ⟨_, .point filled ?_, ?_⟩
    · exact List.forall_mem_append.2 ⟨digits, digits'⟩
    · rw [List.append_assoc, List.cons_append, List.takeWhile_append_dropWhile, ← point, whole]
  · cases read
    rw [List.append_nil] at filled ⊢
    exact ⟨_, .whole filled digits, whole.symm⟩

/-- A mantissa is read off in front of what can end it. -/
theorem Mantissa.readFraction_append {mantissa row rest : List Char} {places : Nat}
    (h : Mantissa mantissa row places) (ends : ∀ c ∈ rest.head?, c.isDigit = false ∧ c ≠ '.') :
    ∃ fraction, readFraction ((mantissa ++ rest).dropWhile Char.isDigit) = (fraction, rest) ∧
      (mantissa ++ rest).takeWhile Char.isDigit ++ fraction = row ∧ fraction.length = places := by
  have ended : ∀ c ∈ rest.head?, c.isDigit = false := fun c head => (ends c head).1
  cases h with
  | whole _ digits =>
    obtain ⟨front, back⟩ := Text.span_append digits ended
    rw [front, back]
    refine ⟨[], ?_, List.append_nil _, rfl⟩
    unfold readFraction
    split
    · exact absurd rfl (ends '.' rfl).2
    · rfl
  | @point whole fraction _ digits =>
    obtain ⟨digits, digits'⟩ := List.forall_mem_append.1 digits
    have pointed : ∀ c ∈ ('.' :: (fraction ++ rest)).head?, c.isDigit = false := by
      rintro c ⟨⟩
      decide
    obtain ⟨front, back⟩ := Text.span_append digits pointed
    obtain ⟨front', back'⟩ := Text.span_append digits' ended
    rw [List.append_assoc, List.cons_append, front, back]
    exact ⟨fraction, by rw [readFraction, front', back'], rfl, rfl⟩

/-- The numerals are what the reader accepts, and the decimals are those that they denote. -/
theorem read?_eq_some_iff {text : List Char} {d : Decimal} :
    read? text = some d ↔ Numeral text d := by
  constructor
  · intro read
    obtain ⟨sign, signed, whole⟩ := sign_readSign text
    rw [read?] at read
    generalize readSign text = parts at read signed whole
    obtain ⟨negative, unsigned⟩ := parts
    dsimp only at read whole
    generalize behind : readFraction (unsigned.dropWhile Char.isDigit) = body at read
    obtain ⟨fraction, rest⟩ := body
    rw [Option.ite_none_left_eq_some, Option.map_eq_some_iff] at read
    obtain ⟨filled, power, scaled, rfl⟩ := read
    have filled' : unsigned.takeWhile Char.isDigit ++ fraction ≠ [] := by simpa using filled
    obtain ⟨mantissa, body, rfl⟩ := mantissa_readFraction behind filled'
    rw [whole, valueOfDigits_eq]
    exact .mk signed body (readExponent?_eq_some_iff.1 scaled)
  · rintro ⟨signed, body, scaled⟩
    obtain ⟨fraction, read, digits, places⟩ := body.readFraction_append scaled.ends
    rw [read?, signed.readSign_append (body.unsigned _)]
    dsimp only
    rw [read, digits, places, readExponent?_eq_some_iff.2 scaled, valueOfDigits_eq, Option.map_some]
    refine if_neg ?_
    rw [Bool.and_eq_true, List.isEmpty_iff, List.isEmpty_iff, ← List.append_eq_nil_iff, digits]
    exact body.row_ne_nil

end Decimal

end Concatenative
