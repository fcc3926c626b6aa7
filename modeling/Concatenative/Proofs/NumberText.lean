import Concatenative.Proofs.Binary64
import Concatenative.Proofs.Numerals

/-!
# Reading numbers back

The text of a finite number is read as that number (`Number.read?_render`). For a text that the
search of the printer has found this was tested during the search; when the search finds nothing, the
number is written as its exact decimal, and the text of a decimal without a positive exponent is read
as that very decimal (`Decimal.read?_render`).
-/

namespace Concatenative

namespace Decimal

/-! ## Rows of digits -/

theorem foldDigits_toDigits (n : Nat) : foldDigits (Nat.toDigits 10 n) = n :=
  Nat.ofDigitChars_ten_toDigits

/-- Zeros in front of a row do not count. -/
theorem foldDigits_replicate_append (n : Nat) (row : List Char) :
    foldDigits (List.replicate n '0' ++ row) = foldDigits row := by
  have zeros : foldDigits (List.replicate n '0') = 10 ^ n * 0 := Nat.ofDigitChars_replicate_zero
  rw [foldDigits_append, zeros, Nat.mul_zero, Nat.zero_mul, Nat.zero_add]

theorem isDigit_of_mem_digits (d : Decimal) {c : Char} (mem : c ∈ d.digits) : c.isDigit = true :=
  Nat.isDigit_of_mem_toDigits (by decide) (by decide) mem

/-- The row with the zeros before it that the point needs. -/
theorem isDigit_of_mem_filled (d : Decimal) (n : Nat) {c : Char}
    (mem : c ∈ List.replicate n '0' ++ d.digits) : c.isDigit = true := by
  rcases List.mem_append.1 mem with zero | digit
  · rw [List.eq_of_mem_replicate zero]
    decide
  · exact d.isDigit_of_mem_digits digit

/-! ## The parts of a decimal -/

/-- A mantissa is read as it stands, with a minus sign in front or without one. -/
theorem read?_signed (negative : Bool) {mantissa row : List Char} {places : Nat}
    (h : Mantissa mantissa row places) :
    read? (signed negative mantissa) = some ⟨negative, foldDigits row, -places⟩ := by
  have parts : ∃ sign, Sign sign negative ∧
      signed negative mantissa = sign ++ (mantissa ++ []) := by
    rw [List.append_nil]
    cases negative with
    | true => exact ⟨['-'], .minus, rfl⟩
    | false => exact ⟨[], .absent, rfl⟩
  obtain ⟨sign, sound, text⟩ := parts
  rw [text, ← Int.zero_sub]
  exact read?_eq_some_iff.2 (.mk sound h .absent)

/-- The text of a decimal without a positive exponent is read as that decimal. -/
theorem read?_render (d : Decimal) (nonpos : d.exponent ≤ 0) : read? d.render = some d := by
  have value : foldDigits d.digits = d.coefficient := foldDigits_toDigits d.coefficient
  have some_digit : d.digits ≠ [] := Nat.toDigits_ne_nil
  rw [render]
  cases exponent : d.exponent with
  | ofNat n =>
    have zero : n = 0 := by
      rw [exponent] at nonpos
      exact Int.ofNat.inj (Int.le_antisymm nonpos (Int.natCast_nonneg n))
    subst zero
    rw [positional, List.replicate_zero, List.append_nil,
      read?_signed d.negative (.whole some_digit fun _ mem => d.isDigit_of_mem_digits mem), value]
    cases d
    cases exponent
    rfl
  | negSucc n =>
    rw [positional]
    have digits : ∀ c ∈ List.replicate (n + 2 - d.digits.length) '0' ++ d.digits,
        c.isDigit = true := fun _ mem => d.isDigit_of_mem_filled _ mem
    have length : n + 2 ≤ (List.replicate (n + 2 - d.digits.length) '0' ++ d.digits).length := by
      rw [List.length_append, List.length_replicate]
      omega
    rw [← foldDigits_replicate_append (n + 2 - d.digits.length)] at value
    generalize List.replicate (n + 2 - d.digits.length) '0' ++ d.digits = row at *
    -- The zeros make the row long enough for a digit before the point and `n + 1` after it.
    have places : (row.drop (row.length - (n + 1))).length = n + 1 := by
      rw [List.length_drop]
      omega
    have halves := List.take_append_drop (row.length - (n + 1)) row
    have filled : row ≠ [] := List.ne_nil_of_length_pos (by omega)
    rw [← halves] at filled digits
    rw [read?_signed d.negative (.point filled digits), halves, value, places]
    cases d
    cases exponent
    rfl

theorem isDigit_of_mem_positional (d : Decimal) {c : Char}
    (mem : c ∈ positional d.digits d.exponent) : c.isDigit = true ∨ c = '.' := by
  unfold positional at mem
  split at mem
  · rcases List.mem_append.1 mem with digit | zero
    · exact .inl (d.isDigit_of_mem_digits digit)
    · rw [List.eq_of_mem_replicate zero]
      decide
  · rcases List.mem_append.1 mem with whole | rest
    · exact .inl (d.isDigit_of_mem_filled _ (List.mem_of_mem_take whole))
    · rcases List.mem_cons.1 rest with point | fraction
      · exact .inr point
      · exact .inl (d.isDigit_of_mem_filled _ (List.mem_of_mem_drop fraction))

/-- The text of a decimal has digits, a point and a minus sign in it and nothing else. -/
theorem isDigit_of_mem_render (d : Decimal) {c : Char} (mem : c ∈ d.render) :
    c.isDigit = true ∨ c = '.' ∨ c = '-' := by
  have unsigned : c = '-' ∨ c ∈ positional d.digits d.exponent := by
    rw [render, signed] at mem
    split at mem
    · exact List.mem_cons.1 mem
    · exact .inr mem
  rcases unsigned with sign | rest
  · exact .inr (.inr sign)
  · rcases d.isDigit_of_mem_positional rest with digit | point
    · exact .inl digit
    · exact .inr (.inl point)

end Decimal

namespace Number

open Float.Model.UnpackedFloat (Sign)

/-! ## Numbers -/

/-- The exact decimal of a number has no positive exponent. -/
theorem expansion_exponent_nonpos (negative : Bool) (mantissa : Nat) (exponent : Int) :
    (expansion negative mantissa exponent).exponent ≤ 0 := by
  rw [expansion]
  split
  · exact Int.le_refl 0
  · show exponent ≤ 0
    omega

theorem zero_or_finite {x : Float} (finite : x.isFinite = true) :
    (∃ sign, x.toModel.unpack = .zero sign) ∨
      ∃ sign mantissa exponent pos, x.toModel.unpack = .finite sign mantissa exponent pos := by
  have kind : x.toModel.unpack.isFinite = true := finite
  cases h : x.toModel.unpack with
  | notANumber => rw [h] at kind; cases kind
  | infinity sign => rw [h] at kind; cases kind
  | zero sign => exact .inl ⟨sign, rfl⟩
  | finite sign mantissa exponent pos => exact .inr ⟨sign, mantissa, exponent, pos, rfl⟩

theorem render_of_zero {x : Float} {sign : Sign} (h : x.toModel.unpack = .zero sign) :
    render x = if isMinus sign then "-0" else "0" := by
  rw [render, shape, h]

theorem render_of_finite {x : Float} {sign : Sign} {mantissa : Nat} {exponent : Int}
    {pos : 0 < mantissa} (h : x.toModel.unpack = .finite sign mantissa exponent pos) :
    render x = String.ofList (shortest x (expansion (isMinus sign) mantissa exponent)).render := by
  rw [render, shape, h]

/-- The text of a finite number is read as that number. -/
theorem read?_render {x : Float} (finite : x.isFinite = true) : read? (render x) = some x := by
  rcases zero_or_finite finite with ⟨sign, h⟩ | ⟨sign, mantissa, exponent, pos, h⟩
  · rw [render_of_zero h, ← Binary64.ofModel_pack_of_unpack h]
    cases sign <;> decide +kernel
  · rw [render_of_finite h, read?, String.toList_ofList]
    -- What the search found has been read back already; otherwise the whole expansion is written.
    rcases ofText?_render_shortest x (expansion (isMinus sign) mantissa exponent) with found | full
    · exact found
    · rw [full, ofText?, Decimal.read?_render _ (expansion_exponent_nonpos _ _ _), Option.map_some,
        Binary64.toFloat_expansion h]

/-- The text of a finite number has digits, a point and a minus sign in it and nothing else. -/
theorem isDigit_of_mem_render {x : Float} (finite : x.isFinite = true) {c : Char}
    (mem : c ∈ (render x).toList) : c.isDigit = true ∨ c = '.' ∨ c = '-' := by
  rcases zero_or_finite finite with ⟨sign, h⟩ | ⟨sign, mantissa, exponent, pos, h⟩
  · rw [render_of_zero h] at mem
    cases sign with
    | positive =>
      rw [List.mem_singleton.1 mem]
      decide
    | negative =>
      rcases List.mem_cons.1 mem with minus | zero
      · exact .inr (.inr minus)
      · rw [List.mem_singleton.1 zero]
        decide
  · rw [render_of_finite h, String.toList_ofList] at mem
    exact Decimal.isDigit_of_mem_render _ mem

/-! ## Numbers that are not finite -/

theorem isNaN_magnitude (d : Decimal) : d.magnitude.isNaN = false := by
  unfold Decimal.magnitude
  split
  · decide +kernel
  · exact Binary64.isNaN_unpack_pack (Binary64.isNaN_ofScientific _ _)

theorem isNaN_neg {x : Float} (defined : x.isNaN = false) : (-x).isNaN = false := by
  refine Binary64.isNaN_unpack_pack ?_
  have inner : x.toModel.unpack.isNaN = false := defined
  cases kind : x.toModel.unpack with
  | notANumber =>
    rw [kind] at inner
    cases inner
  | _ => rfl

/-- No text is read as the undefined number. -/
theorem isNaN_of_read? {token : String} {value : Float} (read : read? token = some value) :
    value.isNaN = false := by
  obtain ⟨d, _, rfl⟩ := Option.map_eq_some_iff.1 read
  unfold Decimal.toFloat
  split
  · exact isNaN_neg (isNaN_magnitude d)
  · exact isNaN_magnitude d

/-- A number that is not undefined is finite, or one of the two infinite ones. -/
theorem finite_or_infinite {x : Float} (defined : x.isNaN = false) :
    x.isFinite = true ∨ ∃ sign, x = .ofModel (.pack (.infinity sign)) := by
  have inner : x.toModel.unpack.isNaN = false := defined
  cases kind : x.toModel.unpack with
  | notANumber =>
    rw [kind] at inner
    cases inner
  | infinity sign => exact .inr ⟨sign, (Binary64.ofModel_pack_of_unpack kind).symm⟩
  | _ =>
    refine .inl ?_
    show x.toModel.unpack.isFinite = true
    rw [kind]
    rfl

/-- Each of the two infinite numbers is read from a decimal that is out of range. -/
theorem read?_infinity (sign : Sign) :
    read? (if isMinus sign then "-1e999" else "1e999") =
      some (.ofModel (.pack (.infinity sign))) := by
  cases sign <;> decide +kernel

end Number

end Concatenative
