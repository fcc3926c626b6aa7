import Mathlib
import Concatenative.Number

/-!
# Exact decimals of finite numbers

A finite number is a whole number of at most 53 bits times a power of two, and a power of two is a
decimal: a negative one, `2 ^ -k`, is `5 ^ k · 10 ^ -k`. Here reading that decimal is shown to give
the number back (`toFloat_expansion`). Reading rounds, so the point is that nothing is there to be
rounded: the bits that are shifted out are not set, and the division by the power of ten is given
enough bits to leave no remainder. A decimal out of range becomes infinite, but never undefined
(`isNaN_ofScientific`).
-/

namespace Concatenative.Binary64

open Float.Model (Format UnpackedFloat totalExponent)
open Float.Model.UnpackedFloat

/-! ## The bits of a number -/

/-- What the exponent and the mantissa in the bits of a finite number other than zero stand for. The
first bit of the mantissa is left out of the bits, unless the exponent is the least one. -/
inductive Fields : BitVec 11 → BitVec 52 → Nat → Int → Prop
  | subnormal (mantissa : BitVec 52) (nonzero : mantissa ≠ 0#52) :
    Fields 0#11 mantissa mantissa.toNat (-1074)
  | normal (exponent : BitVec 11) (mantissa : BitVec 52) (lower : exponent ≠ 0#11)
    (upper : exponent ≠ -1#11) :
    Fields exponent mantissa (2 ^ 52 + mantissa.toNat) (exponent.toNat - 1075)

theorem toNat_leading_append (v : BitVec 52) : (1#1 ++ v).toNat = 2 ^ 52 + v.toNat := by
  rw [BitVec.toNat_append, ← Nat.shiftLeft_add_eq_or_of_lt v.isLt]
  rfl

theorem fields_of_unpack {b : BitVec Format.binary64.numBits} {sign : Sign} {m : Nat} {e : Int}
    {pos : 0 < m} (h : UnpackedFloat.unpack Format.binary64 b = .finite sign m e pos) :
    Fields (unpackExponent b) (unpackMantissa b) m e := by
  unfold UnpackedFloat.unpack at h
  simp only at h
  split at h
  · split at h <;> cases h
  · next upper =>
    split at h
    · next least =>
      split at h
      · cases h
      · next nonzero =>
        cases h
        rw [least]
        exact .subnormal _ nonzero
    · next lower =>
      cases h
      rw [toNat_leading_append]
      exact .normal _ _ lower upper

/-- The mantissas and exponents of finite numbers other than zero: at most 53 bits, the first of them
set unless the exponent is the least one. -/
structure Canonical (m : Nat) (e : Int) : Prop where
  pos : 0 < m
  bits : m < 2 ^ 53
  least : -1074 ≤ e
  greatest : e ≤ 971
  full : 2 ^ 52 ≤ m ∨ e = -1074

namespace Fields

variable {exponent : BitVec 11} {mantissa : BitVec 52} {m : Nat} {e : Int}

theorem unpack (fields : Fields exponent mantissa m e) (sign : Sign) (pos : 0 < m) :
    UnpackedFloat.unpack Format.binary64 (packComponents Format.binary64 sign exponent mantissa) =
      .finite sign m e pos := by
  unfold UnpackedFloat.unpack
  simp only [unpackMantissa_packComponents, unpackExponent_packComponents,
    unpackSign_packComponents, Sign.ofBitVec_toBitVec]
  cases fields with
  | subnormal mantissa nonzero =>
    rw [if_neg (by decide), if_pos rfl, dif_neg nonzero]
    rfl
  | normal exponent mantissa lower upper =>
    rw [if_neg upper, if_neg lower]
    congr 1
    exact toNat_leading_append mantissa

theorem canonical (fields : Fields exponent mantissa m e) : Canonical m e := by
  cases fields with
  | subnormal mantissa nonzero =>
    have pos : mantissa.toNat ≠ 0 := fun h => nonzero (BitVec.eq_of_toNat_eq h)
    have bound := mantissa.isLt
    constructor <;> omega
  | normal exponent mantissa lower upper =>
    have bound := mantissa.isLt
    have bound' := exponent.isLt
    have pos : exponent.toNat ≠ 0 := fun h => lower (BitVec.eq_of_toNat_eq h)
    have top : exponent.toNat ≠ 2047 := fun h => upper (BitVec.eq_of_toNat_eq h)
    constructor <;> omega

theorem pack (fields : Fields exponent mantissa m e) (sign : Sign) (pos : 0 < m) :
    UnpackedFloat.pack Format.binary64 (.finite sign m e pos) =
      packComponents Format.binary64 sign exponent mantissa := by
  unfold UnpackedFloat.pack
  have bias : Format.binary64.exponentBias = 1023 := rfl
  have bits : Format.binary64.mantissaBits = 53 := rfl
  simp only [bias, bits]
  cases fields with
  | subnormal mantissa nonzero =>
    have short : mantissa.toNat.log2 < 52 := (Nat.log2_lt (by omega)).2 mantissa.isLt
    rw [if_neg (by decide), if_neg (by omega), BitVec.ofNat_toNat, BitVec.setWidth_eq]
  | normal exponent mantissa lower upper =>
    have full : (2 ^ 52 + mantissa.toNat).log2 = 52 :=
      (Nat.log2_eq_iff (by omega)).2 ⟨by omega, by have := mantissa.isLt; omega⟩
    have biased : ((exponent.toNat : Int) - 1075 + (1023 : Nat) + (52 : Nat)).toNat =
        exponent.toNat := by
      omega
    have top : exponent.toNat ≠ 2047 := fun h => upper (BitVec.eq_of_toNat_eq h)
    have bound := exponent.isLt
    rw [biased, full, if_neg (by omega), if_pos rfl, BitVec.ofNat_toNat, BitVec.setWidth_eq]
    congr 1
    apply BitVec.eq_of_toNat_eq
    rw [BitVec.toNat_ofNat, Nat.add_mod_left, Nat.mod_eq_of_lt mantissa.isLt]

end Fields

/-- A number is made again from what it is taken apart into. -/
theorem ofModel_pack_of_unpack {x : Float} {value : UnpackedFloat}
    (h : x.toModel.unpack = value) : Float.ofModel (.pack value) = x := by
  rw [← h]
  exact Float.ofBits_toBits x

theorem unpack_pack_of_unpack {x : Float.Model} {sign : Sign} {m : Nat} {e : Int} {pos : 0 < m}
    (h : x.unpack = .finite sign m e pos) (other : Sign) :
    (Float.Model.pack (.finite other m e pos)).unpack = .finite other m e pos := by
  have fields := fields_of_unpack h
  show UnpackedFloat.unpack _ (UnpackedFloat.pack _ _) = _
  rw [fields.pack, fields.unpack]

/-! ## Rounding -/

theorem log2_mul_two_pow {n : Nat} (h : n ≠ 0) (j : Nat) : (n * 2 ^ j).log2 = n.log2 + j := by
  induction j with
  | zero => simp
  | succ j ih =>
    have nonzero : n * 2 ^ j ≠ 0 := Nat.mul_ne_zero h (Nat.ne_of_gt (Nat.two_pow_pos j))
    rw [Nat.pow_succ, ← Nat.mul_assoc, Nat.mul_comm _ 2, Nat.log2_two_mul nonzero, ih, Nat.add_assoc]

theorem log2_mul_le {m n : Nat} (hm : m ≠ 0) (hn : n ≠ 0) :
    (m * n).log2 ≤ m.log2 + n.log2 + 1 := by
  have hlt : m * n < 2 ^ (m.log2 + 1) * 2 ^ (n.log2 + 1) :=
    Nat.mul_lt_mul'' Nat.lt_log2_self Nat.lt_log2_self
  rw [← Nat.pow_add, ← Nat.log2_lt (Nat.mul_ne_zero hm hn)] at hlt
  omega

/-- Bits that are not set are shifted out without a trace. -/
theorem repeat_shiftRightOne (m j : Nat) :
    j.repeat ExtendedMantissa.shiftRightOne ⟨m * 2 ^ j, false, false⟩ = ⟨m, false, false⟩ := by
  induction j generalizing m with
  | zero => simp [Nat.repeat]
  | succ j ih =>
    have next : m * 2 ^ (j + 1) = (m * 2) * 2 ^ j := by
      rw [Nat.pow_succ, Nat.mul_comm (2 ^ j), Nat.mul_assoc]
    rw [next, Nat.repeat, ih, ExtendedMantissa.shiftRightOne]
    simp

namespace Canonical

variable {m : Nat} {e : Int}

theorem targetExponent_eq (c : Canonical m e) (j : Nat) :
    Format.binary64.targetExponent (totalExponent (m * 2 ^ j) (e - j)) = e := by
  have bits : Format.binary64.mantissaBits = 53 := rfl
  have least : Format.binary64.minExponent = -1074 := rfl
  have nonzero : m ≠ 0 := by have := c.pos; omega
  have upper := (Nat.log2_lt nonzero).2 c.bits
  rw [Format.targetExponent, totalExponent, log2_mul_two_pow nonzero, bits, least]
  -- Either all 53 bits are in use and fix the exponent, or the least exponent does.
  rcases c.full with full | full
  · have lower := (Nat.le_log2 nonzero).2 full
    have := c.least
    omega
  · omega

theorem shiftToTargetExponent_eq (c : Canonical m e) (j : Nat) :
    shiftToTargetExponent Format.binary64 (m * 2 ^ j) (e - j) .exact = (⟨m, false, false⟩, e) := by
  have amount : (e - (e - j)).toNat = j := by omega
  rw [shiftToTargetExponent, c.targetExponent_eq, shiftToExponent, amount]
  refine Prod.ext (repeat_shiftRightOne m j) ?_
  show e - j + j = e
  omega

/-- A number in range that is written with more bits than it needs is rounded to itself. -/
theorem roundWithAccuracy_eq (c : Canonical m e) (sign : Sign) (j : Nat) :
    roundWithAccuracy Format.binary64 sign (m * 2 ^ j) (e - j) .exact =
      .finite sign m e c.pos := by
  have again := c.shiftToTargetExponent_eq 0
  have nonzero : m ≠ 0 := by have := c.pos; omega
  simp only [Nat.pow_zero, Nat.mul_one, Int.natCast_zero, Int.sub_zero] at again
  -- The first shift drops the bits to spare, and the second one has nothing left to do.
  have rounded : (⟨m, false, false⟩ : ExtendedMantissa).roundedMantissa = m := rfl
  simp only [roundWithAccuracy, c.shiftToTargetExponent_eq, rounded, again]
  exact dif_neg nonzero

/-! ## Exact decimals -/

/-- A whole number in range is read as itself. -/
theorem ofScientific_of_nonneg (c : Canonical m e) (nonneg : 0 ≤ e) :
    ofScientific Format.binary64 (m * 2 ^ e.toNat) 0 = .finite .positive m e c.pos := by
  have nonzero : m ≠ 0 := Nat.ne_of_gt c.pos
  have nonzero' : m * 2 ^ e.toNat ≠ 0 :=
    Nat.mul_ne_zero nonzero (Nat.ne_of_gt (Nat.two_pow_pos _))
  have bits : Format.binary64.mantissaBits = 53 := rfl
  have range : (2 : Int) ^ Format.binary64.exponentBits = 2048 := rfl
  have product : (m * 2 ^ e.toNat) <<< 53 * 10 ^ (0 : Int).toNat = m * 2 ^ (e.toNat + 53) := by
    rw [Nat.shiftLeft_eq, Nat.pow_add, Int.toNat_zero, Nat.pow_zero, Nat.mul_one, Nat.mul_assoc]
  have power : -((53 : Nat) : Int) + 0 = e - ((e.toNat + 53 : Nat) : Int) := by omega
  rw [ofScientific, dif_neg nonzero', range, if_neg (by omega), if_neg (by omega),
    if_pos (Int.le_refl 0), mul, bits, product, power]
  exact c.roundWithAccuracy_eq .positive (e.toNat + 53)

/-- Dividing the exact decimal of a fraction by its power of ten leaves no remainder, because the
quotient is given at least as many bits as the fraction has. -/
theorem divCore_eq {k : Nat} (c : Canonical m (-k)) :
    ∃ j : Nat, divCore Format.binary64 (m * 5 ^ k) 0 (10 ^ k) 0 =
      (m * 2 ^ j, -(k : Int) - j, .exact) := by
  have bits : Format.binary64.mantissaBits = 53 := rfl
  have least : Format.binary64.minExponent = -1074 := rfl
  have nonzero : m ≠ 0 := Nat.ne_of_gt c.pos
  have nonzero5 : 5 ^ k ≠ 0 := Nat.ne_of_gt (Nat.pow_pos (by decide))
  have ten : 10 ^ k = 5 ^ k * 2 ^ k := by rw [← Nat.mul_pow]
  have length10 : (10 ^ k).log2 = (5 ^ k).log2 + k := by rw [ten, log2_mul_two_pow nonzero5]
  have length := log2_mul_le nonzero nonzero5
  have upper := (Nat.log2_lt nonzero).2 c.bits
  have lower := c.least
  rw [divCore]
  generalize target : min ((0 : Int) - 0) (Format.binary64.targetExponent
    (totalExponent (m * 5 ^ k) 0 - totalExponent (10 ^ k) 0)) = t
  rw [Format.targetExponent, totalExponent, totalExponent, bits, least, length10] at target
  -- The exponent of the quotient is at most that of the fraction; the rest of the shift is spare.
  obtain ⟨j, rfl⟩ : ∃ j : Nat, t = -k - j := ⟨(-k - t).toNat, by omega⟩
  have amount : ((0 : Int) - 0 - (-k - j)).toNat = k + j := by omega
  have product : (m * 5 ^ k) <<< (k + j) = m * 2 ^ j * 10 ^ k := by
    rw [Nat.shiftLeft_eq, Nat.pow_add, ten, Nat.mul_comm (2 ^ k), Nat.mul_mul_mul_comm]
  have pos : 0 < 10 ^ k := Nat.pow_pos (by decide)
  refine ⟨j, ?_⟩
  simp only [amount, product, Nat.mul_div_cancel _ pos, Nat.mul_mod_left]
  rfl

/-- The exact decimal of a fraction in range is read as that fraction. -/
theorem ofScientific_of_neg {k : Nat} (c : Canonical m (-k)) (pos : 0 < k) :
    ofScientific Format.binary64 (m * 5 ^ k) (-k) = .finite .positive m (-k) c.pos := by
  have nonzero : m * 5 ^ k ≠ 0 :=
    Nat.mul_ne_zero (Nat.ne_of_gt c.pos) (Nat.ne_of_gt (Nat.pow_pos (by decide)))
  have range : (2 : Int) ^ Format.binary64.exponentBits = 2048 := rfl
  have size : (- -(k : Int)).toNat = k := by omega
  have lower := c.least
  obtain ⟨j, quotient⟩ := c.divCore_eq
  rw [ofScientific, dif_neg nonzero, range, if_neg (by omega), if_neg (by omega),
    if_neg (by omega), div, size, quotient]
  exact c.roundWithAccuracy_eq .positive j

/-- The exact decimal of a number in range is not taken for one out of range. -/
theorem isHuge_expansion (c : Canonical m e) (negative : Bool) :
    (Number.expansion negative m e).isHuge = false := by
  have nonzero : m ≠ 0 := Nat.ne_of_gt c.pos
  have upper := (Nat.log2_lt nonzero).2 c.bits
  have greatest := c.greatest
  rw [Decimal.isHuge, Decimal.overflowBits, decide_eq_false_iff_not, Number.expansion]
  split
  · show ¬ 1024 + 10 * (-(0 : Int)).toNat / 3 < (m * 2 ^ e.toNat).log2
    rw [log2_mul_two_pow nonzero]
    omega
  · show ¬ 1024 + 10 * (-e).toNat / 3 < (m * 5 ^ (-e).toNat).log2
    have nonzero5 : 5 ^ (-e).toNat ≠ 0 := Nat.ne_of_gt (Nat.pow_pos (by decide))
    have length := log2_mul_le nonzero nonzero5
    -- A power of five has at most three bits for each factor, and as many are allowed for.
    have lt8 : 5 ^ (-e).toNat ≤ 2 ^ (3 * (-e).toNat) := by
      rw [Nat.pow_mul]
      exact Nat.pow_le_pow_left (by decide) _
    have length5 : (5 ^ (-e).toNat).log2 < 3 * (-e).toNat + 1 :=
      (Nat.log2_lt nonzero5).2 (Nat.lt_of_le_of_lt lt8 (Nat.pow_lt_pow_right (by decide) (by omega)))
    omega

theorem magnitude_expansion (c : Canonical m e) (negative : Bool) :
    (Number.expansion negative m e).magnitude =
      .ofModel (Float.Model.pack (.finite .positive m e c.pos)) := by
  rw [Decimal.magnitude, c.isHuge_expansion]
  show Float.ofModel (Float.Model.pack (ofScientific Format.binary64 _ _)) = _
  congr 2
  rw [Number.expansion]
  split
  · next nonneg => exact c.ofScientific_of_nonneg nonneg
  · next neg =>
    obtain ⟨k, rfl⟩ : ∃ k : Nat, e = -k := ⟨(-e).toNat, by omega⟩
    have size : (- -(k : Int)).toNat = k := by omega
    rw [size]
    exact c.ofScientific_of_neg (by omega)

end Canonical

/-- Every finite number other than zero is the value of its exact decimal. -/
theorem toFloat_expansion {x : Float} {sign : Sign} {m : Nat} {e : Int} {pos : 0 < m}
    (h : x.toModel.unpack = .finite sign m e pos) :
    (Number.expansion (Number.isMinus sign) m e).toFloat = x := by
  have c := (fields_of_unpack h).canonical
  have isNegative : (Number.expansion (Number.isMinus sign) m e).negative = Number.isMinus sign := by
    rw [Number.expansion]
    split <;> rfl
  rw [Decimal.toFloat, c.magnitude_expansion, isNegative]
  cases sign with
  | positive =>
    exact ofModel_pack_of_unpack h
  | negative =>
    show Float.ofModel (Float.Model.pack (Float.Model.unpack _).neg) = x
    rw [unpack_pack_of_unpack h]
    exact ofModel_pack_of_unpack h

/-! ## Undefined numbers -/

/-- The undefined numbers are told from the others by their bits. -/
theorem eq_of_isNaN_unpack {sign : Sign} {exponent : BitVec 11} {mantissa : BitVec 52}
    (h : (UnpackedFloat.unpack Format.binary64
      (packComponents Format.binary64 sign exponent mantissa)).isNaN = true) :
    exponent = -1#11 ∧ mantissa ≠ 0#52 := by
  unfold UnpackedFloat.unpack at h
  simp only [unpackMantissa_packComponents, unpackExponent_packComponents] at h
  split at h
  · next top =>
    split at h
    · cases h
    · next nonzero => exact ⟨top, nonzero⟩
  · split at h
    · split at h <;> cases h
    · cases h

/-- What is not undefined is not undefined either once it is packed into bits. -/
theorem isNaN_unpack_pack {value : UnpackedFloat} (defined : value.isNaN = false) :
    (Float.Model.pack value).unpack.isNaN = false := by
  show (UnpackedFloat.unpack Format.binary64 (UnpackedFloat.pack _ value)).isNaN = false
  have infinity : ∀ sign, (UnpackedFloat.unpack Format.binary64
      (packedInfinity Format.binary64 sign)).isNaN = false := by
    intro sign
    rw [Bool.eq_false_iff]
    intro nan
    exact (eq_of_isNaN_unpack nan).2 rfl
  unfold UnpackedFloat.pack
  split
  · cases defined
  · exact infinity _
  · rw [Bool.eq_false_iff]
    intro nan
    exact absurd (eq_of_isNaN_unpack nan).1 (by decide)
  · dsimp only
    split
    · exact infinity _
    · next inRange =>
      rw [Bool.eq_false_iff]
      split
      · intro nan
        have top := congrArg BitVec.toNat (eq_of_isNaN_unpack nan).1
        have range : (2 : Nat) ^ Format.binary64.exponentBits = 2048 := rfl
        have last : (-1#11).toNat = 2047 := rfl
        rw [range] at inRange
        rw [BitVec.toNat_ofNat, Nat.mod_eq_of_lt (by omega), last] at top
        omega
      · intro nan
        exact absurd (eq_of_isNaN_unpack nan).1 (by decide)

/-- Rounding makes a zero or another finite number, however large its exponent. -/
theorem isNaN_roundWithAccuracy (sign : Sign) (mantissa : Nat) (exponent : Int)
    (accuracy : Accuracy) :
    (roundWithAccuracy Format.binary64 sign mantissa exponent accuracy).isNaN = false := by
  unfold roundWithAccuracy
  dsimp only
  split <;> rfl

theorem isNaN_ofScientific (m : Nat) (e : Int) :
    (UnpackedFloat.ofScientific Format.binary64 m e).isNaN = false := by
  unfold UnpackedFloat.ofScientific
  split
  · rfl
  · split
    · rfl
    · split
      · rfl
      · split
        · exact isNaN_roundWithAccuracy _ _ _ _
        · exact isNaN_roundWithAccuracy _ _ _ _

end Concatenative.Binary64
