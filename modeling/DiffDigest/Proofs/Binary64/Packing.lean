import DiffDigest.Proofs.Binary64.Rounding

/-!
# Bit patterns of binary64 numbers

A number that is not negative is stored as a mantissa with an exponent, and its bit
pattern is its place among all such numbers.  A mantissa with too many digits is
rounded to the nearest one that can be stored, and so its bit pattern is the code of
its amount, or that of infinity if there is none.
-/

namespace DiffDigest.Binary64

open Float.Model (Format UnpackedFloat totalExponent)
open Float.Model.UnpackedFloat

/-! ## Rounding a mantissa -/

/-- Shifting keeps the first digit that is cut off, and whether there are others. -/
theorem shift_exact (m shift : Nat) :
    (ExtendedMantissa.ofMantissaAndAccuracy m .exact) >>> (shift + 1) =
      ⟨m / 2 ^ (shift + 1), m / 2 ^ shift % 2 != 0, m % 2 ^ shift != 0⟩ := by
  induction shift with
  | zero =>
      change ExtendedMantissa.mk (m / 2) (m % 2 != 0) (false || false) = _
      rw [Nat.pow_zero, Nat.div_one, Nat.mod_one]
      rfl
  | succ shift ih =>
      change (ExtendedMantissa.ofMantissaAndAccuracy m .exact >>> (shift + 1)).shiftRightOne = _
      have sticky : (m / 2 ^ shift % 2 != 0 || m % 2 ^ shift != 0) = (m % 2 ^ (shift + 1) != 0) := by
        have digits := Nat.mod_pow_succ (b := 2) (k := shift) (x := m)
        have positive := Nat.two_pow_pos shift
        rw [Bool.eq_iff_iff, Bool.or_eq_true, bne_iff_ne, bne_iff_ne, bne_iff_ne, digits, Ne,
          Ne, Ne, Nat.add_eq_zero_iff, Nat.mul_eq_zero]
        omega
      rw [ih, ExtendedMantissa.shiftRightOne, Nat.div_div_eq_div_mul, ← Nat.pow_succ]
      exact congrArg (ExtendedMantissa.mk _ _) sticky

theorem roundedMantissa_mk (quotient : Nat) (first others : Bool) :
    (ExtendedMantissa.mk quotient first others).roundedMantissa =
      if first then if others then quotient + 1 else quotient + quotient % 2 else quotient := by
  cases first <;> cases others <;> rfl

theorem roundedMantissa_shift (m shift : Nat) :
    (ExtendedMantissa.ofMantissaAndAccuracy m .exact >>> shift).roundedMantissa =
      nearest m shift := by
  cases shift with
  | zero => exact (nearest_zero m).symm
  | succ shift =>
      have digits := Nat.mod_pow_succ (b := 2) (k := shift) (x := m)
      have rest := Nat.mod_lt m (Nat.two_pow_pos shift)
      have power : 2 ^ (shift + 1) = 2 * 2 ^ shift := Nat.pow_succ'
      rw [shift_exact, roundedMantissa_mk, nearest, digits]
      rcases Nat.mod_two_eq_zero_or_one (m / 2 ^ shift) with zero | one
      · rw [zero, Nat.mul_zero]
        have less : 2 * (m % 2 ^ shift + 0) < 2 ^ (shift + 1) := by omega
        rw [if_pos less]
        rfl
      · rw [one, Nat.mul_one]
        by_cases exact : m % 2 ^ shift = 0
        · rw [exact]
          have same : 2 * (0 + 2 ^ shift) = 2 ^ (shift + 1) := by omega
          rw [same, if_neg (Nat.lt_irrefl _), if_pos rfl]
          rfl
        · have notLess : ¬ 2 * (m % 2 ^ shift + 2 ^ shift) < 2 ^ (shift + 1) := by omega
          have other : 2 * (m % 2 ^ shift + 2 ^ shift) ≠ 2 ^ (shift + 1) := by omega
          rw [if_neg notLess, if_neg other, bne_iff_ne.2 exact]
          rfl

/-! ## Packing -/

def infinity : Nat :=
  2047 * 2 ^ 52

/-- A positive mantissa and an exponent as they are stored. -/
structure IsStored (m : Nat) (e : Int) : Prop where
  positive : 0 < m
  digits : m < 2 ^ 53
  least : -1074 ≤ e
  full : 2 ^ 52 ≤ m ∨ e = -1074

/-- The number of a stored mantissa with its exponent among all of them, from the least one on. -/
def ordinal (m : Nat) (e : Int) : Nat :=
  (e + 1074).toNat * 2 ^ 52 + m

theorem toNat_packComponents (exponent : BitVec 11) (mantissa : BitVec 52) :
    (packComponents Format.binary64 .positive exponent mantissa).toNat =
      exponent.toNat * 2 ^ 52 + mantissa.toNat := by
  change (0#1 ++ exponent ++ mantissa).toNat = _
  rw [BitVec.toNat_append, BitVec.toNat_append, ← Nat.shiftLeft_add_eq_or_of_lt mantissa.isLt,
    Nat.shiftLeft_eq]
  simp

theorem toNat_pack {m : Nat} {e : Int} (stored : IsStored m e) :
    (pack Format.binary64 (.finite .positive m e stored.positive)).toNat =
      min (ordinal m e) infinity := by
  have positive := stored.positive
  have digits := stored.digits
  have least := stored.least
  have full := stored.full
  have above (place : Nat) : place ≤ m.log2 ↔ 2 ^ place ≤ m := Nat.le_log2 (by omega)
  have top : m.log2 < 53 := by
    rw [Nat.log2_lt (by omega)]
    exact digits
  unfold ordinal infinity
  change BitVec.toNat (if 2 ^ 11 ≤ (e + 1023 + 52).toNat + 1 then _ else
    if m.log2 + 1 = 53 then _ else _) = _
  split
  · rw [packedInfinity, toNat_packComponents]
    change 2047 * 2 ^ 52 + 0 = _
    omega
  · split
    · rw [toNat_packComponents, BitVec.toNat_ofNat, BitVec.toNat_ofNat]
      have normal := (above 52).1 (by omega)
      change (e + 1023 + 52).toNat % 2 ^ 11 * 2 ^ 52 + m % 2 ^ 52 = _
      omega
    · rw [toNat_packComponents, BitVec.toNat_ofNat]
      have small : ¬ 2 ^ 52 ≤ m := fun large => by
        have place := (above 52).2 large
        omega
      change 0 * 2 ^ 52 + m % 2 ^ 52 = _
      omega

/-! ## Unpacking -/

/-- A number that is not negative, and its bit pattern. -/
inductive HasBits : UnpackedFloat → Nat → Prop
  | zero : HasBits (.zero .positive) 0
  | finite {m : Nat} {e : Int} (stored : IsStored m e) (below : ordinal m e < infinity) :
      HasBits (.finite .positive m e stored.positive) (ordinal m e)
  | infinite : HasBits (.infinity .positive) infinity

theorem HasBits.toNat_pack {number : UnpackedFloat} {bits : Nat}
    (has : HasBits number bits) : (pack Format.binary64 number).toNat = bits := by
  cases has with
  | zero => rfl
  | finite stored below =>
      rw [Binary64.toNat_pack stored]
      exact Nat.min_eq_left (Nat.le_of_lt below)
  | infinite => rfl

theorem HasBits.of_ordinal {m : Nat} {e : Int} {bits : Nat} (stored : IsStored m e)
    (same : ordinal m e = bits) (below : bits < infinity) (positive : 0 < m) :
    HasBits (.finite .positive m e positive) bits := by
  subst same
  exact .finite stored below

theorem toNat_unpackMantissa (bits : BitVec 64) :
    (@unpackMantissa Format.binary64 bits).toNat = bits.toNat % 2 ^ 52 := by
  simp [unpackMantissa]

theorem toNat_unpackExponent (bits : BitVec 64) :
    (@unpackExponent Format.binary64 bits).toNat = bits.toNat / 2 ^ 52 % 2 ^ 11 := by
  simp [unpackExponent, Nat.shiftRight_eq_div_pow]

theorem toNat_unpackSign (bits : BitVec 64) :
    (@unpackSign Format.binary64 bits).toNat = bits.toNat / 2 ^ 63 % 2 := by
  change (bits.extractLsb' 63 1).toNat = _
  rw [BitVec.extractLsb'_toNat, Nat.shiftRight_eq_div_pow]

theorem unpackSign_of_lt {bits : BitVec 64} (below : bits.toNat < infinity) :
    Sign.ofBitVec (@unpackSign Format.binary64 bits) = .positive := by
  have zero : @unpackSign Format.binary64 bits = 0#1 := by
    apply BitVec.eq_of_toNat_eq
    rw [toNat_unpackSign]
    unfold infinity at below
    change bits.toNat / 2 ^ 63 % 2 = 0
    omega
  rw [zero]
  rfl

theorem unpackExponent_of_lt {bits : BitVec 64} (below : bits.toNat < infinity) :
    @unpackExponent Format.binary64 bits ≠ -1#11 := by
  intro ones
  have exponent := toNat_unpackExponent bits
  rw [ones] at exponent
  have full : 2047 = bits.toNat / 2 ^ 52 % 2 ^ 11 := exponent
  unfold infinity at below
  omega

/-- The first digit of a mantissa is not stored, unless the number is too small to have one. -/
theorem toNat_append_unpackMantissa (bits : BitVec 64) :
    (1#1 ++ @unpackMantissa Format.binary64 bits).toNat = 2 ^ 52 + bits.toNat % 2 ^ 52 := by
  rw [BitVec.toNat_append, ← Nat.shiftLeft_add_eq_or_of_lt
    (@unpackMantissa Format.binary64 bits).isLt, toNat_unpackMantissa]
  rfl

/-- A bit pattern up to that of infinity is that of a number. -/
theorem hasBits_unpack {bits : BitVec 64} (bounded : bits.toNat ≤ infinity) :
    HasBits (unpack Format.binary64 bits) bits.toNat := by
  rcases Nat.lt_or_eq_of_le bounded with below | top
  · have mantissa := toNat_unpackMantissa bits
    have exponent := toNat_unpackExponent bits
    unfold unpack
    dsimp only
    rw [unpackSign_of_lt below, if_neg (unpackExponent_of_lt below)]
    unfold infinity at below
    -- Without an exponent the mantissa has all its digits; with one, the first is left out.
    by_cases zeros : @unpackExponent Format.binary64 bits = 0#11
    · rw [if_pos zeros]
      have empty : bits.toNat / 2 ^ 52 % 2 ^ 11 = 0 := by
        rw [← exponent, zeros]
        rfl
      by_cases none : @unpackMantissa Format.binary64 bits = 0#52
      · rw [dif_pos none]
        rw [none] at mantissa
        have least : 0 = bits.toNat % 2 ^ 52 := mantissa
        have all : bits.toNat = 0 := by omega
        rw [all]
        exact .zero
      · rw [dif_neg none]
        have positive : 0 < bits.toNat % 2 ^ 52 := by
          rw [← mantissa, Nat.pos_iff_ne_zero]
          exact fun least => none (BitVec.eq_of_toNat_eq least)
        have place : ((@unpackExponent Format.binary64 bits).toNat : Int) - (1023 + 52) + 1 =
            -1074 := by omega
        apply HasBits.of_ordinal _ _ below
        · change IsStored _ (((@unpackExponent Format.binary64 bits).toNat : Int) - (1023 + 52) + 1)
          rw [place, mantissa]
          constructor <;> omega
        · change (((@unpackExponent Format.binary64 bits).toNat : Int) - (1023 + 52) + 1 +
            1074).toNat * 2 ^ 52 + _ = _
          rw [place, mantissa]
          omega
    · rw [if_neg zeros]
      have notEmpty : bits.toNat / 2 ^ 52 % 2 ^ 11 ≠ 0 := by
        rw [← exponent]
        exact fun empty => zeros (BitVec.eq_of_toNat_eq empty)
      apply HasBits.of_ordinal _ _ below
      · change IsStored _ (((@unpackExponent Format.binary64 bits).toNat : Int) - (1023 + 52))
        rw [toNat_append_unpackMantissa, exponent]
        constructor <;> omega
      · change (((@unpackExponent Format.binary64 bits).toNat : Int) - (1023 + 52) +
          1074).toNat * 2 ^ 52 + _ = _
        rw [toNat_append_unpackMantissa, exponent]
        omega
  · obtain rfl : bits = BitVec.ofNat 64 infinity := BitVec.eq_of_toNat_eq top
    exact .infinite

/-! ## Rounded numbers -/

theorem targetExponent_eq (m : Nat) (e : Int) :
    Format.binary64.targetExponent (totalExponent m e) = max (m.log2 + e - 52) (-1074) := by
  change max ((m.log2 : Int) + 1 + e - 53) (-1074) = _
  omega

theorem log2_mul_two_pow {m : Nat} (positive : 0 < m) (zeros : Nat) :
    (m * 2 ^ zeros).log2 = m.log2 + zeros := by
  have power := Nat.two_pow_pos zeros
  rw [Nat.log2_eq_iff (Nat.ne_of_gt (Nat.mul_pos positive power)), Nat.pow_add,
    Nat.add_right_comm, Nat.pow_add]
  exact ⟨Nat.mul_le_mul_right _ (Nat.log2_self_le (by omega)),
    Nat.mul_lt_mul_of_pos_right Nat.lt_log2_self power⟩

/--
How many units a mantissa with an exponent makes up.  The least positive number is
two to the power of -1074, and that many units as the place of its digit tells.
-/
def amount (least m : Nat) (e : Int) : Nat :=
  m * 2 ^ (e + 1074 + least).toNat

section Round

variable {least m : Nat} {e : Int} (positive : 0 < m) (whole : 0 ≤ e + 1074 + least)

include positive whole

theorem lastPlace_amount : (lastPlace least (amount least m e) : Int) =
    Format.binary64.targetExponent (totalExponent m e) + 1074 + least := by
  rw [lastPlace, amount, log2_mul_two_pow positive, targetExponent_eq]
  omega

theorem nearest_amount (fits : e ≤ Format.binary64.targetExponent (totalExponent m e)) :
    nearest (amount least m e) (lastPlace least (amount least m e)) =
      nearest m (Format.binary64.targetExponent (totalExponent m e) - e).toNat := by
  have place := lastPlace_amount positive whole
  have cut : lastPlace least (amount least m e) =
      (Format.binary64.targetExponent (totalExponent m e) - e).toNat +
        (e + 1074 + least).toNat := by omega
  rw [cut]
  exact nearest_mul_two_pow m _ _

end Round

/-- A mantissa with one digit too many is one that ends in zero. -/
theorem shiftToTargetExponent_le {m : Nat} {e : Int} (digits : m ≤ 2 ^ 53) (least : -1074 ≤ e) :
    shiftToTargetExponent Format.binary64 m e .exact =
      if m < 2 ^ 53 then (⟨m, false, false⟩, e) else (⟨2 ^ 52, false, false⟩, e + 1) := by
  have target := targetExponent_eq m e
  unfold shiftToTargetExponent
  dsimp only
  split
  · rename_i fits
    have small : m.log2 ≤ 52 := by
      by_cases zero : m = 0
      · rw [zero, Nat.log2_zero]
        decide
      · exact Nat.le_of_lt_succ ((Nat.log2_lt zero).2 fits)
    have same : (Format.binary64.targetExponent (totalExponent m e) - e).toNat = 0 := by omega
    rw [shiftToExponent, same]
    exact congrArg (Prod.mk _) (Int.add_zero e)
  · obtain rfl : m = 2 ^ 53 := by omega
    have one : (Format.binary64.targetExponent (totalExponent (2 ^ 53) e) - e).toNat = 1 := by
      rw [Nat.log2_two_pow] at target
      omega
    rw [shiftToExponent, one]
    rfl

/-- A rounded mantissa is stored as it is, or with one digit less if it has grown by one. -/
theorem toNat_pack_settled {m : Nat} {e : Int} (digits : m ≤ 2 ^ 53) (least : -1074 ≤ e)
    (full : 2 ^ 52 ≤ m ∨ e = -1074) :
    let settled := shiftToTargetExponent Format.binary64 m e .exact
    (pack Format.binary64 (if none : settled.1.mantissa = 0 then .zero .positive
      else .finite .positive settled.1.mantissa settled.2 (Nat.pos_of_ne_zero none))).toNat =
        min (ordinal m e) infinity := by
  rw [shiftToTargetExponent_le digits least]
  dsimp only
  -- The ordinal of `2 ^ 53` is that of `2 ^ 52` with the next exponent.
  by_cases zero : m = 0
  · subst zero
    obtain rfl : e = -1074 := by omega
    rfl
  · by_cases short : m < 2 ^ 53
    · rw [if_pos short, dif_neg zero]
      exact toNat_pack ⟨by omega, short, least, full⟩
    · rw [if_neg short]
      have grown : ordinal m e = ordinal (2 ^ 52) (e + 1) := by
        unfold ordinal
        omega
      rw [grown]
      exact toNat_pack ⟨by decide, by decide, by omega, .inl (Nat.le_refl _)⟩

/-- Rounding gives the nearest number that has a bit pattern. -/
theorem toNat_pack_roundWithAccuracy {least m : Nat} {e : Int} (positive : 0 < m)
    (whole : 0 ≤ e + 1074 + least)
    (fits : e ≤ Format.binary64.targetExponent (totalExponent m e)) :
    (pack Format.binary64 (roundWithAccuracy Format.binary64 .positive m e .exact)).toNat =
      min (code least (amount least m e)) infinity := by
  have place := lastPlace_amount positive whole
  have rounded := nearest_amount positive whole fits
  have top := nearest_lastPlace_le least (amount least m e)
  have bottom := @le_nearest_lastPlace least (amount least m e)
  have target := targetExponent_eq m e
  have first : shiftToTargetExponent Format.binary64 m e .exact =
      (ExtendedMantissa.ofMantissaAndAccuracy m .exact >>>
        (Format.binary64.targetExponent (totalExponent m e) - e).toNat,
        Format.binary64.targetExponent (totalExponent m e)) := by
    rw [shiftToTargetExponent, shiftToExponent]
    exact congrArg (Prod.mk _) (by omega)
  unfold code roundWithAccuracy
  rw [first]
  dsimp only
  rw [roundedMantissa_shift]
  rw [rounded] at top bottom ⊢
  have units : lastPlace least (amount least m e) - least =
      (Format.binary64.targetExponent (totalExponent m e) + 1074).toNat := by omega
  rw [units]
  exact toNat_pack_settled top (by omega) (by omega)

theorem toNat_pack_normalize {m : Nat} {e : Int} (positive : 0 < m) (least : -1074 ≤ e) :
    (pack Format.binary64 (UnpackedFloat.normalize Format.binary64 m e .positive)).toNat =
      min (code 0 (amount 0 m e)) infinity := by
  have order : compare (m : Int) 0 = .gt := Int.compare_eq_gt.2 (by omega)
  have target := targetExponent_eq m e
  generalize zeros : (e - Format.binary64.targetExponent (totalExponent m e)).toNat = count at *
  have power := Nat.two_pow_pos count
  have longer := targetExponent_eq (m * 2 ^ count) (e - count)
  rw [log2_mul_two_pow positive] at longer
  have same : amount 0 (m * 2 ^ count) (e - count) = amount 0 m e := by
    unfold amount
    rw [Nat.mul_assoc, ← Nat.pow_add]
    congr 2
    omega
  unfold UnpackedFloat.normalize UnpackedFloat.round decreaseExponent
  rw [order]
  dsimp only
  rw [Int.toNat_natCast, zeros, Nat.shiftLeft_eq, ← same]
  exact toNat_pack_roundWithAccuracy (Nat.mul_pos positive power) (by omega) (by omega)

end DiffDigest.Binary64
