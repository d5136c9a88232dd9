import DiffDigest.Proofs.Binary64.Packing
import Mathlib.Order.MinMax

/-!
# Sums and products of binary64 numbers

The sum of two numbers that are not negative is the number nearest to their exact
sum, and so is the product with a positive one.  Both keep the order: the result
with the greater number is not less than that with the other.
-/

namespace DiffDigest.Binary64

open Float.Model (Format UnpackedFloat totalExponent)
open Float.Model.UnpackedFloat

/-! ## Sizes -/

/-- The number that a bit pattern stands for, as a multiple of the least positive one. -/
def size (bits : Nat) : Nat :=
  (bits - (bits / 2 ^ 52 - 1) * 2 ^ 52) * 2 ^ (bits / 2 ^ 52 - 1)

theorem size_ordinal {m : Nat} {e : Int} (stored : IsStored m e) :
    size (ordinal m e) = amount 0 m e := by
  have digits := stored.digits
  have least := stored.least
  have full := stored.full
  have units : ordinal m e / 2 ^ 52 - 1 = (e + 1074).toNat := by
    unfold ordinal
    omega
  rw [size, units, ordinal, Nat.add_sub_cancel_left, amount, Int.natCast_zero, Int.add_zero]

theorem size_mono {first second : Nat} (ordered : first ≤ second) : size first ≤ size second := by
  have powers : first / 2 ^ 52 - 1 ≤ second / 2 ^ 52 - 1 :=
    Nat.sub_le_sub_right (Nat.div_le_div_right ordered) 1
  unfold size
  rcases Nat.lt_or_eq_of_le powers with less | same
  · have top : first - (first / 2 ^ 52 - 1) * 2 ^ 52 ≤ 2 ^ 53 := by omega
    have bottom : 2 ^ 52 ≤ second - (second / 2 ^ 52 - 1) * 2 ^ 52 := by omega
    calc
      (first - (first / 2 ^ 52 - 1) * 2 ^ 52) * 2 ^ (first / 2 ^ 52 - 1)
        ≤ 2 ^ 53 * 2 ^ (first / 2 ^ 52 - 1) := Nat.mul_le_mul_right _ top
      _ = 2 ^ 52 * 2 ^ (first / 2 ^ 52 - 1 + 1) := by
        rw [← Nat.pow_add, ← Nat.pow_add]
        congr 1
        omega
      _ ≤ 2 ^ 52 * 2 ^ (second / 2 ^ 52 - 1) :=
        Nat.mul_le_mul_left _ (Nat.pow_le_pow_right (by decide) less)
      _ ≤ (second - (second / 2 ^ 52 - 1) * 2 ^ 52) * 2 ^ (second / 2 ^ 52 - 1) :=
        Nat.mul_le_mul_right _ bottom
  · rw [same]
    exact Nat.mul_le_mul_right _ (Nat.sub_le_sub_right ordered _)

/-- A number is its own rounding. -/
theorem code_size (bits : Nat) : code 0 (size bits) = bits := by
  have digits : bits - (bits / 2 ^ 52 - 1) * 2 ^ 52 < 2 ^ 53 := by omega
  have full : 2 ^ 52 ≤ bits - (bits / 2 ^ 52 - 1) * 2 ^ 52 ∨ bits / 2 ^ 52 - 1 = 0 := by omega
  have whole : (bits / 2 ^ 52 - 1) * 2 ^ 52 + (bits - (bits / 2 ^ 52 - 1) * 2 ^ 52) = bits := by
    omega
  unfold size
  generalize bits / 2 ^ 52 - 1 = power at *
  generalize bits - power * 2 ^ 52 = m at *
  have place : lastPlace 0 (m * 2 ^ power) = power := by
    by_cases zero : m = 0
    · subst zero
      obtain rfl : power = 0 := by omega
      rfl
    · have top : m.log2 < 53 := (Nat.log2_lt zero).2 digits
      have bottom : 52 ≤ m.log2 ↔ 2 ^ 52 ≤ m := Nat.le_log2 zero
      rw [lastPlace, log2_mul_two_pow (Nat.pos_of_ne_zero zero)]
      omega
  have kept := nearest_mul_two_pow m 0 power
  rw [Nat.zero_add, nearest_zero] at kept
  rw [code, place, kept]
  exact whole

/-- From infinity on all numbers are too large. -/
theorem infinity_le_code {bits number : Nat} (large : infinity ≤ bits) (more : size bits ≤ number) :
    infinity ≤ code 0 number := by
  have kept := code_mono 0 more
  rw [code_size] at kept
  exact Nat.le_trans large kept

/-! ## Sums -/

theorem amount_align {m : Nat} {e least : Int} (aligned : least ≤ e) (bounded : -1074 ≤ least) :
    amount 0 (decreaseExponent m e least).1 least = amount 0 m e := by
  unfold amount decreaseExponent
  dsimp only
  rw [Nat.shiftLeft_eq, Nat.mul_assoc, ← Nat.pow_add]
  congr 2
  omega

theorem amount_add (first second : Nat) (e : Int) :
    amount 0 (first + second) e = amount 0 first e + amount 0 second e :=
  Nat.add_mul _ _ _

variable {first second : UnpackedFloat} {x y : Nat}

/-- A sum is the rounded sum of the numbers. -/
theorem HasBits.toNat_add (left : HasBits first x) (right : HasBits second y) :
    (pack Format.binary64 (UnpackedFloat.add Format.binary64 first second)).toNat =
      min (code 0 (size x + size y)) infinity := by
  have alone {number : UnpackedFloat} {bits : Nat} (has : HasBits number bits)
      (bounded : bits ≤ infinity) :
      (pack Format.binary64 number).toNat = min (code 0 (size bits)) infinity := by
    rw [code_size, has.toNat_pack]
    exact (Nat.min_eq_left bounded).symm
  have unbounded {number : Nat} (more : size infinity ≤ number) :
      (pack Format.binary64 (.infinity .positive)).toNat = min (code 0 number) infinity := by
    rw [HasBits.infinite.toNat_pack]
    exact (Nat.min_eq_right (infinity_le_code (Nat.le_refl _) more)).symm
  have zero : size 0 = 0 := rfl
  -- Only two finite numbers are brought to one exponent and rounded.
  cases left with
  | zero =>
      rw [zero, Nat.zero_add]
      cases right with
      | zero => exact alone .zero (Nat.zero_le _)
      | finite stored below => exact alone (.finite stored below) (Nat.le_of_lt below)
      | infinite => exact unbounded (Nat.le_refl _)
  | finite stored below =>
      cases right with
      | zero =>
          rw [zero, Nat.add_zero]
          exact alone (.finite stored below) (Nat.le_of_lt below)
      | finite other under =>
          rename_i m e m' e'
          have least := stored.least
          have bottom := other.least
          have positive : 0 < (decreaseExponent m e (min e e')).1 +
              (decreaseExponent m' e' (min e e')).1 := by
            apply Nat.add_pos_left
            unfold decreaseExponent
            dsimp only
            rw [Nat.shiftLeft_eq]
            exact Nat.mul_pos stored.positive (Nat.two_pow_pos _)
          have sum := toNat_pack_normalize positive (by omega : -1074 ≤ min e e')
          rw [amount_add, amount_align (by omega) (by omega), amount_align (by omega) (by omega),
            ← size_ordinal stored, ← size_ordinal other, Int.natCast_add] at sum
          exact sum
      | infinite => exact unbounded (Nat.le_add_left _ _)
  | infinite =>
      have top := unbounded (Nat.le_add_right (size infinity) (size y))
      cases right with
      | zero => exact top
      | finite => exact top
      | infinite => exact top

/-! ## Products -/

theorem amount_mul {m n : Nat} {e f : Int} (least : -1074 ≤ e) (bottom : -1074 ≤ f) :
    amount 1074 (m * n) (e + f) = amount 0 m e * amount 0 n f := by
  have places : (e + f + 1074 + (1074 : Nat)).toNat =
      (e + 1074 + (0 : Nat)).toNat + (f + 1074 + (0 : Nat)).toNat := by omega
  unfold amount
  rw [places, Nat.pow_add]
  exact Nat.mul_mul_mul_comm _ _ _ _

theorem fits_mul {m n : Nat} {e f : Int} (left : IsStored m e) (right : IsStored n f) :
    e + f ≤ Format.binary64.targetExponent (totalExponent (m * n) (e + f)) := by
  have positive := Nat.mul_pos left.positive right.positive
  have large (enough : 2 ^ 52 ≤ m * n) : 52 ≤ (m * n).log2 := (Nat.le_log2 (by omega)).2 enough
  rw [targetExponent_eq]
  rcases left.full with full | least
  · have digits := large (Nat.le_trans full (Nat.le_mul_of_pos_right m right.positive))
    omega
  · rcases right.full with full | bottom
    · have digits := large (Nat.le_trans full (Nat.le_mul_of_pos_left n left.positive))
      omega
    · omega

/-- So is a product of finite numbers. -/
theorem HasBits.toNat_mul (left : HasBits first x) (right : HasBits second y)
    (below : x < infinity) (positive : 0 < y) (under : y < infinity) :
    (pack Format.binary64 (UnpackedFloat.mul Format.binary64 first second)).toNat =
      min (code 1074 (size x * size y)) infinity := by
  cases right with
  | zero => exact absurd positive (Nat.lt_irrefl 0)
  | infinite => exact absurd under (Nat.lt_irrefl _)
  | finite other =>
      cases left with
      | zero =>
          have zero : size 0 = 0 := rfl
          rw [zero, Nat.zero_mul, code_zero]
          rfl
      | infinite => exact absurd below (Nat.lt_irrefl _)
      | finite stored =>
          rename_i n f _ m e _
          have least := stored.least
          have bottom := other.least
          have whole : 0 ≤ e + f + 1074 + (1074 : Nat) := by omega
          have product := toNat_pack_roundWithAccuracy
            (Nat.mul_pos stored.positive other.positive) whole (fits_mul stored other)
          rw [amount_mul stored.least other.least, ← size_ordinal stored,
            ← size_ordinal other] at product
          exact product

theorem HasBits.toNat_mul_infinite (left : HasBits first infinity) (right : HasBits second y)
    (positive : 0 < y) :
    (pack Format.binary64 (UnpackedFloat.mul Format.binary64 first second)).toNat = infinity := by
  generalize top : infinity = x at left
  cases left with
  | zero => cases top
  | finite stored below => exact absurd top (Nat.ne_of_gt below)
  | infinite =>
      cases right with
      | zero => exact absurd positive (Nat.lt_irrefl 0)
      | finite => exact HasBits.infinite.toNat_pack
      | infinite => exact HasBits.infinite.toNat_pack

/-! ## Floats -/

def bits (float : Float) : Nat :=
  float.toBits.toNat

theorem hasBits_of_le {float : Float} (bounded : bits float ≤ infinity) :
    HasBits float.toModel.unpack (bits float) :=
  hasBits_unpack bounded

theorem bits_add {a b : Float} (left : bits a ≤ infinity) (right : bits b ≤ infinity) :
    bits (a + b) = min (code 0 (size (bits a) + size (bits b))) infinity :=
  (hasBits_of_le left).toNat_add (hasBits_of_le right)

/-- The sum with a greater float is not less. -/
theorem bits_add_le {a b c : Float} (ordered : bits a ≤ bits b) (bounded : bits b ≤ infinity)
    (other : bits c ≤ infinity) : bits (a + c) ≤ bits (b + c) ∧ bits (b + c) ≤ infinity := by
  have sizes := Nat.add_le_add_right (size_mono ordered) (size (bits c))
  rw [bits_add (Nat.le_trans ordered bounded) other, bits_add bounded other]
  exact ⟨min_le_min_right infinity (code_mono 0 sizes), Nat.min_le_right _ _⟩

theorem bits_mul {a b : Float} (left : bits a < infinity) (positive : 0 < bits b)
    (right : bits b < infinity) :
    bits (a * b) = min (code 1074 (size (bits a) * size (bits b))) infinity :=
  (hasBits_of_le (Nat.le_of_lt left)).toNat_mul (hasBits_of_le (Nat.le_of_lt right)) left positive
    right

/-- Nor is the product. -/
theorem bits_mul_le {a b c : Float} (ordered : bits a ≤ bits b) (bounded : bits b ≤ infinity)
    (positive : 0 < bits c) (finite : bits c < infinity) :
    bits (a * c) ≤ bits (b * c) ∧ bits (b * c) ≤ infinity := by
  have factor := hasBits_of_le (Nat.le_of_lt finite)
  have infinite {float : Float} (top : bits float = infinity) : bits (float * c) = infinity :=
    HasBits.toNat_mul_infinite (top ▸ hasBits_of_le (Nat.le_of_eq top)) factor positive
  rcases Nat.lt_or_eq_of_le bounded with below | top
  · have sizes := Nat.mul_le_mul_right (size (bits c)) (size_mono ordered)
    rw [bits_mul (Nat.lt_of_le_of_lt ordered below) positive finite, bits_mul below positive finite]
    exact ⟨min_le_min_right infinity (code_mono 1074 sizes), Nat.min_le_right _ _⟩
  · rw [infinite top]
    refine ⟨?_, Nat.le_refl _⟩
    rcases Nat.lt_or_eq_of_le (Nat.le_trans ordered bounded) with below | same
    · rw [bits_mul below positive finite]
      exact Nat.min_le_right _ _
    · exact Nat.le_of_eq (infinite same)

theorem bits_min {a b : Float} (left : bits a ≤ infinity) (right : bits b ≤ infinity) :
    bits (min a b) ≤ infinity := by
  change bits (if a ≤ b then a else b) ≤ infinity
  split
  · exact left
  · exact right

/-! ## Whole numbers -/

theorem toNat_pack_natural (n : Nat) :
    (pack Format.binary64 (UnpackedFloat.normalize Format.binary64 n 0 .positive)).toNat =
      min (code 0 (amount 0 n 0)) infinity := by
  rcases Nat.eq_zero_or_pos n with rfl | positive
  · rw [amount, Nat.zero_mul, code_zero]
    rfl
  · exact toNat_pack_normalize positive (by decide)

theorem ofNat_of_lt {n : Nat} (small : n < 2 ^ 53) :
    Float.ofNat n = n.toUInt64.toFloat * Float.ofBits 0x3FF0000000000000 :=
  dif_pos ⟨small, by decide⟩

theorem ofNat_of_le {n : Nat} (large : 2 ^ 53 ≤ n) :
    Float.ofNat n = Float.ofModel (Float.Model.ofScientific n 0) :=
  dif_neg fun fits => Nat.not_le_of_lt fits.1 large

theorem bits_toFloat {n : Nat} (small : n < 2 ^ 53) :
    bits n.toUInt64.toFloat = min (code 0 (amount 0 n 0)) infinity := by
  have same : n.toUInt64.toNat = n := Nat.mod_eq_of_lt (by omega)
  have made : bits n.toUInt64.toFloat = (pack Format.binary64
    (UnpackedFloat.normalize Format.binary64 (n.toUInt64.toNat : Int) 0 .positive)).toNat := rfl
  rw [made, same, toNat_pack_natural]

/-- Small natural numbers keep their order as floats. -/
theorem bits_ofNat_le {m n : Nat} (ordered : m ≤ n) (small : n < 2 ^ 53) :
    bits (Float.ofNat m) ≤ bits (Float.ofNat n) ∧ bits (Float.ofNat n) ≤ infinity := by
  have less : m < 2 ^ 53 := Nat.lt_of_le_of_lt ordered small
  rw [ofNat_of_lt small, ofNat_of_lt less]
  apply bits_mul_le
  · rw [bits_toFloat small, bits_toFloat less]
    exact min_le_min_right infinity (code_mono 0 (Nat.mul_le_mul_right _ ordered))
  · rw [bits_toFloat small]
    exact Nat.min_le_right _ _
  · decide
  · decide

theorem bits_ofNat_bounded (n : Nat) : bits (Float.ofNat n) ≤ infinity := by
  rcases Nat.lt_or_ge n (2 ^ 53) with small | large
  · exact (bits_ofNat_le (Nat.le_refl n) small).2
  · have positive : 0 < n := by omega
    have longer : 0 < n * 2 ^ 53 := by omega
    rw [ofNat_of_le large]
    change (pack Format.binary64 (ofScientific Format.binary64 n 0)).toNat ≤ infinity
    have made : ofScientific Format.binary64 n 0 =
        roundWithAccuracy Format.binary64 .positive (n * 2 ^ 53) (-53) .exact := by
      have near : ¬ (0 : Int) < -(2 ^ 11 + n.log2) := by omega
      unfold ofScientific
      rw [dif_neg (by omega), if_neg (by decide), if_neg near, if_pos (by decide)]
      change roundWithAccuracy Format.binary64 .positive (n <<< 53 * 1) (-53 + 0) .exact = _
      rw [Nat.shiftLeft_eq, Nat.mul_one, Int.add_zero]
    have target := targetExponent_eq (n * 2 ^ 53) (-53)
    rw [log2_mul_two_pow positive] at target
    have whole : 0 ≤ (-53 : Int) + 1074 + (0 : Nat) := by omega
    rw [made, toNat_pack_roundWithAccuracy longer whole (by omega)]
    exact Nat.min_le_right _ _

end DiffDigest.Binary64
