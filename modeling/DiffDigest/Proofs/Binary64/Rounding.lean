import Mathlib.Algebra.Group.Nat.Defs

/-!
# Rounding to binary64 numbers

A number that is not negative is rounded to 53 binary digits, and the bit pattern
of the result grows with the number.  Numbers are counted in a unit so small that
all of them are whole: the least positive number divided by a power of two.
-/

namespace DiffDigest.Binary64

/-! ## Nearest quotients -/

/-- The quotient by a power of two to the nearest number; between two it is the even one. -/
def nearest (m shift : Nat) : Nat :=
  let quotient := m / 2 ^ shift
  let twice := 2 * (m % 2 ^ shift)
  if twice < 2 ^ shift then quotient
  else if twice = 2 ^ shift then quotient + quotient % 2
  else quotient + 1

theorem nearest_zero (m : Nat) : nearest m 0 = m := by
  simp [nearest, Nat.mod_one]

theorem le_nearest (m shift : Nat) : m / 2 ^ shift ≤ nearest m shift := by
  unfold nearest
  dsimp only
  split
  · exact Nat.le_refl _
  · split <;> omega

theorem nearest_le (m shift : Nat) : nearest m shift ≤ m / 2 ^ shift + 1 := by
  unfold nearest
  dsimp only
  split
  · omega
  · split <;> omega

theorem nearest_mono {m n : Nat} (ordered : m ≤ n) (shift : Nat) :
    nearest m shift ≤ nearest n shift := by
  rcases Nat.lt_or_eq_of_le (Nat.div_le_div_right (c := 2 ^ shift) ordered) with less | same
  · calc
      nearest m shift ≤ m / 2 ^ shift + 1 := nearest_le m shift
      _ ≤ n / 2 ^ shift := less
      _ ≤ nearest n shift := le_nearest n shift
  · have rests : m % 2 ^ shift ≤ n % 2 ^ shift := by
      have first := Nat.div_add_mod m (2 ^ shift)
      have second := Nat.div_add_mod n (2 ^ shift)
      rw [same] at first
      omega
    unfold nearest
    rw [same]
    dsimp only
    repeat' split
    all_goals omega

/-- Zeros at the end that are cut off again do not matter. -/
theorem nearest_mul_two_pow (m shift zeros : Nat) :
    nearest (m * 2 ^ zeros) (shift + zeros) = nearest m shift := by
  have positive : 0 < 2 ^ zeros := Nat.two_pow_pos zeros
  have quotient : m * 2 ^ zeros / 2 ^ (shift + zeros) = m / 2 ^ shift := by
    rw [Nat.pow_add]
    exact Nat.mul_div_mul_right m (2 ^ shift) positive
  have rest : m * 2 ^ zeros % 2 ^ (shift + zeros) = m % 2 ^ shift * 2 ^ zeros := by
    rw [Nat.pow_add]
    exact Nat.mul_mod_mul_right (2 ^ zeros) m (2 ^ shift)
  have less : 2 * (m % 2 ^ shift * 2 ^ zeros) < 2 ^ (shift + zeros) ↔
      2 * (m % 2 ^ shift) < 2 ^ shift := by
    rw [Nat.pow_add, ← Nat.mul_assoc]
    exact Nat.mul_lt_mul_right positive
  have same : 2 * (m % 2 ^ shift * 2 ^ zeros) = 2 ^ (shift + zeros) ↔
      2 * (m % 2 ^ shift) = 2 ^ shift := by
    rw [Nat.pow_add, ← Nat.mul_assoc]
    exact Nat.mul_right_cancel_iff positive
  simp only [nearest, quotient, rest, less, same]

/-! ## Codes -/

/--
The place of the last digit that is kept of a number.  There are 53 digits, and
none has a lower place than that of the least positive number.
-/
def lastPlace (least number : Nat) : Nat :=
  max (number.log2 - 52) least

/--
The bit pattern that a number is rounded to, were there no infinity.  Each place
of the last digit has its own patterns, and the digits count on from the place below.
-/
def code (least number : Nat) : Nat :=
  (lastPlace least number - least) * 2 ^ 52 + nearest number (lastPlace least number)

theorem code_zero (least : Nat) : code least 0 = 0 := by
  have place : lastPlace least 0 = least := by
    rw [lastPlace, Nat.log2_zero]
    omega
  rw [code, place, nearest, Nat.zero_div, Nat.zero_mod, Nat.sub_self, Nat.zero_mul, Nat.zero_add]
  exact if_pos (Nat.two_pow_pos least)

theorem log2_mono {m n : Nat} (ordered : m ≤ n) : m.log2 ≤ n.log2 := by
  by_cases zero : m = 0
  · rw [zero, Nat.log2_zero]
    exact Nat.zero_le _
  · rw [Nat.le_log2 (by omega)]
    exact Nat.le_trans (Nat.log2_self_le zero) ordered

theorem nearest_lastPlace_le (least number : Nat) :
    nearest number (lastPlace least number) ≤ 2 ^ 53 := by
  have below : number < 2 ^ (53 + lastPlace least number) := by
    apply Nat.lt_of_lt_of_le Nat.lt_log2_self
    apply Nat.pow_le_pow_right (by decide)
    unfold lastPlace
    omega
  have quotient : number / 2 ^ lastPlace least number < 2 ^ 53 := by
    rw [Nat.div_lt_iff_lt_mul (Nat.two_pow_pos _), ← Nat.pow_add]
    exact below
  have rounded := nearest_le number (lastPlace least number)
  omega

/-- A number with enough digits has 53 of them left. -/
theorem le_nearest_lastPlace {least number : Nat} (large : least < lastPlace least number) :
    2 ^ 52 ≤ nearest number (lastPlace least number) := by
  have digits : number.log2 = 52 + lastPlace least number := by
    unfold lastPlace at large ⊢
    omega
  have positive : number ≠ 0 := by
    rintro rfl
    rw [Nat.log2_zero] at digits
    omega
  apply Nat.le_trans _ (le_nearest _ _)
  rw [Nat.le_div_iff_mul_le (Nat.two_pow_pos _), ← Nat.pow_add, ← digits]
  exact Nat.log2_self_le positive

/-- Rounding keeps the order. -/
theorem code_mono (least : Nat) {m n : Nat} (ordered : m ≤ n) : code least m ≤ code least n := by
  have places : lastPlace least m ≤ lastPlace least n := by
    have digits := log2_mono ordered
    unfold lastPlace
    omega
  rcases Nat.lt_or_eq_of_le places with less | same
  · -- The greater number has all 53 digits, and this outweighs a round up of the other one.
    have above : least ≤ lastPlace least m := Nat.le_max_right _ _
    have top := nearest_lastPlace_le least m
    have bottom := le_nearest_lastPlace (Nat.lt_of_le_of_lt above less)
    unfold code
    omega
  · unfold code
    rw [same]
    exact Nat.add_le_add_left (nearest_mono ordered _) _

end DiffDigest.Binary64
