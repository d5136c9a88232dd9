import DiffDigest.Text.Digit

/-!
# Reading what was written in decimal

The decimal digits of a number are read as this number.  What else is read as a
number may have zeros in front, and a plus sign in front of them.
-/

namespace DiffDigest.Text

theorem digitValue?_of_isDigit {c : Char} (digit : c.isDigit = true) :
    digitValue? c = some (c.toNat - '0'.toNat) := by
  have range : '0' ≤ c ∧ c ≤ '9' := by
    simpa [Char.isDigit, Char.le_def] using digit
  unfold digitValue?
  rw [if_pos (by simp [range.1, range.2])]

/-- Digits in front of others count for their value times a power of ten. -/
theorem foldlM_digits {digits : List Char} (all : ∀ c ∈ digits, c.isDigit = true) (start : Nat) :
    digits.foldlM (fun total c => (digitValue? c).map (total * 10 + ·)) start =
      some (Nat.ofDigitChars 10 digits start) := by
  induction digits generalizing start with
  | nil => simp
  | cons c rest ih =>
      rw [List.foldlM_cons, digitValue?_of_isDigit (all c List.mem_cons_self), Option.map_some,
        Nat.ofDigitChars_cons, Nat.mul_comm 10 start]
      exact ih (fun d member => all d (List.mem_cons_of_mem _ member)) _

theorem isDigit_of_mem_toDigits {n : Nat} {c : Char} (member : c ∈ Nat.toDigits 10 n) :
    c.isDigit = true :=
  Nat.isDigit_of_mem_toDigits (by decide) (by decide) member

/-- A number that is written is read again. -/
theorem decimal?_toDigits (n : Nat) : decimal? (Nat.toDigits 10 n) = some n := by
  unfold decimal?
  rw [if_neg (by simp [Nat.toDigits_ne_nil]),
    foldlM_digits (fun c member => isDigit_of_mem_toDigits member), Nat.ofDigitChars_ten_toDigits]

/-! ## All that is read -/

theorem isDigit_of_digitValue? {c : Char} {value : Nat} (found : digitValue? c = some value) :
    c.isDigit = true := by
  unfold digitValue? at found
  split at found
  · rename_i range
    simpa [Char.isDigit, Char.le_def] using range
  · cases found

theorem isDigit_of_foldlM {digits : List Char} {start n : Nat}
    (found : digits.foldlM (fun total c => (digitValue? c).map (total * 10 + ·)) start = some n) :
    ∀ c ∈ digits, c.isDigit = true := by
  induction digits generalizing start with
  | nil => nofun
  | cons first rest ih =>
      rw [List.foldlM_cons] at found
      obtain ⟨total, step, others⟩ := Option.bind_eq_some_iff.1 found
      obtain ⟨value, digit, -⟩ := Option.map_eq_some_iff.1 step
      intro c member
      rcases List.mem_cons.1 member with rfl | later
      · exact isDigit_of_digitValue? digit
      · exact ih others c later

/-- A text writes a number: digits, at least one, and perhaps a plus sign in front. -/
inductive Writes : List Char → Nat → Prop
  | bare {digits : List Char} (any : digits ≠ []) (all : ∀ c ∈ digits, c.isDigit = true) :
      Writes digits (Nat.ofDigitChars 10 digits 0)
  | signed {digits : List Char} (any : digits ≠ []) (all : ∀ c ∈ digits, c.isDigit = true) :
      Writes ('+' :: digits) (Nat.ofDigitChars 10 digits 0)

theorem writes_toDigits (n : Nat) : Writes (Nat.toDigits 10 n) n := by
  have written : Writes (Nat.toDigits 10 n) (Nat.ofDigitChars 10 (Nat.toDigits 10 n) 0) :=
    .bare Nat.toDigits_ne_nil (fun _ member => isDigit_of_mem_toDigits member)
  rwa [Nat.ofDigitChars_ten_toDigits] at written

theorem decimal?_eq_some_iff {digits : List Char} {n : Nat} :
    decimal? digits = some n ↔
      digits ≠ [] ∧ (∀ c ∈ digits, c.isDigit = true) ∧ n = Nat.ofDigitChars 10 digits 0 := by
  unfold decimal?
  constructor
  · intro found
    split at found
    · cases found
    · rename_i any
      have all := isDigit_of_foldlM found
      rw [foldlM_digits all, Option.some.injEq] at found
      exact ⟨fun empty => any (List.isEmpty_iff.2 empty), all, found.symm⟩
  · rintro ⟨any, all, rfl⟩
    rw [if_neg (fun empty => any (List.isEmpty_iff.1 empty)), foldlM_digits all]

/-- Below a bound, just what writes a number is read as it. -/
theorem boundedDecimal?_eq_some_iff {bound n : Nat} {text : List Char} :
    boundedDecimal? bound text = some n ↔ Writes text n ∧ n < bound := by
  unfold boundedDecimal?
  dsimp only
  rw [Option.filter_eq_some_iff, decide_eq_true_eq, and_congr_left_iff]
  intro _
  constructor
  · intro found
    split at found
    · obtain ⟨any, all, rfl⟩ := decimal?_eq_some_iff.1 found
      exact .signed any all
    · obtain ⟨any, all, rfl⟩ := decimal?_eq_some_iff.1 found
      exact .bare any all
  · intro written
    cases written with
    | bare any all =>
        -- A digit is no plus sign.
        split
        · cases all '+' List.mem_cons_self
        · exact decimal?_eq_some_iff.2 ⟨any, all, rfl⟩
    | signed any all => exact decimal?_eq_some_iff.2 ⟨any, all, rfl⟩

theorem Writes.unique {text : List Char} {first second : Nat} (left : Writes text first)
    (right : Writes text second) : first = second := by
  have small : first < max first second + 1 := by omega
  have large : second < max first second + 1 := by omega
  have same := (boundedDecimal?_eq_some_iff.2 ⟨left, small⟩).symm.trans
    (boundedDecimal?_eq_some_iff.2 ⟨right, large⟩)
  exact Option.some.inj same

end DiffDigest.Text
