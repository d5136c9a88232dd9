import DiffDigest.Json.Reader
import DiffDigest.Json.Writer
import DiffDigest.Proofs.Text.Decimal
import Mathlib.Data.List.TakeWhile

/-!
# Reading written integers

An integer of 64 bits, with or without a sign, is read as itself.
-/

namespace DiffDigest.Json

/-! ## Digits -/

/-- Numbers but zero are written without a zero in front. -/
theorem head?_toDigits_ne_zero {n : Nat} (positive : 0 < n) :
    (Nat.toDigits 10 n).head? ≠ some '0' := by
  induction n using Nat.strongRecOn with
  | _ n ih =>
      by_cases small : n < 10
      · rw [Nat.toDigits_of_lt_base small]
        have digits : ∀ d < 10, 0 < d → [Nat.digitChar d].head? ≠ some '0' := by
          decide
        exact digits n small positive
      · have shorter := ih (n / 10) (by omega) (by omega)
        have filled := List.isSome_head?.2 (Nat.toDigits_ne_nil (n := n / 10) (b := 10))
        rw [Nat.toDigits_of_base_le (by decide) (by omega), List.head?_append,
          Option.or_of_isSome filled]
        exact shorter

theorem le_ofDigitChars (digits : List Char) (start : Nat) :
    start ≤ Nat.ofDigitChars 10 digits start := by
  induction digits generalizing start with
  | nil => exact Nat.le_of_eq (by simp)
  | cons c rest ih =>
      rw [Nat.ofDigitChars_cons]
      have := ih (10 * start + (c.toNat - '0'.toNat))
      omega

/-- All digits of a number below the bound are taken. -/
theorem accumulate_digits (digits : List Char) (total taken : Nat)
    (word : Nat.ofDigitChars 10 digits total < Word.size64) :
    accumulate total taken (digits.map fun c => c.toNat - '0'.toNat) =
      (Nat.ofDigitChars 10 digits total, taken + digits.length) := by
  induction digits generalizing total taken with
  | nil => simp [accumulate]
  | cons c rest ih =>
      rw [Nat.ofDigitChars_cons] at word ⊢
      have bound := le_ofDigitChars rest (10 * total + (c.toNat - '0'.toNat))
      rw [List.map_cons, accumulate, if_pos (by omega), Nat.mul_comm total 10,
        ih _ _ word, List.length_cons, Nat.add_assoc, Nat.add_comm 1]

theorem leadingDigits_toDigits (n : Nat) :
    leadingDigits (Nat.toDigits 10 n) =
      ((Nat.toDigits 10 n).map fun c => c.toNat - '0'.toNat, []) := by
  have all : ∀ c ∈ Nat.toDigits 10 n, c.isDigit = true :=
    fun c member => Text.isDigit_of_mem_toDigits member
  unfold leadingDigits
  rw [List.takeWhile_eq_self_iff.2 all, List.dropWhile_eq_nil_iff.2 all]

/-- Where a first digit is worth nothing, it is the only one. -/
theorem toDigits_ne_zero_cons (n : Nat) {second : Nat} {rest : List Nat} :
    (Nat.toDigits 10 n).map (fun c => c.toNat - '0'.toNat) ≠ 0 :: second :: rest := by
  intro same
  cases n with
  | zero => cases same
  | succ n =>
      have first := head?_toDigits_ne_zero (Nat.succ_pos n)
      have digits : ∀ c ∈ Nat.toDigits 10 (n + 1), c.isDigit = true :=
        fun c member => Text.isDigit_of_mem_toDigits member
      generalize Nat.toDigits 10 (n + 1) = text at same first digits
      obtain ⟨c, rest, rfl, worth, -⟩ := List.map_eq_cons_iff.1 same
      have range := Char.isDigit_iff_toNat.1 (digits c List.mem_cons_self)
      refine first (congrArg some (Char.toNat_inj.1 ?_))
      exact Nat.le_antisymm (Nat.sub_eq_zero_iff_le.1 worth) range.1

/-- The digits of a number are read as this number; only some numbers have a negative. -/
theorem unsigned?_toDigits (negative : Bool) {n : Nat} (word : n < Word.size64)
    (signed : negative = true → 0 < n ∧ n ≤ Word.half64) :
    unsigned? negative (Nat.toDigits 10 n) =
      some (.integer (if negative then -(n : Int) else n)) := by
  have taken := accumulate_digits (Nat.toDigits 10 n) 0 0
  rw [Nat.ofDigitChars_ten_toDigits, Nat.zero_add] at taken
  unfold unsigned?
  dsimp only
  rw [leadingDigits_toDigits]
  split
  · rename_i none
    exact absurd (List.map_eq_nil_iff.1 (congrArg Prod.fst none)) Nat.toDigits_ne_nil
  · rename_i zero
    exact absurd (congrArg Prod.fst zero) (toDigits_ne_zero_cons n)
  · rename_i split
    cases split
    rw [taken word, List.length_map, Nat.sub_self, if_pos (by rfl)]
    cases negative with
    | false => rfl
    | true =>
        obtain ⟨positive, bound⟩ := signed rfl
        have inside : ¬ (decide (n = 0) || decide (Word.half64 < n)) = true := by
          simp only [Bool.or_eq_true, decide_eq_true_eq]
          omega
        rw [if_pos rfl, if_neg inside]
        rfl

/-- What an integer is written with. -/
theorem toList_toString (value : Int) :
    (toString value).toList =
      (if value < 0 then ['-'] else []) ++ Nat.toDigits 10 value.natAbs := by
  cases value with
  | ofNat n =>
      have sign : ¬ Int.ofNat n < 0 := Int.not_lt.2 (Int.natCast_nonneg n)
      rw [Int.toString_eq_repr, if_neg sign]
      exact Nat.toList_repr
  | negSucc n =>
      rw [Int.toString_eq_repr, if_pos (Int.negSucc_lt_zero n)]
      change ("-" ++ (n + 1).repr).toList = _
      rw [String.toList_append, Nat.toList_repr]
      rfl

/-- The characters of a written integer. -/
theorem solid_toString {value : Int} :
    ∀ c ∈ (toString value).toList, c = '-' ∨ c.isDigit = true := by
  intro c member
  rw [toList_toString] at member
  rcases List.mem_append.1 member with sign | digit
  · split at sign
    · exact .inl (List.mem_singleton.1 sign)
    · cases sign
  · exact .inr (Text.isDigit_of_mem_toDigits digit)

theorem number?_toString {value : Int} (low : -(Word.half64 : Int) ≤ value)
    (high : value < Word.size64) : number? (toString value).toList = some (.integer value) := by
  have word : value.natAbs < Word.size64 := by
    unfold Word.half64 at low
    unfold Word.size64 at high ⊢
    omega
  rw [toList_toString]
  by_cases negative : value < 0
  · have read := unsigned?_toDigits true word (fun _ => by omega)
    rw [if_pos negative, List.singleton_append]
    change unsigned? true (Nat.toDigits 10 value.natAbs) = _
    rw [read, if_pos rfl]
    congr 2
    omega
  · have read := unsigned?_toDigits false word nofun
    rw [if_neg negative, List.nil_append]
    unfold number?
    split
    · -- A digit is no minus sign.
      rename_i text
      have digit : '-' ∈ Nat.toDigits 10 value.natAbs := by
        rw [text]
        exact List.mem_cons_self
      cases Text.isDigit_of_mem_toDigits digit
    · rw [read, if_neg (by decide)]
      congr 2
      omega

/-- A word that has a letter is no written integer. -/
theorem toString_ne_of_letter {value : Int} {c : Char} {rest : List Char} (sign : c ≠ '-')
    (letter : c.isDigit = false) : (toString value).toList ≠ c :: rest := by
  intro same
  rcases solid_toString c (same ▸ List.mem_cons_self) with minus | digit
  · exact sign minus
  · rw [letter] at digit
    cases digit

/-- A written integer of 64 bits is read. -/
theorem word?_toString {value : Int} (low : -(Word.half64 : Int) ≤ value)
    (high : value < Word.size64) : word? (toString value).toList = some (.integer value) := by
  unfold word?
  rw [if_neg (toString_ne_of_letter (by decide) (by decide)),
    if_neg (toString_ne_of_letter (by decide) (by decide)),
    if_neg (toString_ne_of_letter (by decide) (by decide)), number?_toString low high]

end DiffDigest.Json
