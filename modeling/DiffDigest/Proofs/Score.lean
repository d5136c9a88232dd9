import DiffDigest.Proofs.Binary64.Arithmetic
import DiffDigest.Score

/-!
# Scores and symbols

A hunk counts as much as the weightiest symbol that it touches, and no symbol
counts less than none at all.  The score grows with it: neither the size bonus nor
the multiplier nor rounding turns two hunks around.
-/

namespace DiffDigest.Score

open Binary64 (bits infinity bits_add_le bits_mul_le bits_min bits_ofNat_le bits_ofNat_bounded)
open Diff (Hunk)

/-! ## What the touched symbols count -/

theorem untouched_le_weight (kind : SymbolKind) : untouched ≤ kind.weight := by
  cases kind <;> decide

theorem weight_le (kind : SymbolKind) : kind.weight ≤ 100 := by
  cases kind <;> decide

theorem untouched_le_symbolWeight (symbol : Symbol) : untouched ≤ symbolWeight symbol :=
  Nat.le_trans (untouched_le_weight symbol.kind) (Nat.le_add_right _ _)

/-- The contribution is the least bound of the symbol weights, and of what counts without symbols. -/
theorem contribution_le_iff {touched : Outline} {bound : Nat} :
    contribution touched ≤ bound ↔
      untouched ≤ bound ∧ ∀ symbol ∈ touched, symbolWeight symbol ≤ bound := by
  unfold contribution
  cases shown : (touched.map symbolWeight).max? with
  | none =>
      have empty : touched = [] := List.map_eq_nil_iff.1 (List.max?_eq_none_iff.1 shown)
      subst empty
      simp
  | some heaviest =>
      obtain ⟨member, most⟩ := List.max?_eq_some_iff.1 shown
      obtain ⟨symbol, among, rfl⟩ := List.mem_map.1 member
      rw [Option.getD_some]
      constructor
      · intro bounded
        refine ⟨Nat.le_trans (untouched_le_symbolWeight symbol) bounded, ?_⟩
        intro other own
        exact Nat.le_trans (most _ (List.mem_map_of_mem own)) bounded
      · exact fun bounded => bounded.2 symbol among

theorem symbolWeight_le_contribution {touched : Outline} {symbol : Symbol}
    (member : symbol ∈ touched) : symbolWeight symbol ≤ contribution touched :=
  (contribution_le_iff.1 (Nat.le_refl _)).2 symbol member

/-- More symbols and heavier ones do not count less. -/
theorem contribution_mono {touched more : Outline}
    (heavier : ∀ symbol ∈ touched, ∃ other ∈ more, symbolWeight symbol ≤ symbolWeight other) :
    contribution touched ≤ contribution more := by
  rw [contribution_le_iff]
  refine ⟨(contribution_le_iff.1 (Nat.le_refl _)).1, ?_⟩
  intro symbol member
  obtain ⟨other, among, ordered⟩ := heavier symbol member
  exact Nat.le_trans ordered (symbolWeight_le_contribution among)

theorem contribution_le (touched : Outline) : contribution touched ≤ 150 := by
  rw [contribution_le_iff]
  refine ⟨by decide, ?_⟩
  intro symbol _
  have weight := weight_le symbol.kind
  unfold symbolWeight exportBonus
  split <;> omega

/-! ## What a hunk counts -/

theorem bits_sizeBonus_le (lines : Nat) : bits (sizeBonus lines) ≤ infinity := by
  have product := (bits_mul_le (c := 0.1) (Nat.le_refl _) (bits_ofNat_bounded lines)
    (by decide) (by decide)).2
  exact bits_min product (by decide)

theorem bits_multiplier (category : Category) :
    0 < bits category.multiplier ∧ bits category.multiplier < infinity := by
  cases category <;> decide

theorem orderKey_of_le {score : Float} (bounded : bits score ≤ infinity) :
    orderKey score = bits score := by
  have below : bits score < Word.half64 := Nat.lt_of_le_of_lt bounded (by decide)
  exact if_pos below

/-- The score of a hunk does not fall when its symbols count more. -/
theorem orderKey_value_le (hunk : Hunk) {touched more : Outline}
    (ordered : contribution touched ≤ contribution more) :
    orderKey (value hunk touched) ≤ orderKey (value hunk more) := by
  have small : contribution more < 2 ^ 53 :=
    Nat.lt_of_le_of_lt (contribution_le more) (by decide)
  have factor := bits_multiplier (Category.ofPath hunk.filePath)
  obtain ⟨symbols, bounded⟩ := bits_ofNat_le ordered small
  obtain ⟨sums, sumsBounded⟩ := bits_add_le symbols bounded (bits_sizeBonus_le hunk.changedLines)
  obtain ⟨products, productsBounded⟩ := bits_mul_le sums sumsBounded factor.1 factor.2
  unfold value
  rw [orderKey_of_le (Nat.le_trans products productsBounded), orderKey_of_le productsBounded]
  exact Int.ofNat_le.2 products

end DiffDigest.Score
