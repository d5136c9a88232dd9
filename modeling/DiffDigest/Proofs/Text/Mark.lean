import Mathlib.Data.List.TakeWhile

/-!
# Up to a mark

A list is cut at the first place where a mark stands.
-/

namespace DiffDigest.Text

variable {α : Type} [DecidableEq α] {mark : α} {front : List α}

theorem ne_mark_of_not_mem (absent : mark ∉ front) : ∀ x ∈ front, decide (x ≠ mark) = true := by
  intro x member
  rw [decide_eq_true_eq]
  rintro rfl
  exact absent member

theorem takeWhile_append_mark (absent : mark ∉ front) (rest : List α) :
    (front ++ mark :: rest).takeWhile (· ≠ mark) = front := by
  rw [List.takeWhile_append_of_pos (ne_mark_of_not_mem absent),
    List.takeWhile_cons_of_neg (by simp), List.append_nil]

theorem dropWhile_append_mark (absent : mark ∉ front) (rest : List α) :
    (front ++ mark :: rest).dropWhile (· ≠ mark) = mark :: rest := by
  rw [List.dropWhile_append_of_pos (ne_mark_of_not_mem absent),
    List.dropWhile_cons_of_neg (by simp)]

theorem takeWhile_of_not_mem (absent : mark ∉ front) : front.takeWhile (· ≠ mark) = front :=
  List.takeWhile_eq_self_iff.2 (ne_mark_of_not_mem absent)

theorem dropWhile_of_not_mem (absent : mark ∉ front) : front.dropWhile (· ≠ mark) = [] :=
  List.dropWhile_eq_nil_iff.2 (ne_mark_of_not_mem absent)

end DiffDigest.Text
