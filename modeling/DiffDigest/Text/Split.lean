/-!
# Pieces of a list

Splitting at a separator gives one piece more than there are separators; the
pieces of a longer list are those of its parts.
-/

namespace DiffDigest.Text

variable {α : Type} [BEq α]

def splitOn (separator : α) (text : List α) : List (List α) :=
  text.foldr
    (fun x pieces => if x == separator then [] :: pieces else pieces.modifyHead (x :: ·)) [[]]

@[simp] theorem splitOn_nil (separator : α) : splitOn separator ([] : List α) = [[]] :=
  rfl

theorem splitOn_cons (separator x : α) (text : List α) :
    splitOn separator (x :: text) =
      if x == separator then [] :: splitOn separator text
      else (splitOn separator text).modifyHead (x :: ·) :=
  rfl

theorem splitOn_ne_nil (separator : α) (text : List α) : splitOn separator text ≠ [] := by
  induction text with
  | nil => simp
  | cons x rest ih =>
      rw [splitOn_cons]
      split
      · simp
      · cases h : splitOn separator rest with
        | nil => exact absurd h ih
        | cons piece pieces => simp

/-- A separator ends the pieces in front of it. -/
theorem splitOn_append [LawfulBEq α] (separator : α) (front rest : List α) :
    splitOn separator (front ++ separator :: rest) =
      splitOn separator front ++ splitOn separator rest := by
  induction front with
  | nil => simp [splitOn_cons]
  | cons x front ih =>
      rw [List.cons_append, splitOn_cons, splitOn_cons, ih]
      split
      · rfl
      · cases shape : splitOn separator front with
        | nil => exact absurd shape (splitOn_ne_nil separator front)
        | cons piece pieces => rfl

/-- A text without separators is one piece. -/
theorem splitOn_of_not_mem [LawfulBEq α] {separator : α} {text : List α}
    (absent : separator ∉ text) : splitOn separator text = [text] := by
  induction text with
  | nil => rfl
  | cons x rest ih =>
      obtain ⟨other, absent⟩ := not_or.1 (mt List.mem_cons.2 absent)
      have kept : ¬ (x == separator) = true := by
        intro same
        exact other (eq_of_beq same).symm
      rw [splitOn_cons, if_neg kept, ih absent]
      rfl

/-- No separator stands in a piece. -/
theorem not_mem_of_mem_splitOn [LawfulBEq α] {separator : α} {text piece : List α}
    (member : piece ∈ splitOn separator text) : separator ∉ piece := by
  induction text generalizing piece with
  | nil =>
      cases List.mem_singleton.1 member
      exact List.not_mem_nil
  | cons x rest ih =>
      rw [splitOn_cons] at member
      split at member
      · rcases List.mem_cons.1 member with rfl | later
        · exact List.not_mem_nil
        · exact ih later
      · rename_i kept
        cases shape : splitOn separator rest with
        | nil => exact absurd shape (splitOn_ne_nil separator rest)
        | cons first pieces =>
            rw [shape] at member ih
            rcases List.mem_cons.1 member with rfl | later
            · intro found
              rcases List.mem_cons.1 found with rfl | found
              · exact kept BEq.rfl
              · exact ih List.mem_cons_self found
            · exact ih (List.mem_cons_of_mem first later)

/-- The part before the last separator, if there is one, and the part after it. -/
def splitLast (separator : α) (text : List α) : Option (List α) × List α :=
  let reversed := text.reverse
  match reversed.dropWhile (· != separator) with
  | [] => (none, text)
  | _ :: front => (some front.reverse, (reversed.takeWhile (· != separator)).reverse)

theorem ne_separator_of_not_mem [LawfulBEq α] {separator : α} {text : List α}
    (absent : separator ∉ text) : ∀ x ∈ text.reverse, (x != separator) = true := by
  intro x member
  simp only [bne_iff_ne, ne_eq]
  rintro rfl
  exact absent (List.mem_reverse.1 member)

/-- Without a separator everything is the last part. -/
theorem splitLast_of_not_mem [LawfulBEq α] {separator : α} {text : List α}
    (absent : separator ∉ text) : splitLast separator text = (none, text) := by
  have all := @List.dropWhile_append_of_pos _ _ _ [] (ne_separator_of_not_mem absent)
  simp only [List.append_nil, List.dropWhile_nil] at all
  simp [splitLast, all]

/-- The last separator is the one behind which there is none. -/
theorem splitLast_append [LawfulBEq α] {separator : α} (front : List α) {last : List α}
    (absent : separator ∉ last) :
    splitLast separator (front ++ separator :: last) = (some front, last) := by
  have pos := ne_separator_of_not_mem absent
  simp [splitLast, List.dropWhile_append_of_pos pos, List.takeWhile_append_of_pos pos]

end DiffDigest.Text
