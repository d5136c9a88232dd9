import DiffDigest.Text.Blank
import Mathlib.Data.List.TakeWhile

/-!
# Trimming

What is trimmed from a text is the blanks around it.
-/

namespace DiffDigest.Text

/-! ## Blanks -/

/-- No visible character of ASCII is blank. -/
theorem isBlank_of_visible {c : Char} (low : 0x21 ≤ c.toNat) (high : c.toNat ≤ 0x7E) :
    isBlank c = false := by
  rw [← Bool.not_eq_true, isBlank, Ranges.contains_iff]
  rintro ⟨range, member, first, last⟩
  simp only [blankRanges, List.mem_cons, List.not_mem_nil, or_false] at member
  rcases member with rfl | rfl | rfl | rfl | rfl | rfl | rfl | rfl | rfl | rfl <;>
    (dsimp only at first last; omega)

/-- Digits are not blank. -/
theorem isBlank_of_isDigit {c : Char} (digit : c.isDigit = true) : isBlank c = false := by
  have range : '0' ≤ c ∧ c ≤ '9' := by
    simpa [Char.isDigit, Char.le_def] using digit
  have low : 48 ≤ c.toNat := range.1
  have high : c.toNat ≤ 57 := range.2
  exact isBlank_of_visible (by omega) (by omega)

/-! ## Dropping a tail -/

/-- A tail is dropped only where the last character asks for it. -/
theorem dropRightWhile_of_getLast? {p : Char → Bool} {text : List Char}
    (kept : ∀ c, text.getLast? = some c → p c = false) : dropRightWhile p text = text := by
  rcases List.eq_nil_or_concat text with rfl | ⟨front, c, rfl⟩
  · rfl
  · rw [List.concat_eq_append] at *
    exact dropRightWhile_concat_of_neg (kept c (by simp)) front

theorem dropRightWhile_cons_of_neg {p : Char → Bool} {c : Char} (kept : p c = false)
    (text : List Char) : dropRightWhile p (c :: text) = c :: dropRightWhile p text := by
  unfold dropRightWhile
  rw [List.reverse_cons, List.dropWhile_append]
  split
  · rename_i gone
    rw [List.dropWhile_cons_of_neg (by simp [kept]), List.isEmpty_iff.1 gone]
    rfl
  · rw [List.reverse_append]
    rfl

theorem prefix_dropRightWhile (p : Char → Bool) (text : List Char) : dropRightWhile p text <+: text :=
  List.reverse_suffix.1 (by
    rw [dropRightWhile, List.reverse_reverse]
    exact List.dropWhile_suffix p)

theorem mem_of_mem_dropRightWhile {p : Char → Bool} {text : List Char} {c : Char}
    (member : c ∈ dropRightWhile p text) : c ∈ text :=
  List.mem_reverse.1 ((List.dropWhile_sublist p).subset (List.mem_reverse.1 member))

theorem getLast?_dropRightWhile {p : Char → Bool} {text : List Char} {c : Char}
    (last : (dropRightWhile p text).getLast? = some c) : p c = false := by
  unfold dropRightWhile at last
  rw [List.getLast?_reverse] at last
  have head := List.head?_dropWhile_not p text.reverse
  rw [last] at head
  simpa using head

/-- What is dropped from the end satisfies the condition. -/
theorem dropRightWhile_append_takeWhile (p : Char → Bool) (text : List Char) :
    dropRightWhile p text ++ (text.reverse.takeWhile p).reverse = text := by
  unfold dropRightWhile
  rw [← List.reverse_append, List.takeWhile_append_dropWhile, List.reverse_reverse]

/-! ## Blanks around a text -/

theorem dropWhile_padded {p : Char → Bool} {front text : List Char}
    (before : ∀ c ∈ front, p c = true) (first : ∀ c ∈ text.head?, p c = false) :
    (front ++ text).dropWhile p = text := by
  rw [List.dropWhile_append_of_pos before]
  cases text with
  | nil => rfl
  | cons c rest =>
      rw [List.dropWhile_cons_of_neg]
      rw [first c rfl]
      exact Bool.false_ne_true

theorem dropRightWhile_padded {p : Char → Bool} {text back : List Char}
    (after : ∀ c ∈ back, p c = true) (last : ∀ c ∈ text.getLast?, p c = false) :
    dropRightWhile p (text ++ back) = text := by
  unfold dropRightWhile
  rw [List.reverse_append, dropWhile_padded, List.reverse_reverse]
  · intro c member
    exact after c (List.mem_reverse.1 member)
  · rw [List.head?_reverse]
    exact last

/-- Blanks around a text are trimmed, if it neither begins nor ends with one. -/
theorem trim_padded {front text back : List Char} (before : ∀ c ∈ front, isBlank c = true)
    (after : ∀ c ∈ back, isBlank c = true) (first : ∀ c ∈ text.head?, isBlank c = false)
    (last : ∀ c ∈ text.getLast?, isBlank c = false) : trim (front ++ text ++ back) = text := by
  unfold trim
  cases text with
  | nil =>
      have blank : ∀ c ∈ front ++ back, isBlank c = true := by
        intro c member
        exact (List.mem_append.1 member).elim (before c) (after c)
      rw [List.append_nil, ← List.append_nil (front ++ back), dropWhile_padded blank (by simp)]
      rfl
  | cons c rest =>
      rw [List.append_assoc, dropWhile_padded before, dropRightWhile_padded after last]
      exact first

inductive Trims : List Char → List Char → Prop
  | intro {front body back : List Char} (before : ∀ c ∈ front, isBlank c = true)
      (after : ∀ c ∈ back, isBlank c = true) (first : ∀ c ∈ body.head?, isBlank c = false)
      (last : ∀ c ∈ body.getLast?, isBlank c = false) : Trims (front ++ body ++ back) body

namespace Trims

variable {text body : List Char}

theorem trim_eq (trims : Trims text body) : trim text = body := by
  obtain ⟨before, after, first, last⟩ := trims
  exact trim_padded before after first last

theorem last {c : Char} (trims : Trims text body) (ends : body.getLast? = some c) :
    isBlank c = false := by
  obtain ⟨_, _, _, last⟩ := trims
  exact last c ends

/-- More blanks on both sides make no difference. -/
theorem pad {front back : List Char} (trims : Trims text body)
    (before : ∀ c ∈ front, isBlank c = true) (after : ∀ c ∈ back, isBlank c = true) :
    Trims (front ++ text ++ back) body := by
  obtain ⟨beforeToo, afterToo, first, last⟩ := trims
  rename_i frontToo backToo
  have whole : front ++ (frontToo ++ body ++ backToo) ++ back =
      (front ++ frontToo) ++ body ++ (backToo ++ back) := by
    simp only [List.append_assoc]
  rw [whole]
  exact .intro (List.forall_mem_append.2 ⟨before, beforeToo⟩)
    (List.forall_mem_append.2 ⟨afterToo, after⟩) first last

/-- A text that neither begins nor ends with a blank stays whole. -/
theorem refl (first : ∀ c ∈ body.head?, isBlank c = false)
    (last : ∀ c ∈ body.getLast?, isBlank c = false) : Trims body body := by
  have trims : Trims ([] ++ body ++ []) body := .intro nofun nofun first last
  rwa [List.nil_append, List.append_nil] at trims

end Trims

theorem head?_trim {text : List Char} {c : Char} (first : (trim text).head? = some c) :
    isBlank c = false := by
  obtain ⟨tail, split⟩ := prefix_dropRightWhile isBlank (text.dropWhile isBlank)
  have head := List.head?_dropWhile_not isBlank text
  unfold trim at first
  rw [← split, List.head?_append, first] at head
  simpa using head

theorem trims_trim (text : List Char) : Trims text (trim text) := by
  have whole : text.takeWhile isBlank ++ trim text ++
      ((text.dropWhile isBlank).reverse.takeWhile isBlank).reverse = text := by
    unfold trim
    rw [List.append_assoc, dropRightWhile_append_takeWhile, List.takeWhile_append_dropWhile]
  have trims : Trims (text.takeWhile isBlank ++ trim text ++
      ((text.dropWhile isBlank).reverse.takeWhile isBlank).reverse) (trim text) := by
    refine .intro ?_ ?_ (fun _ first => head?_trim first) fun _ last => getLast?_dropRightWhile last
    · exact fun c member => List.mem_takeWhile_imp member
    · exact fun c member => List.mem_takeWhile_imp (List.mem_reverse.1 member)
  rwa [whole] at trims

end DiffDigest.Text
