import DiffDigest.Proofs.Diff.Header
import Mathlib.Data.List.Infix
import Mathlib.Data.List.TakeWhile

/-!
# What lines look like

The kinds of lines are told here by what a line looks like, and not by how it is
scanned: a file header by its two paths, a hunk header by its numbers, and a mark
by the words it begins or ends with.
-/

namespace DiffDigest.Diff

open Text (Line bare)

/-! ## File headers -/

def IsFileHeader (line : List Char) : Prop :=
  ∃ oldPath newPath : String, oldPath ≠ "" ∧ newPath ≠ "" ∧ line = headerOf oldPath newPath

/-- The mark between the paths is found if there is one with something behind it. -/
theorem splitPaths_append {behind backward : List Char} (old : List Char)
    (nonempty : backward.reverse ++ behind ≠ []) :
    ∃ front rest, splitPaths behind (backward ++ " b/".toList.reverse ++ old.reverse) =
      some (front, rest) ∧ old.length ≤ front.length := by
  induction backward generalizing behind with
  | nil =>
      have filled : behind.isEmpty = false := List.isEmpty_eq_false_iff.2 nonempty
      refine ⟨old, behind, ?_, Nat.le_refl _⟩
      simp [splitPaths, filled]
  | cons c backward ih =>
      have shape : c :: backward ++ " b/".toList.reverse ++ old.reverse =
          c :: (backward ++ " b/".toList.reverse ++ old.reverse) := rfl
      rw [shape, splitPaths]
      split
      · refine ⟨_, _, rfl, ?_⟩
        have longer : old.length ≤ (backward ++ " b/".toList.reverse ++ old.reverse).length - 2 := by
          simp only [List.length_append, List.length_reverse, String.length_toList]
          have mark : " b/".length = 3 := rfl
          omega
        simpa using longer
      · exact ih (by simp)

/-- Two places of the mark in one text are the same, or one is in the rest behind the other. -/
theorem eq_or_mark_infix {old new front rest : List Char}
    (same : front ++ " b/".toList ++ rest = old ++ " b/".toList ++ new)
    (further : old.length ≤ front.length) :
    front = old ∧ rest = new ∨ " b/".toList <:+: new := by
  rw [List.append_assoc, List.append_assoc] at same
  rcases List.append_eq_append_iff.1 same with ⟨between, rfl, split⟩ | ⟨between, rfl, split⟩
  · obtain rfl : between = [] := by
      rw [List.length_append] at further
      exact List.length_eq_zero_iff.1 (by omega)
    exact Or.inl ⟨by simp, List.append_cancel_left split⟩
  · -- The mark does not overlap with itself.
    match between, split with
    | [], split => exact Or.inl ⟨by simp, (List.append_cancel_left split).symm⟩
    | [x], split => simp at split
    | [x, y], split => simp at split
    | x :: y :: z :: between, split =>
        obtain ⟨-, -, -, behind⟩ : ' ' = x ∧ 'b' = y ∧ '/' = z ∧
            new = between ++ (" b/".toList ++ rest) := by
          simpa using split
        exact Or.inr ⟨between, rest, by rw [behind, List.append_assoc]⟩

/-- Behind the opening of a header its paths are split. -/
theorem fileHeader?_eq (line : List Char) :
    fileHeader? line = (after? "diff --git a/".toList line).bind fun rest =>
      match splitPaths [] rest.reverse with
      | some (c :: old, new) => some (String.ofList (c :: old), String.ofList new)
      | _ => none := by
  unfold fileHeader? after?
  dsimp only
  split <;> rfl

theorem fileHeader?_headerOf {oldPath newPath : String} (old : oldPath ≠ "") (new : newPath ≠ "") :
    ∃ front rest, fileHeader? (headerOf oldPath newPath) = some (front, rest) ∧
      oldPath.toList.length ≤ front.toList.length := by
  have filled : newPath.toList.reverse.reverse ++ [] ≠ [] := by
    rw [List.reverse_reverse, List.append_nil]
    exact fun empty => new (String.toList_eq_nil_iff.1 empty)
  obtain ⟨front, rest, split, longer⟩ := splitPaths_append oldPath.toList filled
  unfold headerOf
  rw [fileHeader?_eq, List.append_assoc, List.append_assoc, after?_append, Option.bind_some,
    List.reverse_append, List.reverse_append, split]
  match front, longer with
  | [], longer =>
      exact absurd (String.toList_eq_nil_iff.1 (List.length_eq_zero_iff.1 (Nat.le_zero.1 longer))) old
  | c :: front, longer => exact ⟨_, _, rfl, by rw [String.toList_ofList]; exact longer⟩

/-- A header is read as it looks. -/
theorem exists_fileHeader?_iff (line : List Char) :
    (∃ paths, fileHeader? line = some paths) ↔ IsFileHeader line := by
  constructor
  · rintro ⟨⟨oldPath, newPath⟩, header⟩
    obtain ⟨written, old, new⟩ := headerOf_of_fileHeader? header
    refine ⟨oldPath, newPath, ?_, ?_, written⟩
    · rintro rfl
      exact old rfl
    · rintro rfl
      exact new rfl
  · rintro ⟨oldPath, newPath, old, new, rfl⟩
    obtain ⟨front, rest, header, -⟩ := fileHeader?_headerOf old new
    exact ⟨_, header⟩

/-- A header gives its two paths back when the new one holds no mark between paths. -/
theorem fileHeader?_of_unmarked {oldPath newPath : String} (old : oldPath ≠ "") (new : newPath ≠ "")
    (unmarked : ¬ " b/".toList <:+: newPath.toList) :
    fileHeader? (headerOf oldPath newPath) = some (oldPath, newPath) := by
  obtain ⟨front, rest, header, longer⟩ := fileHeader?_headerOf old new
  have written := (headerOf_of_fileHeader? header).1
  unfold headerOf at written
  rw [List.append_assoc, List.append_assoc, List.append_assoc, List.append_assoc] at written
  have paths := List.append_cancel_left written
  rw [← List.append_assoc, ← List.append_assoc] at paths
  rcases eq_or_mark_infix paths.symm longer with ⟨sameOld, sameNew⟩ | marked
  · rw [header, String.toList_inj.1 sameOld, String.toList_inj.1 sameNew]
  · exact absurd marked unmarked

/-! ## Hunk headers -/

def IsRun (digits : List Char) : Prop :=
  digits ≠ [] ∧ ∀ c ∈ digits, Text.isDigit c = true

def NoDigitAhead (rest : List Char) : Prop :=
  ∀ c ∈ rest.head?, Text.isDigit c = false

theorem digits?_append {digits rest : List Char} (run : IsRun digits) (stop : NoDigitAhead rest) :
    digits? (digits ++ rest) = some (digits, rest) := by
  have whole : rest.takeWhile Text.isDigit = [] ∧ rest.dropWhile Text.isDigit = rest := by
    cases rest with
    | nil => exact ⟨rfl, rfl⟩
    | cons c rest =>
        have other : ¬ Text.isDigit c = true := Bool.eq_false_iff.1 (stop c rfl)
        exact ⟨List.takeWhile_cons_of_neg other, List.dropWhile_cons_of_neg other⟩
  unfold digits?
  rw [List.takeWhile_append_of_pos run.2, List.dropWhile_append_of_pos run.2, whole.1, whole.2,
    List.append_nil]
  obtain ⟨first, others, rfl⟩ := List.exists_cons_of_ne_nil run.1
  rfl

theorem of_digits?_eq_some {text digits rest : List Char}
    (found : digits? text = some (digits, rest)) : IsRun digits ∧ text = digits ++ rest := by
  unfold digits? at found
  split at found
  · cases found
  · rename_i any
    obtain ⟨rfl, rfl⟩ := Prod.mk.inj (Option.some.inj found)
    exact ⟨⟨any, fun c member => List.mem_takeWhile_imp member⟩, List.takeWhile_append_dropWhile.symm⟩

/-- A text states a start and a count; a count that is left out is 1. -/
inductive Spans : List Char → Nat × Nat → Prop
  | start {digits : List Char} (run : IsRun digits) : Spans digits (number digits, 1)
  | counted {first second : List Char} (left : IsRun first) (right : IsRun second) :
      Spans (first ++ ',' :: second) (number first, number second)

theorem span?_of_comma {text first later : List Char}
    (found : digits? text = some (first, ',' :: later)) :
    span? text = (digits? later).bind fun (second, rest) =>
      some ((number first, number second), rest) := by
  unfold span?
  rw [found]
  rfl

theorem span?_of_noComma {text first behind : List Char} (found : digits? text = some (first, behind))
    (noComma : behind.head? ≠ some ',') : span? text = some ((number first, 1), behind) := by
  unfold span?
  rw [found, Option.bind_eq_bind, Option.bind_some]
  dsimp only
  split
  · exact absurd rfl noComma
  · rfl

theorem span?_append {written rest : List Char} {span : Nat × Nat} (spans : Spans written span)
    (stop : NoDigitAhead rest) (noComma : rest.head? ≠ some ',') :
    span? (written ++ rest) = some (span, rest) := by
  cases spans with
  | start run => exact span?_of_noComma (digits?_append run stop) noComma
  | @counted first second left right =>
      have comma : NoDigitAhead (',' :: (second ++ rest)) := by
        intro c ahead
        obtain rfl := Option.some.inj ahead
        decide
      rw [List.append_assoc, List.cons_append, span?_of_comma (digits?_append left comma),
        digits?_append right stop]
      rfl

theorem of_span?_eq_some {text rest : List Char} {span : Nat × Nat}
    (found : span? text = some (span, rest)) :
    ∃ written, Spans written span ∧ text = written ++ rest := by
  obtain ⟨⟨first, behind⟩, start, -⟩ := Option.bind_eq_some_iff.1 found
  obtain ⟨left, same⟩ := of_digits?_eq_some start
  by_cases comma : behind.head? = some ','
  · obtain ⟨later, rfl⟩ := List.head?_eq_some_iff.1 comma
    rw [span?_of_comma start] at found
    obtain ⟨⟨second, others⟩, count, result⟩ := Option.bind_eq_some_iff.1 found
    obtain ⟨right, rfl⟩ := of_digits?_eq_some count
    cases result
    exact ⟨_, .counted left right, by rw [same, List.append_assoc, List.cons_append]⟩
  · rw [span?_of_noComma start comma] at found
    cases found
    exact ⟨_, .start left, same⟩

theorem of_after?_eq_some {expected text rest : List Char}
    (found : after? expected text = some rest) : text = expected ++ rest := by
  unfold after? at found
  split at found
  · rename_i opens
    obtain ⟨behind, rfl⟩ := List.isPrefixOf_iff_prefix.1 opens
    rw [List.drop_left] at found
    rw [Option.some.inj found]
  · cases found

/-- A line that opens a hunk of this range; anything may stand behind the second mark. -/
def IsHunkHeaderOf (range : HunkRange) (line : List Char) : Prop :=
  ∃ old new rest, Spans old (range.oldStart, range.oldCount) ∧
    Spans new (range.newStart, range.newCount) ∧
      line = "@@ -".toList ++ (old ++ (" +".toList ++ (new ++ (" @@".toList ++ rest))))

def IsHunkHeader (line : List Char) : Prop :=
  ∃ range, IsHunkHeaderOf range line

theorem isHunkHeaderOf_of_hunkHeader? {line : List Char} {range : HunkRange}
    (header : hunkHeader? line = some range) : IsHunkHeaderOf range line := by
  unfold hunkHeader? at header
  obtain ⟨text, opens, header⟩ := Option.bind_eq_some_iff.1 header
  obtain ⟨⟨old, behindOld⟩, left, header⟩ := Option.bind_eq_some_iff.1 header
  obtain ⟨behind, between, header⟩ := Option.bind_eq_some_iff.1 header
  obtain ⟨⟨new, behindNew⟩, right, header⟩ := Option.bind_eq_some_iff.1 header
  obtain ⟨rest, closes, header⟩ := Option.bind_eq_some_iff.1 header
  cases header
  obtain ⟨oldText, oldSpans, same⟩ := of_span?_eq_some left
  obtain ⟨newText, newSpans, rfl⟩ := of_span?_eq_some right
  refine ⟨oldText, newText, rest, oldSpans, newSpans, ?_⟩
  rw [of_after?_eq_some opens, same, of_after?_eq_some between, of_after?_eq_some closes]

/-- A hunk header is read as it looks. -/
theorem hunkHeader?_eq_some_iff (line : List Char) (range : HunkRange) :
    hunkHeader? line = some range ↔ IsHunkHeaderOf range line := by
  refine ⟨isHunkHeaderOf_of_hunkHeader?, ?_⟩
  rintro ⟨old, new, rest, oldSpans, newSpans, rfl⟩
  have blank (behind : List Char) : NoDigitAhead (' ' :: behind) := by
    intro c ahead
    obtain rfl := Option.some.inj ahead
    decide
  have left : span? (old ++ (" +".toList ++ (new ++ (" @@".toList ++ rest)))) =
      some ((range.oldStart, range.oldCount), " +".toList ++ (new ++ (" @@".toList ++ rest))) :=
    span?_append oldSpans (blank _) (by simp)
  have right : span? (new ++ (" @@".toList ++ rest)) =
      some ((range.newStart, range.newCount), " @@".toList ++ rest) :=
    span?_append newSpans (blank _) (by simp)
  unfold hunkHeader?
  simp only [after?_append, Option.bind_eq_bind, Option.bind_some, left, right]
  rfl

/-! ## Marks -/

/-- A line that says something about a whole file. -/
def IsMark (line : List Char) : Prop :=
  (∃ middle, middle ≠ [] ∧ line = "Binary files ".toList ++ middle ++ " differ".toList) ∨
    "new file mode".toList <+: line ∨ "deleted file mode".toList <+: line ∨
      "rename from ".toList <+: line ∨ "rename to ".toList <+: line

theorem isBinaryNote_iff (line : List Char) :
    isBinaryNote line = true ↔
      ∃ middle, middle ≠ [] ∧ line = "Binary files ".toList ++ middle ++ " differ".toList := by
  unfold isBinaryNote
  dsimp only
  rw [Bool.and_eq_true, Bool.and_eq_true, List.isPrefixOf_iff_prefix, List.isSuffixOf_iff_suffix,
    decide_eq_true_eq]
  constructor
  · rintro ⟨⟨⟨behind, rfl⟩, closes⟩, longer⟩
    rw [List.length_append] at longer
    have inside : " differ".toList <:+ behind :=
      List.suffix_of_suffix_length_le closes (List.suffix_append _ behind) (by omega)
    obtain ⟨middle, rfl⟩ := inside
    refine ⟨middle, ?_, by rw [List.append_assoc]⟩
    rintro rfl
    simp at longer
  · rintro ⟨middle, some, rfl⟩
    refine ⟨⟨?_, List.suffix_append _ _⟩, ?_⟩
    · rw [List.append_assoc]
      exact List.prefix_append _ _
    · have filled := List.length_pos_iff.2 some
      simp only [List.length_append]
      omega

/-! ## Kinds -/

theorem startsWith_iff (opening : String) (line : List Char) :
    startsWith opening line = true ↔ opening.toList <+: line :=
  List.isPrefixOf_iff_prefix

namespace LineKind

theorem ofBare_eq_hunkHeader {line : List Char} {range : HunkRange}
    (kind : ofBare line = .hunkHeader range) : IsHunkHeaderOf range line := by
  unfold ofBare at kind
  split at kind
  · cases kind
  · iterate 4 (split at kind; cases kind)
    split at kind
    · rename_i header
      cases kind
      exact (hunkHeader?_eq_some_iff _ _).1 header
    · cases kind

/-- Nothing but a hunk header begins with its first character. -/
theorem ofBare_of_isHunkHeaderOf {line : List Char} {range : HunkRange}
    (header : IsHunkHeaderOf range line) : ofBare line = .hunkHeader range := by
  have read := (hunkHeader?_eq_some_iff line range).2 header
  obtain ⟨old, new, rest, -, -, same⟩ := header
  have first : line = '@' :: line.tail := by
    rw [same]
    rfl
  rw [first] at read ⊢
  simp [ofBare, fileHeader?, isBinaryNote, startsWith, read]

def isMark : LineKind → Bool
  | .binaryMark | .newFileMark | .deletedFileMark | .renameMark => true
  | _ => false

/-- A mark is read as it looks. -/
theorem isMark_ofBare_iff (line : List Char) : (ofBare line).isMark = true ↔ IsMark line := by
  constructor
  · intro kind
    unfold ofBare at kind
    split at kind
    · cases kind
    · split at kind
      · exact Or.inl ((isBinaryNote_iff line).1 ‹_›)
      · split at kind
        · exact Or.inr (Or.inl ((startsWith_iff _ line).1 ‹_›))
        · split at kind
          · exact Or.inr (Or.inr (Or.inl ((startsWith_iff _ line).1 ‹_›)))
          · split at kind
            · rename_i renamed
              rw [Bool.or_eq_true, startsWith_iff, startsWith_iff] at renamed
              exact Or.inr (Or.inr (Or.inr renamed))
            · split at kind <;> cases kind
  · rintro (binary | ⟨rest, rfl⟩ | ⟨rest, rfl⟩ | ⟨rest, rfl⟩ | ⟨rest, rfl⟩)
    · have note := (isBinaryNote_iff line).2 binary
      obtain ⟨middle, -, same⟩ := binary
      have noHeader : fileHeader? line = none := by
        rw [same]
        simp [fileHeader?]
      rw [ofBare, noHeader]
      dsimp only
      rw [if_pos note]
      rfl
    all_goals simp [ofBare, fileHeader?, isBinaryNote, startsWith, isMark]

end LineKind

/-! ## Deciding what lines look like -/

instance : DecidablePred IsFileHeader := fun line =>
  decidable_of_iff (fileHeader? line).isSome
    (Option.isSome_iff_exists.trans (exists_fileHeader?_iff line))

instance : DecidablePred IsHunkHeader := fun line =>
  decidable_of_iff (hunkHeader? line).isSome
    (Option.isSome_iff_exists.trans (exists_congr (hunkHeader?_eq_some_iff line)))

instance : DecidablePred IsMark := fun line =>
  decidable_of_iff (LineKind.ofBare line).isMark (LineKind.isMark_ofBare_iff line)

/-! ## Lines as they stand in a diff -/

variable (line : Line)

theorem kind_fileHeader_iff :
    (∃ oldPath newPath, LineKind.of line = .fileHeader oldPath newPath) ↔
      IsFileHeader (bare line) := by
  rw [← exists_fileHeader?_iff]
  constructor
  · rintro ⟨oldPath, newPath, kind⟩
    exact ⟨_, LineKind.ofBare_eq_fileHeader kind⟩
  · rintro ⟨⟨oldPath, newPath⟩, header⟩
    exact ⟨oldPath, newPath, LineKind.ofBare_of_fileHeader? header⟩

theorem kind_hunkHeader_iff (range : HunkRange) :
    LineKind.of line = .hunkHeader range ↔ IsHunkHeaderOf range (bare line) :=
  ⟨LineKind.ofBare_eq_hunkHeader, LineKind.ofBare_of_isHunkHeaderOf⟩

theorem isMark_kind_iff : (LineKind.of line).isMark = true ↔ IsMark (bare line) :=
  LineKind.isMark_ofBare_iff (bare line)

section Other

variable {line : Line} {kind : LineKind} (same : LineKind.of line = kind)

include same

theorem not_isFileHeader (other : ∀ oldPath newPath, kind ≠ .fileHeader oldPath newPath) :
    ¬ IsFileHeader (bare line) := by
  rw [← kind_fileHeader_iff]
  rintro ⟨oldPath, newPath, header⟩
  exact other oldPath newPath (same.symm.trans header)

theorem not_isHunkHeader (other : ∀ range, kind ≠ .hunkHeader range) :
    ¬ IsHunkHeader (bare line) := by
  rintro ⟨range, header⟩
  exact other range (same.symm.trans ((kind_hunkHeader_iff line range).2 header))

theorem not_isMark (other : kind.isMark = false) : ¬ IsMark (bare line) := by
  rw [← isMark_kind_iff, same, other]
  exact Bool.false_ne_true

end Other

end DiffDigest.Diff
