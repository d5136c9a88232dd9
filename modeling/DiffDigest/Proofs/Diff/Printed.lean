import DiffDigest.Proofs.Diff.Kind
import DiffDigest.Proofs.Diff.Rebuild
import DiffDigest.Proofs.Text.Decimal

/-!
# Diffs as git prints them

A printed diff is made of records: each file has its header, lines that describe
it, and hunks with any lines of context and of change.  Parsing gives these
records back, with the paths, the numbers and the lines of the hunks as they
were printed, whether or not the last line has its newline.
-/

namespace DiffDigest.Diff

open Text (Line IsFull bare)

/-- What stands within one line. -/
abbrev Words :=
  { text : List Char // '\n' ∉ text }

/-! ## Records -/

/-- A start and a count, as a hunk header states them; the count may be left out. -/
structure PrintedSpan where
  start : UInt32
  count : Option UInt32

/-- A line of context or of change, or a remark on the line before. -/
structure PrintedLine where
  first : Char
  rest : Words
  known : first ∈ [' ', '+', '-', '\\']

structure PrintedHunk where
  old : PrintedSpan
  new : PrintedSpan
  heading : Words
  body : List PrintedLine

structure PrintedFile where
  oldPath : String
  newPath : String
  newMode : Option Words
  deletedMode : Option Words
  index : Option Words
  oldSide : Option Words
  newSide : Option Words
  hunks : List PrintedHunk
  old_nonempty : oldPath ≠ ""
  new_nonempty : newPath ≠ ""
  old_clean : '\n' ∉ oldPath.toList
  new_clean : '\n' ∉ newPath.toList
  /-- A carriage return at the end of a header is none of its path. -/
  new_unreturned : newPath.toList.getLast? ≠ some '\r'
  /-- The new path begins behind the last mark between paths. -/
  new_unmarked : ¬ " b/".toList <:+: newPath.toList

/-! ## Printing -/

namespace PrintedSpan

def text (span : PrintedSpan) : List Char :=
  (toString span.start.toNat).toList ++
    match span.count with
    | some count => ',' :: (toString count.toNat).toList
    | none => []

/-- The numbers that are meant; a count that is left out is 1. -/
def value (span : PrintedSpan) : Nat × Nat :=
  (span.start.toNat, (span.count.map UInt32.toNat).getD 1)

end PrintedSpan

def PrintedLine.line (printed : PrintedLine) : Line :=
  printed.first :: printed.rest.1 ++ ['\n']

namespace PrintedHunk

def range (printed : PrintedHunk) : HunkRange :=
  ⟨printed.old.value.1, printed.old.value.2, printed.new.value.1, printed.new.value.2⟩

def numbers (printed : PrintedHunk) : List Char :=
  "@@ -".toList ++ printed.old.text ++ " +".toList ++ printed.new.text ++ " @@".toList

def header (printed : PrintedHunk) : Line :=
  printed.numbers ++ printed.heading.1 ++ ['\n']

def lines (printed : PrintedHunk) : List Line :=
  printed.header :: printed.body.map PrintedLine.line

def hunk (filePath : String) (printed : PrintedHunk) : Hunk :=
  ⟨filePath, printed.range, String.ofList printed.lines.flatten⟩

end PrintedHunk

def printedNote (opening : String) (words : Option Words) : List Line :=
  words.toList.map fun words => opening.toList ++ words.1 ++ ['\n']

namespace PrintedFile

def notes (printed : PrintedFile) : List Line :=
  printedNote "new file mode" printed.newMode ++
    printedNote "deleted file mode" printed.deletedMode ++
      printedNote "index" printed.index ++
        printedNote "---" printed.oldSide ++ printedNote "+++" printed.newSide

def lines (printed : PrintedFile) : List Line :=
  (headerOf printed.oldPath printed.newPath ++ ['\n']) ::
    (printed.notes ++ printed.hunks.flatMap PrintedHunk.lines)

def file (printed : PrintedFile) : FileDiff :=
  { oldPath := printed.oldPath
    newPath := printed.newPath
    hunks := printed.hunks.map (PrintedHunk.hunk printed.newPath)
    isNew := printed.newMode.isSome
    isDeleted := printed.deletedMode.isSome }

end PrintedFile

/-- The text of some files, each line of it with its newline. -/
def printAll (files : List PrintedFile) : List Char :=
  (files.flatMap PrintedFile.lines).flatten

/-! ## Hunks -/

theorem isRun_toDigits (n : Nat) : IsRun (Nat.toDigits 10 n) := by
  refine ⟨Nat.toDigits_ne_nil, ?_⟩
  intro c member
  have digit := Text.isDigit_of_mem_toDigits member
  have range : '0' ≤ c ∧ c ≤ '9' := by
    simpa [Char.isDigit, Char.le_def] using digit
  exact Text.isDigit_of_ascii range.1 range.2

theorem number_toDigits (n : UInt32) : number (Nat.toDigits 10 n.toNat) = n.toNat := by
  have small : n.toNat < Word.size32 := n.toNat_lt
  unfold number
  rw [Text.decimal?_toDigits, Option.filter_some, if_pos (decide_eq_true small), Option.getD_some]

theorem PrintedSpan.spans (span : PrintedSpan) : Spans span.text span.value := by
  obtain ⟨start, count⟩ := span
  unfold text value
  simp only [Nat.toString_eq_repr, Nat.toList_repr]
  cases count with
  | none =>
      have spans : Spans _ _ := .start (isRun_toDigits start.toNat)
      rw [number_toDigits] at spans
      simpa using spans
  | some count =>
      have spans : Spans _ _ := .counted (isRun_toDigits start.toNat) (isRun_toDigits count.toNat)
      rw [number_toDigits, number_toDigits] at spans
      simpa using spans

theorem Spans.inline {written : List Char} {span : Nat × Nat} (spans : Spans written span) :
    ∀ c ∈ written, c ≠ '\n' ∧ c ≠ '\r' := by
  have ofRun {digits : List Char} (run : IsRun digits) : ∀ c ∈ digits, c ≠ '\n' ∧ c ≠ '\r' := by
    intro c member
    have digit := run.2 c member
    refine ⟨?_, ?_⟩ <;>
      · rintro rfl
        cases digit
  cases spans with
  | start run => exact ofRun run
  | counted left right =>
      intro c member
      rcases List.mem_append.1 member with front | behind
      · exact ofRun left c front
      · rcases List.mem_cons.1 behind with rfl | behind
        · decide
        · exact ofRun right c behind

theorem PrintedLine.isFull (printed : PrintedLine) : IsFull printed.line := by
  refine ⟨printed.first :: printed.rest.1, ?_, rfl⟩
  intro member
  rcases List.mem_cons.1 member with first | inside
  · have known := printed.known
    rw [← first] at known
    revert known
    decide
  · exact printed.rest.2 inside

theorem PrintedLine.kind (printed : PrintedLine) : LineKind.of printed.line = .plain := by
  have known := printed.known
  have head : printed.first ∉ ['d', 'B', 'n', 'r', '@', '\n', '\r'] := by
    intro other
    revert known other
    generalize printed.first = c
    simp only [List.mem_cons, List.not_mem_nil, or_false]
    rintro (rfl | rfl | rfl | rfl) <;> decide
  exact LineKind.of_of_head head _

namespace PrintedHunk

variable (printed : PrintedHunk)

theorem numbers_inline : ∀ c ∈ printed.numbers, c ≠ '\n' ∧ c ≠ '\r' := by
  have old := printed.old.spans.inline
  have new := printed.new.spans.inline
  unfold numbers
  simp only [List.forall_mem_append]
  exact ⟨⟨⟨⟨by simp, old⟩, by simp⟩, new⟩, by simp⟩

theorem kind_header : LineKind.of printed.header = .hunkHeader printed.range := by
  rw [kind_hunkHeader_iff]
  refine ⟨printed.old.text, printed.new.text, bare printed.heading.1, printed.old.spans,
    printed.new.spans, ?_⟩
  unfold header
  rw [Text.bare_append_newline, Text.bare_append printed.numbers_inline]
  unfold numbers
  simp only [List.append_assoc]

theorem isFull_header : IsFull printed.header := by
  refine ⟨printed.numbers ++ printed.heading.1, ?_, rfl⟩
  rw [List.mem_append, not_or]
  exact ⟨fun member => (printed.numbers_inline _ member).1 rfl, printed.heading.2⟩

/-- A hunk that is printed is made of its lines. -/
theorem isHunk (filePath : String) :
    IsHunk filePath printed.header (printed.body.map PrintedLine.line) (printed.hunk filePath) where
  filePath := rfl
  content := String.toList_ofList
  opens := printed.kind_header
  plain := by
    intro line member
    obtain ⟨inner, -, rfl⟩ := List.mem_map.1 member
    exact inner.kind
  full := by
    intro line member
    rcases List.mem_cons.1 member with rfl | below
    · exact printed.isFull_header
    · obtain ⟨inner, -, rfl⟩ := List.mem_map.1 below
      exact inner.isFull

theorem lines_hunk (filePath : String) : (printed.hunk filePath).lines = printed.lines :=
  (printed.isHunk filePath).lines

end PrintedHunk

/-! ## Files -/

section Notes

variable {opening : String} {kind : LineKind}

theorem map_kind_printedNote
    (all : ∀ words : List Char, LineKind.of (opening.toList ++ words ++ ['\n']) = kind)
    (words : Option Words) :
    (printedNote opening words).map LineKind.of = words.toList.map fun _ => kind := by
  simp only [printedNote, List.map_map, Function.comp_def, all]

theorem any_map_kind (words : Option Words) (kind : LineKind) (p : LineKind → Bool) :
    (words.toList.map fun _ => kind).any p = (words.isSome && p kind) := by
  cases words <;> simp

theorem isFull_of_mem_printedNote (inside : '\n' ∉ opening.toList) {words : Option Words}
    {line : Line} (member : line ∈ printedNote opening words) : IsFull line := by
  obtain ⟨words, -, rfl⟩ := List.mem_map.1 member
  refine ⟨opening.toList ++ words.1, ?_, rfl⟩
  rw [List.mem_append, not_or]
  exact ⟨inside, words.2⟩

end Notes

namespace PrintedFile

variable (printed : PrintedFile)

/-- The lines that describe a file mark it as new or deleted, or are plain. -/
theorem map_kind_notes :
    printed.notes.map LineKind.of =
      (printed.newMode.toList.map fun _ => .newFileMark) ++
        (printed.deletedMode.toList.map fun _ => .deletedFileMark) ++
          (printed.index.toList.map fun _ => .plain) ++
            (printed.oldSide.toList.map fun _ => .plain) ++
              printed.newSide.toList.map fun _ => .plain := by
  have newMode (words : List Char) :
      LineKind.of ("new file mode".toList ++ words ++ ['\n']) = .newFileMark := by
    unfold LineKind.of
    rw [Text.bare_append_newline, Text.bare_append (by simp)]
    simp [LineKind.ofBare, fileHeader?, isBinaryNote, startsWith]
  have deletedMode (words : List Char) :
      LineKind.of ("deleted file mode".toList ++ words ++ ['\n']) = .deletedFileMark := by
    unfold LineKind.of
    rw [Text.bare_append_newline, Text.bare_append (by simp)]
    simp [LineKind.ofBare, fileHeader?, isBinaryNote, startsWith]
  have index (words : List Char) : LineKind.of ("index".toList ++ words ++ ['\n']) = .plain :=
    LineKind.of_of_head (by decide) _
  have oldSide (words : List Char) : LineKind.of ("---".toList ++ words ++ ['\n']) = .plain :=
    LineKind.of_of_head (by decide) _
  have newSide (words : List Char) : LineKind.of ("+++".toList ++ words ++ ['\n']) = .plain :=
    LineKind.of_of_head (by decide) _
  unfold notes
  simp only [List.map_append, map_kind_printedNote newMode, map_kind_printedNote deletedMode,
    map_kind_printedNote index, map_kind_printedNote oldSide, map_kind_printedNote newSide]

theorem describes_of_mem_notes {line : Line} (member : line ∈ printed.notes) : Describes line := by
  have among : LineKind.of line ∈ printed.notes.map LineKind.of := List.mem_map_of_mem member
  rw [map_kind_notes] at among
  simp only [List.mem_append, List.mem_map] at among
  rcases among with (((⟨_, _, new⟩ | ⟨_, _, deleted⟩) | ⟨_, _, index⟩) | ⟨_, _, old⟩) | ⟨_, _, new⟩
  · exact Or.inl new.symm
  · exact Or.inr (Or.inl deleted.symm)
  · exact Or.inr (Or.inr index.symm)
  · exact Or.inr (Or.inr old.symm)
  · exact Or.inr (Or.inr new.symm)

theorem isFull_notes : ∀ line ∈ printed.notes, IsFull line := by
  intro line member
  simp only [notes, List.mem_append] at member
  rcases member with (((new | deleted) | index) | old) | new
  · exact isFull_of_mem_printedNote (by decide) new
  · exact isFull_of_mem_printedNote (by decide) deleted
  · exact isFull_of_mem_printedNote (by decide) index
  · exact isFull_of_mem_printedNote (by decide) old
  · exact isFull_of_mem_printedNote (by decide) new

theorem blank_not_mem_notes : ['\n'] ∉ printed.notes := by
  have filled {opening : String} (some : opening.toList ≠ []) (words : Option Words) :
      ['\n'] ∉ printedNote opening words := by
    intro member
    obtain ⟨words, -, same⟩ := List.mem_map.1 member
    have longer := List.length_pos_iff.2 some
    have length := congrArg List.length same
    simp only [List.length_append, List.length_singleton] at length
    omega
  simp only [notes, List.mem_append, not_or]
  exact ⟨⟨⟨⟨filled (by decide) _, filled (by decide) _⟩, filled (by decide) _⟩,
    filled (by decide) _⟩, filled (by decide) _⟩

theorem wellFormed_of_mem {hunk : Hunk} (member : hunk ∈ printed.file.hunks) :
    hunk.WellFormed printed.newPath := by
  obtain ⟨inner, -, rfl⟩ := List.mem_map.1 member
  exact ⟨_, _, inner.isHunk printed.newPath⟩

/-- A file that is printed is one that can be parsed. -/
theorem wellFormed : printed.file.WellFormed where
  header := fileHeader?_of_unmarked printed.old_nonempty printed.new_nonempty printed.new_unmarked
  clean := by
    unfold headerOf
    simp only [List.mem_append, not_or]
    exact ⟨⟨⟨by decide, printed.old_clean⟩, by decide⟩, printed.new_clean⟩
  unreturned := by
    have filled : printed.file.newPath.toList ≠ [] :=
      fun empty => printed.new_nonempty (String.toList_eq_nil_iff.1 empty)
    unfold headerOf
    rw [List.getLast?_append_of_ne_nil _ filled]
    exact printed.new_unreturned
  hunks := fun _ member => printed.wellFormed_of_mem member

theorem flatMap_lines_hunks :
    printed.file.hunks.flatMap Hunk.lines = printed.hunks.flatMap PrintedHunk.lines := by
  unfold file
  simp only [List.flatMap_map, PrintedHunk.lines_hunk]

theorem lines_eq :
    printed.lines =
      printed.file.headerLine :: (printed.notes ++ printed.file.hunks.flatMap Hunk.lines) := by
  rw [flatMap_lines_hunks]
  rfl

theorem isFull_lines : ∀ line ∈ printed.lines, IsFull line := by
  intro line member
  rw [lines_eq] at member
  rcases List.mem_cons.1 member with rfl | below
  · exact printed.wellFormed.isFull_headerLine
  · rcases List.mem_append.1 below with note | inside
    · exact printed.isFull_notes line note
    · obtain ⟨hunk, among, inside⟩ := List.mem_flatMap.1 inside
      exact ((printed.wellFormed_of_mem among).lines inside).1

/-- The lines below the header of a printed file make up the file. -/
theorem file_notes :
    Section.file ⟨printed.oldPath, printed.newPath,
      printed.notes ++ printed.file.hunks.flatMap Hunk.lines⟩ = printed.file := by
  rw [file_of_notes printed.oldPath
    (fun _ note => (printed.describes_of_mem_notes note).opensNoHunk)
    (fun _ member => printed.wellFormed_of_mem member), map_kind_notes]
  simp only [List.any_append, any_map_kind]
  simp [file]

theorem sections_lines {rest : List Line} (separate : (sections rest).1 = []) :
    sections (printed.lines ++ rest) =
      ([], ⟨printed.oldPath, printed.newPath,
        printed.notes ++ printed.file.hunks.flatMap Hunk.lines⟩ :: (sections rest).2) := by
  rw [lines_eq]
  exact sections_notes printed.wellFormed.kind_headerLine
    (fun _ note => (printed.describes_of_mem_notes note).opensNoFile)
    (fun _ member => printed.wellFormed_of_mem member) separate

end PrintedFile

/-! ## Parsing -/

theorem sections_flatMap_lines (files : List PrintedFile) :
    sections (files.flatMap PrintedFile.lines) =
      ([], files.map fun printed => ⟨printed.oldPath, printed.newPath,
        printed.notes ++ printed.file.hunks.flatMap Hunk.lines⟩) := by
  induction files with
  | nil => rfl
  | cons printed rest ih =>
      rw [List.flatMap_cons, printed.sections_lines (by rw [ih]), ih]
      rfl

theorem isFull_of_mem_printed {files : List PrintedFile} {line : Line}
    (member : line ∈ files.flatMap PrintedFile.lines) : IsFull line := by
  obtain ⟨printed, -, inside⟩ := List.mem_flatMap.1 member
  exact printed.isFull_lines line inside

theorem parse_printAll (files : List PrintedFile) :
    parse (String.ofList (printAll files)) = files.map PrintedFile.file := by
  unfold parse printAll
  rw [String.toList_ofList, Text.lines_flatten fun _ => isFull_of_mem_printed, sections_flatMap_lines,
    List.map_map]
  exact List.map_congr_left fun printed _ => printed.file_notes

/-- No printed line is empty. -/
theorem blank_not_mem_printed (files : List PrintedFile) :
    ['\n'] ∉ files.flatMap PrintedFile.lines := by
  intro member
  obtain ⟨printed, -, inside⟩ := List.mem_flatMap.1 member
  have plain : LineKind.of ['\n'] = .plain := by decide
  rw [PrintedFile.lines_eq] at inside
  rcases List.mem_cons.1 inside with header | below
  · rw [header, printed.wellFormed.kind_headerLine] at plain
    cases plain
  · rcases List.mem_append.1 below with note | content
    · exact printed.blank_not_mem_notes note
    · rw [printed.flatMap_lines_hunks] at content
      obtain ⟨hunk, -, line⟩ := List.mem_flatMap.1 content
      rcases List.mem_cons.1 line with header | body
      · rw [header, hunk.kind_header] at plain
        cases plain
      · obtain ⟨inner, -, same⟩ := List.mem_map.1 body
        simp [PrintedLine.line] at same

/--
Parsing gives the files back that were printed, and it does so as well when the
newline after the very last line is missing.
-/
theorem parse_printed (files : List PrintedFile) :
    parse (String.ofList (printAll files)) = files.map PrintedFile.file ∧
      parse (String.ofList (printAll files).dropLast) = files.map PrintedFile.file := by
  refine ⟨parse_printAll files, ?_⟩
  rcases List.eq_nil_or_concat (files.flatMap PrintedFile.lines) with none | ⟨front, last, lines⟩
  · have unprinted : printAll files = [] := by
      rw [printAll, none]
      rfl
    have parsed := parse_printAll files
    rw [unprinted] at parsed ⊢
    exact parsed
  · rw [List.concat_eq_append] at lines
    have member : last ∈ files.flatMap PrintedFile.lines := by
      rw [lines]
      exact List.mem_append_right _ (List.mem_singleton.2 rfl)
    have completed : Text.complete (printAll files).dropLast = printAll files := by
      rw [printAll, lines, List.flatten_append, List.flatten_singleton]
      exact (isFull_of_mem_printed member).complete_dropLast
        (fun blank => blank_not_mem_printed files (blank ▸ member)) _
    rw [← parse_complete, completed]
    exact parse_printAll files

/-- A path may hold the mark between paths, and a removed line may look like a path line. -/
example :
    printAll
      [{ oldPath := "x b/y"
         newPath := "z"
         newMode := none
         deletedMode := none
         index := some ⟨" 1..2".toList, by decide⟩
         oldSide := none
         newSide := none
         hunks :=
           [⟨⟨3, none⟩, ⟨4, some 0⟩, ⟨" f".toList, by decide⟩,
             [⟨'-', ⟨"-- a/x".toList, by decide⟩, by decide⟩]⟩]
         old_nonempty := by decide
         new_nonempty := by decide
         old_clean := by decide
         new_clean := by decide
         new_unreturned := by decide
         new_unmarked := by decide }] =
      "diff --git a/x b/y b/z\nindex 1..2\n@@ -3 +4,0 @@ f\n--- a/x\n".toList := by
  decide

end DiffDigest.Diff
