import DiffDigest.Proofs.Diff.Section
import DiffDigest.Total

/-!
# Parsing a written diff

The files of a parsed diff can be written with any of their hunks, and parsing
gives these files with these hunks back.  What is written below a header before
the first hunk says only whether the file is new or deleted.
-/

namespace DiffDigest.Diff

open Text (Line IsFull bare)

/-! ## Files as they are parsed -/

/-- A file whose header can be read again, with hunks as they are parsed. -/
structure FileDiff.WellFormed (file : FileDiff) : Prop where
  header : fileHeader? (headerOf file.oldPath file.newPath) = some (file.oldPath, file.newPath)
  clean : '\n' ∉ headerOf file.oldPath file.newPath
  unreturned : (headerOf file.oldPath file.newPath).getLast? ≠ some '\r'
  hunks : ∀ hunk ∈ file.hunks, hunk.WellFormed file.newPath

theorem wellFormed_of_mem_parse {text : String} {file : FileDiff} (member : file ∈ parse text) :
    file.WellFormed := by
  obtain ⟨s, inside, rfl⟩ := List.mem_map.1 member
  obtain ⟨⟨line, among, kind⟩, body⟩ := lines_of_mem_sections inside
  have read := LineKind.ofBare_eq_fileHeader kind
  have written : bare line = headerOf s.oldPath s.newPath := (headerOf_of_fileHeader? read).1
  refine ⟨?_, ?_, ?_, ?_⟩
  · change fileHeader? (headerOf s.oldPath s.newPath) = some (s.oldPath, s.newPath)
    rw [← written]
    exact read
  · change '\n' ∉ headerOf s.oldPath s.newPath
    rw [← written]
    exact Text.newline_not_mem_bare among
  · change (headerOf s.oldPath s.newPath).getLast? ≠ some '\r'
    rw [← written]
    exact Text.getLast?_bare_ne line
  · intro hunk parsed
    exact wellFormed_of_mem_hunks (fun other below => Text.isFull_complete (body other below)) parsed

/-- A parsed hunk bears the new path of its file. -/
theorem filePath_of_mem_parse {text : String} {file : FileDiff} (member : file ∈ parse text)
    {hunk : Hunk} (own : hunk ∈ file.hunks) : hunk.filePath = file.newPath := by
  obtain ⟨header, body, made⟩ := (wellFormed_of_mem_parse member).hunks hunk own
  exact made.filePath

namespace FileDiff

/-! ## The lines of a file -/

def headerLine (file : FileDiff) : Line :=
  headerOf file.oldPath file.newPath ++ ['\n']

def notes (file : FileDiff) : List Line :=
  (if file.isNew then ["new file mode 100644\n".toList] else []) ++
    (if file.isDeleted then ["deleted file mode 100644\n".toList] else []) ++
    [if file.isNew then "--- /dev/null\n".toList
      else "--- a/".toList ++ file.oldPath.toList ++ ['\n'],
      if file.isDeleted then "+++ /dev/null\n".toList
      else "+++ b/".toList ++ file.newPath.toList ++ ['\n']]

theorem toList_heading (file : FileDiff) :
    file.heading.toList = (file.headerLine :: file.notes).flatten := by
  unfold heading headerLine notes headerOf
  cases file.isNew <;> cases file.isDeleted <;>
    simp only [String.toList_append, List.flatten_cons, List.flatten_append, List.append_assoc,
      if_true, if_false, Bool.false_eq_true, List.flatten_nil, List.append_nil, List.nil_append] <;>
    rfl

/-- The kinds of the lines between the header and the hunks. -/
theorem map_kind_notes (file : FileDiff) :
    file.notes.map LineKind.of =
      (if file.isNew then [.newFileMark] else []) ++
        (if file.isDeleted then [.deletedFileMark] else []) ++ [.plain, .plain] := by
  have newMark : LineKind.of "new file mode 100644\n".toList = .newFileMark := by decide
  have deletedMark : LineKind.of "deleted file mode 100644\n".toList = .deletedFileMark := by decide
  have oldNone : LineKind.of "--- /dev/null\n".toList = .plain := by decide
  have newNone : LineKind.of "+++ /dev/null\n".toList = .plain := by decide
  have oldSide : LineKind.of ("--- a/".toList ++ file.oldPath.toList ++ ['\n']) = .plain :=
    LineKind.of_of_head (by decide) _
  have newSide : LineKind.of ("+++ b/".toList ++ file.newPath.toList ++ ['\n']) = .plain :=
    LineKind.of_of_head (by decide) _
  unfold notes
  cases file.isNew <;> cases file.isDeleted <;>
    simp only [if_true, if_false, Bool.false_eq_true, List.nil_append, List.cons_append,
      List.map_cons, List.map_nil, newMark, deletedMark, oldNone, newNone, oldSide, newSide]

namespace WellFormed

variable {file : FileDiff}

theorem oldPath_clean (formed : file.WellFormed) : '\n' ∉ file.oldPath.toList := by
  intro inside
  exact formed.clean (List.mem_append_left _ (List.mem_append_left _
    (List.mem_append_right _ inside)))

theorem newPath_clean (formed : file.WellFormed) : '\n' ∉ file.newPath.toList := by
  intro inside
  exact formed.clean (List.mem_append_right _ inside)

theorem kind_headerLine (formed : file.WellFormed) :
    LineKind.of file.headerLine = .fileHeader file.oldPath file.newPath := by
  unfold LineKind.of headerLine
  rw [Text.bare_append_newline, Text.bare_of_clean formed.clean formed.unreturned]
  exact LineKind.ofBare_of_fileHeader? formed.header

theorem isFull_headerLine (formed : file.WellFormed) : IsFull file.headerLine :=
  ⟨_, formed.clean, rfl⟩

theorem isFull_notes (formed : file.WellFormed) : ∀ line ∈ file.notes, IsFull line := by
  have newMark : IsFull "new file mode 100644\n".toList :=
    ⟨"new file mode 100644".toList, by decide, rfl⟩
  have deletedMark : IsFull "deleted file mode 100644\n".toList :=
    ⟨"deleted file mode 100644".toList, by decide, rfl⟩
  have oldNone : IsFull "--- /dev/null\n".toList := ⟨"--- /dev/null".toList, by decide, rfl⟩
  have newNone : IsFull "+++ /dev/null\n".toList := ⟨"+++ /dev/null".toList, by decide, rfl⟩
  have oldSide : IsFull ("--- a/".toList ++ file.oldPath.toList ++ ['\n']) := by
    refine ⟨"--- a/".toList ++ file.oldPath.toList, ?_, rfl⟩
    rw [List.mem_append, not_or]
    exact ⟨by decide, formed.oldPath_clean⟩
  have newSide : IsFull ("+++ b/".toList ++ file.newPath.toList ++ ['\n']) := by
    refine ⟨"+++ b/".toList ++ file.newPath.toList, ?_, rfl⟩
    rw [List.mem_append, not_or]
    exact ⟨by decide, formed.newPath_clean⟩
  unfold notes
  cases file.isNew <;> cases file.isDeleted <;>
    simp only [if_true, if_false, Bool.false_eq_true, List.nil_append, List.cons_append,
      List.forall_mem_cons, List.not_mem_nil, false_implies, implies_true, and_true] <;>
    simp only [newMark, deletedMark, oldNone, newNone, oldSide, newSide, and_self]

end WellFormed

end FileDiff

theorem Hunk.WellFormed.content {filePath : String} {hunk : Hunk}
    (formed : hunk.WellFormed filePath) : hunk.content.toList = hunk.lines.flatten := by
  obtain ⟨header, body, made⟩ := formed
  rw [made.lines, made.content]

theorem flatMap_content {filePath : String} {all : List Hunk}
    (formed : ∀ hunk ∈ all, hunk.WellFormed filePath) :
    (all.map Hunk.content).flatMap String.toList = (all.flatMap Hunk.lines).flatten := by
  induction all with
  | nil => rfl
  | cons hunk rest ih =>
      rw [List.map_cons, List.flatMap_cons, List.flatMap_cons, List.flatten_append,
        ih fun other member => formed other (List.mem_cons_of_mem _ member),
        (formed hunk List.mem_cons_self).content]

/-! ## Writing and parsing -/

namespace FileDiff

/-- A file with other hunks, as far as it is written. -/
def withHunks (file : FileDiff) (hunks : List Hunk) : FileDiff :=
  { oldPath := file.oldPath
    newPath := file.newPath
    hunks
    isNew := file.isNew
    isDeleted := file.isDeleted }

def written (file : FileDiff) (hunks : List Hunk) : List Line :=
  if hunks.isEmpty then [] else file.headerLine :: (file.notes ++ hunks.flatMap Hunk.lines)

variable {file : FileDiff} {hunks : List Hunk}

theorem toList_render (formed : ∀ hunk ∈ hunks, hunk.WellFormed file.newPath) :
    (file.render hunks).toList = (file.written hunks).flatten := by
  unfold render written
  split
  · rfl
  · rw [String.toList_append, toList_heading, String.toList_join, flatMap_content formed,
      ← List.flatten_append]
    rfl

theorem isFull_written (formed : file.WellFormed)
    (own : ∀ hunk ∈ hunks, hunk.WellFormed file.newPath) :
    ∀ line ∈ file.written hunks, IsFull line := by
  intro line member
  unfold written at member
  split at member
  · cases member
  · rcases List.mem_cons.1 member with rfl | member
    · exact formed.isFull_headerLine
    · rcases List.mem_append.1 member with note | member
      · exact formed.isFull_notes line note
      · obtain ⟨hunk, among, inside⟩ := List.mem_flatMap.1 member
        exact ((own hunk among).lines inside).1

/-- The notes are marks of new and deleted files and plain lines. -/
theorem describes_of_mem_notes {line : Line} (member : line ∈ file.notes) : Describes line := by
  have among : LineKind.of line ∈ file.notes.map LineKind.of := List.mem_map_of_mem member
  rw [map_kind_notes] at among
  rcases List.mem_append.1 among with marked | plain
  · rcases List.mem_append.1 marked with new | deleted
    · split at new
      · exact Or.inl (List.mem_singleton.1 new)
      · cases new
    · split at deleted
      · exact Or.inr (Or.inl (List.mem_singleton.1 deleted))
      · cases deleted
  · rcases List.mem_cons.1 plain with first | second
    · exact Or.inr (Or.inr first)
    · exact Or.inr (Or.inr (List.mem_singleton.1 second))

/-- The lines below the header of a written file make up the file. -/
theorem file_written (own : ∀ hunk ∈ hunks, hunk.WellFormed file.newPath) :
    Section.file ⟨file.oldPath, file.newPath, file.notes ++ hunks.flatMap Hunk.lines⟩ =
      file.withHunks hunks := by
  rw [file_of_notes file.oldPath (fun _ note => (describes_of_mem_notes note).opensNoHunk) own,
    map_kind_notes]
  unfold withHunks
  cases file.isNew <;> cases file.isDeleted <;> rfl

theorem sections_written (formed : file.WellFormed)
    (own : ∀ hunk ∈ hunks, hunk.WellFormed file.newPath) {rest : List Line}
    (separate : (sections rest).1 = []) :
    sections (file.written hunks ++ rest) =
      ([], (if hunks.isEmpty then []
        else [⟨file.oldPath, file.newPath, file.notes ++ hunks.flatMap Hunk.lines⟩]) ++
          (sections rest).2) := by
  unfold written
  split
  · exact Prod.ext separate rfl
  · rw [sections_notes formed.kind_headerLine
      (fun _ note => (describes_of_mem_notes note).opensNoFile) own separate]
    rfl

end FileDiff

def AllWellFormed (kept : List (FileDiff × List Hunk)) : Prop :=
  ∀ entry ∈ kept, entry.1.WellFormed ∧ ∀ hunk ∈ entry.2, hunk.WellFormed entry.1.newPath

def renderAll (kept : List (FileDiff × List Hunk)) : String :=
  String.join (kept.map fun entry => entry.1.render entry.2)

variable {kept : List (FileDiff × List Hunk)}

theorem AllWellFormed.tail {entry : FileDiff × List Hunk} (formed : AllWellFormed (entry :: kept)) :
    AllWellFormed kept :=
  fun other member => formed other (List.mem_cons_of_mem _ member)

theorem lines_renderAll (formed : AllWellFormed kept) :
    Text.lines (renderAll kept).toList = kept.flatMap fun entry => entry.1.written entry.2 := by
  have whole : (renderAll kept).toList =
      (kept.flatMap fun entry => entry.1.written entry.2).flatten := by
    unfold renderAll
    rw [String.toList_join]
    induction kept with
    | nil => rfl
    | cons entry rest ih =>
        rw [List.map_cons, List.flatMap_cons, List.flatMap_cons, List.flatten_append, ih formed.tail,
          FileDiff.toList_render (formed entry List.mem_cons_self).2]
  rw [whole]
  apply Text.lines_flatten
  intro line member
  obtain ⟨entry, among, inside⟩ := List.mem_flatMap.1 member
  exact FileDiff.isFull_written (formed entry among).1 (formed entry among).2 line inside

theorem sections_renderAll (formed : AllWellFormed kept) :
    sections (kept.flatMap fun entry => entry.1.written entry.2) =
      ([], (kept.filter fun entry => !entry.2.isEmpty).map fun entry =>
        ⟨entry.1.oldPath, entry.1.newPath, entry.1.notes ++ entry.2.flatMap Hunk.lines⟩) := by
  induction kept with
  | nil => rfl
  | cons entry rest ih =>
      have later := ih formed.tail
      obtain ⟨file, own⟩ := formed entry List.mem_cons_self
      rw [List.flatMap_cons, FileDiff.sections_written file own (by rw [later]), later,
        List.filter_cons]
      cases entry.2.isEmpty <;> rfl

/-- Parsing gives the files that were written with hunks, and each with these hunks. -/
theorem parse_renderAll (formed : AllWellFormed kept) :
    parse (renderAll kept) =
      (kept.filter fun entry => !entry.2.isEmpty).map fun entry => entry.1.withHunks entry.2 := by
  unfold parse
  rw [lines_renderAll formed, sections_renderAll formed, List.map_map]
  apply List.map_congr_left
  intro entry member
  exact FileDiff.file_written (formed entry (List.mem_filter.1 member).1).2

/-- Files without hunks are not written. -/
theorem renderAll_filter (kept : List (FileDiff × List Hunk)) :
    renderAll (kept.filter fun entry => !entry.2.isEmpty) = renderAll kept := by
  induction kept with
  | nil => rfl
  | cons entry rest ih =>
      unfold renderAll at ih ⊢
      rw [List.filter_cons, List.map_cons, String.join_cons]
      split
      · rw [List.map_cons, String.join_cons, ih]
      · rename_i filled
        have none : entry.2.isEmpty = true := by simpa using filled
        rw [ih, FileDiff.render, if_pos none, String.empty_append]

/-- A written diff is written again as it is when it has been parsed. -/
theorem renderAll_parse (formed : AllWellFormed kept) :
    renderAll ((parse (renderAll kept)).map fun file => (file, file.hunks)) = renderAll kept := by
  rw [parse_renderAll formed, List.map_map, ← renderAll_filter kept]
  unfold renderAll
  rw [List.map_map]
  rfl

/-! ## Changed lines -/

/-- The path lines look like changes, but they do not count. -/
theorem isChanged_notes {file : FileDiff} {line : Line} (note : line ∈ file.notes) :
    isChanged line = false := by
  have newMark : isChanged "new file mode 100644\n".toList = false := by decide
  have deletedMark : isChanged "deleted file mode 100644\n".toList = false := by decide
  have oldNone : isChanged "--- /dev/null\n".toList = false := by decide
  have newNone : isChanged "+++ /dev/null\n".toList = false := by decide
  have oldSide (path : List Char) : isChanged ("--- a/".toList ++ path ++ ['\n']) = false := by
    simp [isChanged, startsWith]
  have newSide (path : List Char) : isChanged ("+++ b/".toList ++ path ++ ['\n']) = false := by
    simp [isChanged, startsWith]
  unfold FileDiff.notes at note
  revert line
  cases file.isNew <;> cases file.isDeleted <;>
    simp only [if_true, if_false, Bool.false_eq_true, List.nil_append, List.cons_append,
      List.forall_mem_cons, List.not_mem_nil, false_implies, implies_true, and_true] <;>
    simp only [newMark, deletedMark, oldNone, newNone, oldSide, newSide, and_self]

theorem isChanged_of_head {c : Char} (head : c ≠ '+' ∧ c ≠ '-') (rest : List Char) :
    isChanged (c :: rest) = false := by
  simp [isChanged, startsWith, head.1.symm, head.2.symm]

theorem isChanged_headerLine (file : FileDiff) : isChanged file.headerLine = false :=
  isChanged_of_head (by decide : 'd' ≠ '+' ∧ 'd' ≠ '-') _

theorem countP_isChanged_written (file : FileDiff) (hunks : List Hunk) :
    (file.written hunks).countP isChanged = total Hunk.changedLines hunks := by
  have counted : (hunks.flatMap Hunk.lines).countP isChanged = total Hunk.changedLines hunks := by
    induction hunks with
    | nil => rfl
    | cons hunk rest ih =>
        rw [List.flatMap_cons, List.countP_append, ih, total_cons]
        rfl
  have silent : file.notes.countP isChanged = 0 := by
    rw [List.countP_eq_zero]
    intro line note
    rw [isChanged_notes note]
    exact Bool.false_ne_true
  unfold FileDiff.written
  split
  · rename_i empty
    rw [List.isEmpty_iff.1 empty]
    rfl
  · rw [List.countP_cons_of_neg (by rw [isChanged_headerLine]; exact Bool.false_ne_true),
      List.countP_append, silent, Nat.zero_add, counted]

/-- Only the hunks of a written diff have changed lines. -/
theorem changedLines_renderAll (formed : AllWellFormed kept) :
    changedLines (renderAll kept) = total Hunk.changedLines (kept.flatMap Prod.snd) := by
  unfold changedLines
  rw [lines_renderAll formed]
  clear formed
  induction kept with
  | nil => rfl
  | cons entry rest ih =>
      rw [List.flatMap_cons, List.countP_append, ih, countP_isChanged_written, List.flatMap_cons,
        total_append]

end DiffDigest.Diff
