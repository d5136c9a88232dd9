import DiffDigest.Proofs.Diff.Header

/-!
# Sections and hunks of parsed diffs

Each file that is parsed keeps the paths of one header, and each of its hunks is
a hunk header with plain lines below it.  Conversely such lines are parsed into
this hunk again, whatever hunks follow.
-/

namespace DiffDigest.Diff

open Text (Line IsFull bare)

/-! ## Sections -/

def OpensNoFile (line : Line) : Prop :=
  ∀ oldPath newPath, LineKind.of line ≠ .fileHeader oldPath newPath

theorem opensNoFile_or_fileHeader (line : Line) :
    OpensNoFile line ∨ ∃ oldPath newPath, LineKind.of line = .fileHeader oldPath newPath := by
  cases kind : LineKind.of line with
  | fileHeader oldPath newPath => exact Or.inr ⟨oldPath, newPath, rfl⟩
  | _ => exact Or.inl fun oldPath newPath same => by rw [kind] at same; cases same

theorem sections_cons_of_fileHeader {line : Line} {oldPath newPath : String}
    (kind : LineKind.of line = .fileHeader oldPath newPath) (rest : List Line) :
    sections (line :: rest) =
      ([], ⟨oldPath, newPath, (sections rest).1⟩ :: (sections rest).2) := by
  rw [sections, List.foldr_cons]
  simp only [kind]
  rfl

theorem sections_cons_of_opensNoFile {line : Line} (below : OpensNoFile line)
    (rest : List Line) :
    sections (line :: rest) = (line :: (sections rest).1, (sections rest).2) := by
  rw [sections, List.foldr_cons]
  dsimp only
  split
  · rename_i kind
    exact absurd kind (below _ _)
  · rfl

theorem sections_append_of_opensNoFile {body : List Line}
    (below : ∀ line ∈ body, OpensNoFile line) (rest : List Line) :
    sections (body ++ rest) = (body ++ (sections rest).1, (sections rest).2) := by
  induction body with
  | nil => rfl
  | cons line body ih =>
      rw [List.cons_append, sections_cons_of_opensNoFile (below line List.mem_cons_self),
        ih fun other member => below other (List.mem_cons_of_mem _ member)]
      rfl

/-- Whatever is open, a file header closes it. -/
theorem sections_append {rest : List Line} (separate : (sections rest).1 = []) (front : List Line) :
    sections (front ++ rest) = ((sections front).1, (sections front).2 ++ (sections rest).2) := by
  induction front with
  | nil => exact Prod.ext separate rfl
  | cons line front ih =>
      rw [List.cons_append]
      rcases opensNoFile_or_fileHeader line with below | ⟨oldPath, newPath, kind⟩
      · rw [sections_cons_of_opensNoFile below, sections_cons_of_opensNoFile below, ih]
      · rw [sections_cons_of_fileHeader kind, sections_cons_of_fileHeader kind, ih]
        rfl

theorem mem_of_mem_opened {all : List Line} {line : Line}
    (member : line ∈ (sections all).1) : line ∈ all := by
  induction all with
  | nil => exact member
  | cons first rest ih =>
      rcases opensNoFile_or_fileHeader first with below | ⟨oldPath, newPath, kind⟩
      · rw [sections_cons_of_opensNoFile below] at member
        rcases List.mem_cons.1 member with rfl | member
        · exact List.mem_cons_self
        · exact List.mem_cons_of_mem _ (ih member)
      · rw [sections_cons_of_fileHeader kind] at member
        cases member

/-- A section has its header and its body among the lines that are cut. -/
theorem lines_of_mem_sections {all : List Line} {s : Section} (member : s ∈ (sections all).2) :
    (∃ line ∈ all, LineKind.of line = .fileHeader s.oldPath s.newPath) ∧
      ∀ line ∈ s.body, line ∈ all := by
  induction all with
  | nil => cases member
  | cons first rest ih =>
      have later (inside : s ∈ (sections rest).2) :
          (∃ line ∈ first :: rest, LineKind.of line = .fileHeader s.oldPath s.newPath) ∧
            ∀ line ∈ s.body, line ∈ first :: rest := by
        obtain ⟨⟨line, among, kind⟩, body⟩ := ih inside
        exact ⟨⟨line, List.mem_cons_of_mem _ among, kind⟩,
          fun other below => List.mem_cons_of_mem _ (body other below)⟩
      rcases opensNoFile_or_fileHeader first with below | ⟨oldPath, newPath, kind⟩
      · rw [sections_cons_of_opensNoFile below] at member
        exact later member
      · rw [sections_cons_of_fileHeader kind] at member
        rcases List.mem_cons.1 member with rfl | member
        · exact ⟨⟨first, List.mem_cons_self, kind⟩,
            fun line inside => List.mem_cons_of_mem _ (mem_of_mem_opened inside)⟩
        · exact later member

theorem sections_map {change : Line → Line} {all : List Line}
    (same : ∀ line ∈ all, LineKind.of (change line) = LineKind.of line) :
    sections (all.map change) =
      ((sections all).1.map change,
        (sections all).2.map fun s => { s with body := s.body.map change }) := by
  induction all with
  | nil => rfl
  | cons line rest ih =>
      have here := same line List.mem_cons_self
      have later := ih fun other member => same other (List.mem_cons_of_mem _ member)
      rw [List.map_cons]
      rcases opensNoFile_or_fileHeader line with below | ⟨oldPath, newPath, kind⟩
      · have still : OpensNoFile (change line) := by
          intro oldPath newPath
          rw [here]
          exact below oldPath newPath
        rw [sections_cons_of_opensNoFile still, sections_cons_of_opensNoFile below, later]
        rfl
      · rw [sections_cons_of_fileHeader (here.trans kind), sections_cons_of_fileHeader kind, later]
        rfl

/-! ## Hunks -/

theorem hunks_cons_of_hunkHeader {line : Line} {range : HunkRange}
    (kind : LineKind.of line = .hunkHeader range) (filePath : String) (rest : List Line) :
    hunks filePath (line :: rest) =
      ([], ⟨filePath, range,
        String.ofList ((line :: (hunks filePath rest).1).flatMap Text.complete)⟩ ::
          (hunks filePath rest).2) := by
  rw [hunks, List.foldr_cons]
  simp only [kind]
  rfl

theorem hunks_cons_of_plain {line : Line} (kind : LineKind.of line = .plain)
    (filePath : String) (rest : List Line) :
    hunks filePath (line :: rest) =
      (line :: (hunks filePath rest).1, (hunks filePath rest).2) := by
  rw [hunks, List.foldr_cons]
  simp only [kind]
  rfl

/-- A mark is left out. -/
theorem hunks_cons_of_mark {line : Line} (noHeader : ∀ range, LineKind.of line ≠ .hunkHeader range)
    (notPlain : LineKind.of line ≠ .plain) (filePath : String) (rest : List Line) :
    hunks filePath (line :: rest) = hunks filePath rest := by
  rw [hunks, List.foldr_cons]
  dsimp only
  split
  · rename_i kind
    exact absurd kind (noHeader _)
  · rename_i kind
    exact absurd kind notPlain
  · rfl

/-- What a line does to the hunks behind it. -/
theorem hunkLine_cases (line : Line) :
    (∃ range, LineKind.of line = .hunkHeader range) ∨ LineKind.of line = .plain ∨
      ((∀ range, LineKind.of line ≠ .hunkHeader range) ∧ LineKind.of line ≠ .plain) := by
  cases kind : LineKind.of line with
  | hunkHeader range => exact Or.inl ⟨range, rfl⟩
  | plain => exact Or.inr (Or.inl rfl)
  | _ => exact Or.inr (Or.inr ⟨fun range same => (nomatch same), fun same => (nomatch same)⟩)

/-- Lines without a hunk header open no hunk. -/
theorem hunks_append_of_noHeader {front : List Line}
    (noHeader : ∀ line ∈ front, ∀ range, LineKind.of line ≠ .hunkHeader range)
    (filePath : String) (rest : List Line) :
    (hunks filePath (front ++ rest)).2 = (hunks filePath rest).2 := by
  induction front with
  | nil => rfl
  | cons line front ih =>
      have later := ih fun other member => noHeader other (List.mem_cons_of_mem _ member)
      rw [List.cons_append, ← later]
      rcases hunkLine_cases line with ⟨range, kind⟩ | kind | ⟨here, notPlain⟩
      · exact absurd kind (noHeader line List.mem_cons_self range)
      · rw [hunks_cons_of_plain kind]
      · rw [hunks_cons_of_mark here notPlain]

theorem plain_of_mem_opened {filePath : String} {body : List Line} {line : Line}
    (member : line ∈ (hunks filePath body).1) : LineKind.of line = .plain ∧ line ∈ body := by
  induction body with
  | nil => cases member
  | cons first rest ih =>
      rcases hunkLine_cases first with ⟨range, kind⟩ | kind | ⟨noHeader, notPlain⟩
      · rw [hunks_cons_of_hunkHeader kind] at member
        cases member
      · rw [hunks_cons_of_plain kind] at member
        rcases List.mem_cons.1 member with rfl | member
        · exact ⟨kind, List.mem_cons_self⟩
        · exact ⟨(ih member).1, List.mem_cons_of_mem _ (ih member).2⟩
      · rw [hunks_cons_of_mark noHeader notPlain] at member
        exact ⟨(ih member).1, List.mem_cons_of_mem _ (ih member).2⟩

/-! ## Lines that are written in another way -/

def Hunk.respelled (spell : Char → List Char) (hunk : Hunk) : Hunk :=
  { hunk with content := String.ofList (hunk.content.toList.flatMap spell) }

def FileDiff.respelled (spell : Char → List Char) (file : FileDiff) : FileDiff :=
  { file with hunks := file.hunks.map (Hunk.respelled spell) }

theorem Hunk.respelled_singleton (hunk : Hunk) : hunk.respelled (fun c => [c]) = hunk := by
  rw [respelled, List.flatMap_singleton', String.ofList_toList]

theorem FileDiff.respelled_singleton (file : FileDiff) : file.respelled (fun c => [c]) = file := by
  rw [respelled, List.map_congr_left fun hunk _ => hunk.respelled_singleton, List.map_id']

/--
A change of lines that leaves their kinds as they are and spells completed lines
anew, character by character.
-/
structure Respells (change : Line → Line) (spell : Char → List Char) (line : Line) : Prop where
  kind : LineKind.of (change line) = LineKind.of line
  completed : Text.complete (change line) = (Text.complete line).flatMap spell

section Respelling

variable {change : Line → Line} {spell : Char → List Char} {body : List Line}

theorem flatMap_complete_respelled (each : ∀ line ∈ body, Respells change spell line) :
    (body.map change).flatMap Text.complete = (body.flatMap Text.complete).flatMap spell := by
  rw [List.flatMap_map, List.flatMap_assoc, List.flatMap_def, List.flatMap_def,
    List.map_congr_left fun line member => (each line member).completed]

/-- The hunks of such lines are the hunks of the lines, spelled anew. -/
theorem hunks_map (filePath : String) (each : ∀ line ∈ body, Respells change spell line) :
    hunks filePath (body.map change) =
      ((hunks filePath body).1.map change, (hunks filePath body).2.map (Hunk.respelled spell)) := by
  induction body with
  | nil => rfl
  | cons line rest ih =>
      have same := (each line List.mem_cons_self).kind
      have later := ih fun other member => each other (List.mem_cons_of_mem _ member)
      rw [List.map_cons]
      rcases hunkLine_cases line with ⟨range, kind⟩ | kind | ⟨noHeader, notPlain⟩
      · have opened : ∀ other ∈ line :: (hunks filePath rest).1, Respells change spell other := by
          intro other member
          rcases List.mem_cons.1 member with rfl | below
          · exact each other List.mem_cons_self
          · exact each other (List.mem_cons_of_mem _ (plain_of_mem_opened below).2)
        have content := flatMap_complete_respelled opened
        rw [hunks_cons_of_hunkHeader (same.trans kind), hunks_cons_of_hunkHeader kind, later,
          ← List.map_cons, content, List.map_cons, Hunk.respelled, String.toList_ofList]
        rfl
      · rw [hunks_cons_of_plain (same.trans kind), hunks_cons_of_plain kind, later]
        rfl
      · rw [hunks_cons_of_mark (by rw [same]; exact noHeader) (by rw [same]; exact notPlain),
          hunks_cons_of_mark noHeader notPlain, later]

theorem file_map {s : Section} (each : ∀ line ∈ s.body, Respells change spell line) :
    Section.file { s with body := s.body.map change } = s.file.respelled spell := by
  have kinds : (s.body.map change).map LineKind.of = s.body.map LineKind.of := by
    rw [List.map_map]
    exact List.map_congr_left fun line member => (each line member).kind
  have marked (kind : LineKind) :
      ((s.body.map change).any fun line => decide (LineKind.of line = kind)) =
        s.body.any fun line => decide (LineKind.of line = kind) := by
    have seen := congrArg (List.any · fun other => decide (other = kind)) kinds
    simpa only [List.any_map, Function.comp_def] using seen
  unfold Section.file FileDiff.respelled
  dsimp only
  rw [marked, marked, marked, marked, hunks_map s.newPath each]

/-- The files of such lines are the files of the lines, with their hunks spelled anew. -/
theorem map_file_sections {all : List Line} (each : ∀ line ∈ all, Respells change spell line) :
    (sections (all.map change)).2.map Section.file =
      ((sections all).2.map Section.file).map (FileDiff.respelled spell) := by
  rw [sections_map fun line member => (each line member).kind, List.map_map, List.map_map]
  apply List.map_congr_left
  intro s member
  exact file_map fun line below => each line ((lines_of_mem_sections member).2 line below)

end Respelling

theorem respells_complete (line : Line) : Respells Text.complete (fun c => [c]) line where
  kind := LineKind.of_complete line
  completed := by rw [Text.complete_complete, List.flatMap_singleton']

/-- A newline that is missing at the end of a diff makes no difference. -/
theorem parse_complete (text : List Char) :
    parse (String.ofList (Text.complete text)) = parse (String.ofList text) := by
  unfold parse
  rw [String.toList_ofList, String.toList_ofList]
  by_cases none : text = []
  · rw [none]
    decide
  · rw [Text.lines_complete none, map_file_sections fun line _ => respells_complete line,
      List.map_congr_left fun file _ => file.respelled_singleton, List.map_id']

/-! ## Hunks as they are parsed -/

structure IsHunk (filePath : String) (header : Line) (body : List Line) (hunk : Hunk) : Prop where
  filePath : hunk.filePath = filePath
  content : hunk.content.toList = (header :: body).flatten
  opens : LineKind.of header = .hunkHeader hunk.range
  plain : ∀ line ∈ body, LineKind.of line = .plain
  full : ∀ line ∈ header :: body, IsFull line

/-- A hunk of a file as it is parsed: a hunk header and plain lines below it. -/
def Hunk.WellFormed (filePath : String) (hunk : Hunk) : Prop :=
  ∃ header body, IsHunk filePath header body hunk

def Hunk.lines (hunk : Hunk) : List Line :=
  Text.lines hunk.content.toList

namespace IsHunk

variable {filePath : String} {header : Line} {body : List Line} {hunk : Hunk}

theorem lines (made : IsHunk filePath header body hunk) : hunk.lines = header :: body := by
  rw [Hunk.lines, made.content, Text.lines_flatten made.full]

/-- Completing the lines of a hunk changes nothing. -/
theorem flatMap_complete (made : IsHunk filePath header body hunk) :
    (header :: body).flatMap Text.complete = hunk.content.toList := by
  have same : (header :: body).map Text.complete = (header :: body).map id :=
    List.map_congr_left fun line member => (made.full line member).complete
  rw [made.content, List.flatMap_def, same, List.map_id]

/-- The lines of a hunk are parsed into the hunk itself, if another or none follows. -/
theorem hunks_append (made : IsHunk filePath header body hunk) {rest : List Line}
    (separate : (Diff.hunks filePath rest).1 = []) :
    Diff.hunks filePath (hunk.lines ++ rest) = ([], hunk :: (Diff.hunks filePath rest).2) := by
  have opened : ∀ {lines : List Line}, (∀ line ∈ lines, LineKind.of line = .plain) →
      Diff.hunks filePath (lines ++ rest) = (lines, (Diff.hunks filePath rest).2) := by
    intro lines plain
    induction lines with
    | nil => exact Prod.ext separate rfl
    | cons line lines ih =>
        rw [List.cons_append, hunks_cons_of_plain (plain line List.mem_cons_self),
          ih fun other member => plain other (List.mem_cons_of_mem _ member)]
  rw [made.lines, List.cons_append, hunks_cons_of_hunkHeader made.opens, opened made.plain,
    made.flatMap_complete, String.ofList_toList, ← made.filePath]

end IsHunk

/-- The hunks of a file are parsed from their lines. -/
theorem hunks_flatMap_lines {filePath : String} {all : List Hunk}
    (formed : ∀ hunk ∈ all, hunk.WellFormed filePath) :
    hunks filePath (all.flatMap Hunk.lines) = ([], all) := by
  induction all with
  | nil => rfl
  | cons hunk rest ih =>
      obtain ⟨header, body, made⟩ := formed hunk List.mem_cons_self
      have later := ih fun other member => formed other (List.mem_cons_of_mem _ member)
      rw [List.flatMap_cons, made.hunks_append (by rw [later]), later]

/-- The lines of parsed hunks are full, and none of them opens a file or marks one. -/
theorem Hunk.WellFormed.lines {filePath : String} {hunk : Hunk} (formed : hunk.WellFormed filePath)
    {line : Line} (member : line ∈ hunk.lines) :
    IsFull line ∧ ((∃ range, LineKind.of line = .hunkHeader range) ∨ LineKind.of line = .plain) := by
  obtain ⟨header, body, made⟩ := formed
  rw [made.lines] at member
  refine ⟨made.full line member, ?_⟩
  rcases List.mem_cons.1 member with rfl | below
  · exact Or.inl ⟨_, made.opens⟩
  · exact Or.inr (made.plain line below)

/-- A line that describes a file: it marks the file as new or as deleted, or is plain. -/
def Describes (line : Line) : Prop :=
  LineKind.of line = .newFileMark ∨ LineKind.of line = .deletedFileMark ∨ LineKind.of line = .plain

theorem Describes.opensNoFile {line : Line} (describes : Describes line) : OpensNoFile line := by
  intro oldPath newPath kind
  rcases describes with other | other | other <;>
    · rw [kind] at other
      cases other

theorem Describes.opensNoHunk {line : Line} (describes : Describes line) (range : HunkRange) :
    LineKind.of line ≠ .hunkHeader range := by
  intro kind
  rcases describes with other | other | other <;>
    · rw [kind] at other
      cases other

section Notes

variable {filePath : String} {notes : List Line} {hunks : List Hunk}

/-- The lines of hunks are hunk headers and plain lines. -/
theorem kind_of_mem_hunks (own : ∀ hunk ∈ hunks, hunk.WellFormed filePath) {line : Line}
    (member : line ∈ hunks.flatMap Hunk.lines) :
    (∃ range, LineKind.of line = .hunkHeader range) ∨ LineKind.of line = .plain := by
  obtain ⟨hunk, among, inside⟩ := List.mem_flatMap.1 member
  exact ((own hunk among).lines inside).2

/-- Whether a file is marked can be seen from the lines in front of its hunks. -/
theorem any_kind_notes (own : ∀ hunk ∈ hunks, hunk.WellFormed filePath) {mark : LineKind}
    (noHeader : ∀ range, mark ≠ .hunkHeader range) (notPlain : mark ≠ .plain) :
    ((notes ++ hunks.flatMap Hunk.lines).any fun line => decide (LineKind.of line = mark)) =
      (notes.map LineKind.of).any fun kind => decide (kind = mark) := by
  have unmarked :
      ((hunks.flatMap Hunk.lines).any fun line => decide (LineKind.of line = mark)) = false := by
    rw [List.any_eq_false]
    intro line member same
    rcases kind_of_mem_hunks own member with ⟨range, kind⟩ | kind
    · exact noHeader range (kind ▸ (of_decide_eq_true same).symm)
    · exact notPlain (kind ▸ (of_decide_eq_true same).symm)
  rw [List.any_append, unmarked, Bool.or_false, List.any_map]
  rfl

/-- Lines in front of hunks say how the file is marked, and the hunks are the file's hunks. -/
theorem file_of_notes (oldPath : String)
    (unopened : ∀ line ∈ notes, ∀ range, LineKind.of line ≠ .hunkHeader range)
    (own : ∀ hunk ∈ hunks, hunk.WellFormed filePath) :
    Section.file ⟨oldPath, filePath, notes ++ hunks.flatMap Hunk.lines⟩ =
      { oldPath
        newPath := filePath
        hunks
        isBinary := (notes.map LineKind.of).any fun kind => decide (kind = .binaryMark)
        isNew := (notes.map LineKind.of).any fun kind => decide (kind = .newFileMark)
        isDeleted := (notes.map LineKind.of).any fun kind => decide (kind = .deletedFileMark)
        isRenamed := (notes.map LineKind.of).any fun kind => decide (kind = .renameMark) } := by
  unfold Section.file
  dsimp only
  rw [any_kind_notes own (by simp) (by simp), any_kind_notes own (by simp) (by simp),
    any_kind_notes own (by simp) (by simp), any_kind_notes own (by simp) (by simp),
    hunks_append_of_noHeader unopened, hunks_flatMap_lines own]

/-- Below a header, lines that open no file and parsed hunks make up one section. -/
theorem sections_notes {header : Line} {oldPath : String}
    (kind : LineKind.of header = .fileHeader oldPath filePath)
    (below : ∀ line ∈ notes, OpensNoFile line) (own : ∀ hunk ∈ hunks, hunk.WellFormed filePath)
    {rest : List Line} (separate : (sections rest).1 = []) :
    sections (header :: (notes ++ hunks.flatMap Hunk.lines) ++ rest) =
      ([], ⟨oldPath, filePath, notes ++ hunks.flatMap Hunk.lines⟩ :: (sections rest).2) := by
  have inside : ∀ line ∈ notes ++ hunks.flatMap Hunk.lines, OpensNoFile line := by
    intro line member
    rcases List.mem_append.1 member with note | member
    · exact below line note
    · intro oldPath newPath opens
      rcases kind_of_mem_hunks own member with ⟨range, other⟩ | other <;>
        · rw [opens] at other
          cases other
  rw [List.cons_append, sections_cons_of_fileHeader kind, sections_append_of_opensNoFile inside,
    separate, List.append_nil]

end Notes

/-- Every hunk that is parsed is a hunk header with plain lines below it. -/
theorem wellFormed_of_mem_hunks {filePath : String} {body : List Line}
    (full : ∀ line ∈ body, IsFull (Text.complete line)) {hunk : Hunk}
    (member : hunk ∈ (hunks filePath body).2) : hunk.WellFormed filePath := by
  induction body with
  | nil => cases member
  | cons first rest ih =>
      have later := ih fun line inside => full line (List.mem_cons_of_mem _ inside)
      rcases hunkLine_cases first with ⟨range, kind⟩ | kind | ⟨noHeader, notPlain⟩
      · rw [hunks_cons_of_hunkHeader kind] at member
        rcases List.mem_cons.1 member with rfl | member
        · refine ⟨Text.complete first, (hunks filePath rest).1.map Text.complete, rfl, ?_, ?_, ?_, ?_⟩
          · rw [String.toList_ofList, List.flatMap_def, List.map_cons]
          · rw [LineKind.of_complete]
            exact kind
          · intro line inside
            obtain ⟨raw, opened, rfl⟩ := List.mem_map.1 inside
            rw [LineKind.of_complete]
            exact (plain_of_mem_opened opened).1
          · intro line inside
            rcases List.mem_cons.1 inside with rfl | inside
            · exact full first List.mem_cons_self
            · obtain ⟨raw, opened, rfl⟩ := List.mem_map.1 inside
              exact full raw (List.mem_cons_of_mem _ (plain_of_mem_opened opened).2)
        · exact later member
      · rw [hunks_cons_of_plain kind] at member
        exact later member
      · rw [hunks_cons_of_mark noHeader notPlain] at member
        exact later member

end DiffDigest.Diff
