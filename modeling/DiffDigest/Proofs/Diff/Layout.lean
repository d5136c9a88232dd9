import DiffDigest.Proofs.Diff.Kind
import DiffDigest.Proofs.Diff.Rebuild
import Mathlib.Data.List.DropRight
import Mathlib.Data.List.Forall2

/-!
# Where the lines of a diff go

A line is kept in a hunk if a hunk header stands at or above it, below the latest
file header, and it is no mark itself.  What is parsed has the layout of the
text: each file stands for the lines from its header to the next one, and each
of its hunks for the lines from a hunk header to the next.  So the hunks hold the
lines that are kept, each of them once and in their order.
-/

namespace DiffDigest.Diff

open Text (Line IsFull bare complete)

/-! ## Lines that are kept -/

/-- The lines below the latest file header. -/
def belowHeader (front : List Line) : List Line :=
  front.rtakeWhile fun line => ¬ IsFileHeader (bare line)

def InFile (front : List Line) : Prop :=
  ∃ line ∈ front, IsFileHeader (bare line)

/-- The last of these lines opens a hunk of the latest file, or stands below its first one. -/
def InHunk (front : List Line) : Prop :=
  InFile front ∧ ∃ line ∈ belowHeader front, IsHunkHeader (bare line)

instance : DecidablePred InFile := fun front =>
  inferInstanceAs (Decidable (∃ line ∈ front, IsFileHeader (bare line)))

instance : DecidablePred InHunk := fun front =>
  inferInstanceAs (Decidable (InFile front ∧ ∃ line ∈ belowHeader front, IsHunkHeader (bare line)))

/-- The lines that hunks keep, in their order. -/
def keptLines (all : List Line) : List Line :=
  (all.zipIdx.filter fun (line, place) =>
    InHunk (all.take (place + 1)) ∧ ¬ IsMark (bare line)).map Prod.fst

def unmarked (chunk : List Line) : List Line :=
  chunk.filter fun line => ¬ IsMark (bare line)

theorem unmarked_cons {line : Line} (noMark : ¬ IsMark (bare line)) (rest : List Line) :
    unmarked (line :: rest) = line :: unmarked rest :=
  List.filter_cons_of_pos (decide_eq_true noMark)

theorem unmarked_cons_of_isMark {line : Line} (mark : IsMark (bare line)) (rest : List Line) :
    unmarked (line :: rest) = unmarked rest :=
  List.filter_cons_of_neg (by simpa using mark)

/-- Lines that do not open a file leave the latest header where it is. -/
theorem belowHeader_append {chunk : List Line} (below : ∀ line ∈ chunk, ¬ IsFileHeader (bare line))
    (front : List Line) : belowHeader (front ++ chunk) = belowHeader front ++ chunk := by
  induction chunk using List.reverseRecOn with
  | nil => rw [List.append_nil, List.append_nil]
  | append_singleton chunk line ih =>
      obtain ⟨before, here⟩ := List.forall_mem_append.1 below
      rw [← List.append_assoc, belowHeader, List.rtakeWhile_concat_pos, ← belowHeader, ih before,
        List.append_assoc]
      simpa using here

theorem inFile_append {chunk : List Line} (below : ∀ line ∈ chunk, ¬ IsFileHeader (bare line))
    (front : List Line) : InFile (front ++ chunk) ↔ InFile front := by
  unfold InFile
  simp only [List.mem_append, or_and_right, exists_or]
  exact or_iff_left fun ⟨line, member, header⟩ => below line member header

theorem inHunk_append {chunk : List Line} (below : ∀ line ∈ chunk, ¬ IsFileHeader (bare line))
    (front : List Line) :
    InHunk (front ++ chunk) ↔
      InFile front ∧ ∃ line ∈ belowHeader front ++ chunk, IsHunkHeader (bare line) := by
  unfold InHunk
  rw [inFile_append below, belowHeader_append below]

theorem belowHeader_concat_of_isFileHeader {line : Line} (header : IsFileHeader (bare line))
    (front : List Line) : belowHeader (front ++ [line]) = [] := by
  rw [belowHeader, List.rtakeWhile_concat_neg]
  simpa using header

/-- A line is kept or not, whatever stands below it. -/
theorem keptLines_concat (front : List Line) (line : Line) :
    keptLines (front ++ [line]) =
      keptLines front ++ if InHunk (front ++ [line]) ∧ ¬ IsMark (bare line) then [line] else [] := by
  have above : ∀ entry ∈ front.zipIdx,
      decide (InHunk ((front ++ [line]).take (entry.2 + 1)) ∧ ¬ IsMark (bare entry.1)) =
        decide (InHunk (front.take (entry.2 + 1)) ∧ ¬ IsMark (bare entry.1)) := by
    intro entry member
    rw [List.take_append_of_le_length (List.snd_lt_of_mem_zipIdx member)]
  have whole : (front ++ [line]).take (front.length + 1) = front ++ [line] :=
    List.take_of_length_le (by simp)
  unfold keptLines
  rw [List.zipIdx_append, List.filter_append, List.map_append, List.filter_congr above]
  rw [Nat.zero_add, List.zipIdx_singleton, List.filter_singleton]
  dsimp only
  rw [whole]
  by_cases kept : InHunk (front ++ [line]) ∧ ¬ IsMark (bare line)
  · rw [if_pos kept, decide_eq_true kept]
    rfl
  · rw [if_neg kept, decide_eq_false kept]
    rfl

/-- Nothing is kept of lines that end outside of hunks. -/
theorem keptLines_append_of_outside {front chunk : List Line}
    (below : ∀ line ∈ chunk, ¬ IsFileHeader (bare line)) (outside : ¬ InHunk (front ++ chunk)) :
    keptLines (front ++ chunk) = keptLines front := by
  induction chunk using List.reverseRecOn with
  | nil => rw [List.append_nil]
  | append_singleton chunk line ih =>
      have before := (List.forall_mem_append.1 below).1
      have still : ¬ InHunk (front ++ chunk) := by
        rw [inHunk_append before]
        rw [inHunk_append below, ← List.append_assoc] at outside
        rintro ⟨file, header, member, opens⟩
        exact outside ⟨file, header, List.mem_append_left _ member, opens⟩
      rw [← List.append_assoc] at outside ⊢
      rw [keptLines_concat, if_neg fun kept => outside kept.1, List.append_nil, ih before still]

/-- Below a hunk header all lines are kept but for the marks. -/
theorem keptLines_append_of_inside {front chunk : List Line}
    (below : ∀ line ∈ chunk, ¬ IsFileHeader (bare line)) (inside : InHunk front) :
    keptLines (front ++ chunk) = keptLines front ++ unmarked chunk := by
  induction chunk using List.reverseRecOn with
  | nil => rw [unmarked, List.append_nil, List.filter_nil, List.append_nil]
  | append_singleton chunk line ih =>
      have still : InHunk (front ++ (chunk ++ [line])) := by
        obtain ⟨file, header, member, opens⟩ := inside
        exact (inHunk_append below front).2 ⟨file, header, List.mem_append_left _ member, opens⟩
      rw [← List.append_assoc] at still
      have last : (if InHunk (front ++ chunk ++ [line]) ∧ ¬ IsMark (bare line) then [line] else []) =
          unmarked [line] := by
        by_cases mark : IsMark (bare line)
        · rw [if_neg fun kept => kept.2 mark, unmarked_cons_of_isMark mark]
          rfl
        · rw [if_pos ⟨still, mark⟩, unmarked_cons mark]
          rfl
      rw [← List.append_assoc, keptLines_concat, ih (List.forall_mem_append.1 below).1, last,
        unmarked, unmarked, unmarked, List.filter_append, List.append_assoc]

/-! ## Layouts -/

/-- The lines of a hunk as they stand in a diff. -/
structure HunkLayout where
  opening : Line
  behind : List Line

def HunkLayout.lines (layout : HunkLayout) : List Line :=
  layout.opening :: layout.behind

structure FileLayout where
  header : Line
  notes : List Line
  hunks : List HunkLayout

def FileLayout.lines (layout : FileLayout) : List Line :=
  layout.header :: (layout.notes ++ layout.hunks.flatMap HunkLayout.lines)

structure HunkLayout.Holds (filePath : String) (layout : HunkLayout) (hunk : Hunk) : Prop where
  opens : IsHunkHeaderOf hunk.range (bare layout.opening)
  inside : ∀ line ∈ layout.behind, ¬ IsFileHeader (bare line) ∧ ¬ IsHunkHeader (bare line)
  filePath : hunk.filePath = filePath
  content : hunk.content.toList = (unmarked layout.lines).flatMap complete

structure FileLayout.Holds (layout : FileLayout) (file : FileDiff) : Prop where
  header : fileHeader? (bare layout.header) = some (file.oldPath, file.newPath)
  notes : ∀ line ∈ layout.notes, ¬ IsFileHeader (bare line) ∧ ¬ IsHunkHeader (bare line)
  hunks : List.Forall₂ (HunkLayout.Holds file.newPath) layout.hunks file.hunks

theorem opensNoFile_iff (line : Line) : OpensNoFile line ↔ ¬ IsFileHeader (bare line) := by
  rw [← kind_fileHeader_iff]
  simp only [OpensNoFile, not_exists, ne_eq]

theorem isMark_of_hunkLine {line : Line} (below : ¬ IsFileHeader (bare line))
    (noHeader : ∀ range, LineKind.of line ≠ .hunkHeader range)
    (notPlain : LineKind.of line ≠ .plain) : IsMark (bare line) := by
  rw [← isMark_kind_iff]
  have noFile := (opensNoFile_iff line).2 below
  cases kind : LineKind.of line with
  | fileHeader oldPath newPath => exact absurd kind (noFile oldPath newPath)
  | hunkHeader range => exact absurd kind (noHeader range)
  | plain => exact absurd kind notPlain
  | _ => rfl

/-- The lines below a file header are some without a hunk header and those of the hunks. -/
theorem exists_hunkLayouts (filePath : String) {body : List Line}
    (below : ∀ line ∈ body, ¬ IsFileHeader (bare line)) :
    ∃ notes layouts, body = notes ++ layouts.flatMap HunkLayout.lines ∧
      (∀ line ∈ notes, ¬ IsHunkHeader (bare line)) ∧
      (hunks filePath body).1 = unmarked notes ∧
      List.Forall₂ (HunkLayout.Holds filePath) layouts (hunks filePath body).2 := by
  induction body with
  | nil => exact ⟨[], [], rfl, List.forall_mem_nil _, rfl, .nil⟩
  | cons line rest ih =>
      obtain ⟨here, later⟩ := List.forall_mem_cons.1 below
      obtain ⟨notes, layouts, rfl, noHeader, opened, held⟩ := ih later
      rcases hunkLine_cases line with ⟨range, kind⟩ | kind | ⟨notHunk, notPlain⟩
      · -- The hunk takes the lines up to the next hunk header.
        have header := (kind_hunkHeader_iff line range).1 kind
        have first : HunkLayout.Holds filePath ⟨line, notes⟩
            ⟨filePath, range, String.ofList ((line :: unmarked notes).flatMap complete)⟩ :=
          { opens := header
            inside := fun other member =>
              ⟨later other (List.mem_append_left _ member), noHeader other member⟩
            filePath := rfl
            content := by
              rw [HunkLayout.lines, unmarked_cons (not_isMark kind rfl), String.toList_ofList] }
        refine ⟨[], ⟨line, notes⟩ :: layouts, rfl, List.forall_mem_nil _, ?_, ?_⟩
        · rw [hunks_cons_of_hunkHeader kind]
          rfl
        · rw [hunks_cons_of_hunkHeader kind, opened]
          exact .cons first held
      · have noHunk := not_isHunkHeader kind (by simp)
        refine ⟨line :: notes, layouts, rfl, List.forall_mem_cons.2 ⟨noHunk, noHeader⟩, ?_, ?_⟩
        · rw [hunks_cons_of_plain kind, opened, unmarked_cons (not_isMark kind rfl)]
        · rw [hunks_cons_of_plain kind]
          exact held
      · have mark := isMark_of_hunkLine here notHunk notPlain
        have noHunk := not_isHunkHeader rfl notHunk
        refine ⟨line :: notes, layouts, rfl, List.forall_mem_cons.2 ⟨noHunk, noHeader⟩, ?_, ?_⟩
        · rw [hunks_cons_of_mark notHunk notPlain, opened, unmarked_cons_of_isMark mark]
        · rw [hunks_cons_of_mark notHunk notPlain]
          exact held

/-- A diff is some lines without a file header and those of its files. -/
theorem exists_layouts (all : List Line) :
    ∃ layouts, all = (sections all).1 ++ layouts.flatMap FileLayout.lines ∧
      (∀ line ∈ (sections all).1, ¬ IsFileHeader (bare line)) ∧
      List.Forall₂ FileLayout.Holds layouts ((sections all).2.map Section.file) := by
  induction all with
  | nil => exact ⟨[], rfl, List.forall_mem_nil _, .nil⟩
  | cons line rest ih =>
      obtain ⟨layouts, same, below, held⟩ := ih
      rcases opensNoFile_or_fileHeader line with opensNone | ⟨oldPath, newPath, kind⟩
      · rw [sections_cons_of_opensNoFile opensNone]
        have here := (opensNoFile_iff line).1 opensNone
        refine ⟨layouts, ?_, List.forall_mem_cons.2 ⟨here, below⟩, held⟩
        rw [List.cons_append, ← same]
      · -- What stood above the next file header becomes the body of this file.
        obtain ⟨notes, hunkLayouts, body, noHunk, -, hunksHeld⟩ := exists_hunkLayouts newPath below
        rw [sections_cons_of_fileHeader kind]
        refine ⟨⟨line, notes, hunkLayouts⟩ :: layouts, ?_, List.forall_mem_nil _, .cons ?_ held⟩
        · rw [List.flatMap_cons, FileLayout.lines, ← body, List.nil_append, List.cons_append, ← same]
        · refine ⟨LineKind.ofBare_eq_fileHeader kind, fun other member => ⟨?_, noHunk other member⟩,
            hunksHeld⟩
          exact below other (body ▸ List.mem_append_left _ member)

/-! ## Lines that layouts keep -/

namespace HunkLayout.Holds

variable {filePath : String} {layouts : List HunkLayout} {hunks : List Hunk}

/-- A file in which hunks are laid out keeps their lines but for the marks. -/
theorem keptLines_append (held : List.Forall₂ (HunkLayout.Holds filePath) layouts hunks)
    {front : List Line} (file : InFile front) :
    keptLines (front ++ layouts.flatMap HunkLayout.lines) =
      keptLines front ++ layouts.flatMap fun layout => unmarked layout.lines := by
  induction held generalizing front with
  | nil => rw [List.flatMap_nil, List.flatMap_nil, List.append_nil, List.append_nil]
  | @cons layout hunk layouts hunks first _ ih =>
      have header : IsHunkHeader (bare layout.opening) := ⟨_, first.opens⟩
      have kind := (kind_hunkHeader_iff _ _).2 first.opens
      have below : ∀ line ∈ [layout.opening], ¬ IsFileHeader (bare line) :=
        List.forall_mem_singleton.2 (not_isFileHeader kind (by simp))
      have opened : InHunk (front ++ [layout.opening]) :=
        (inHunk_append below front).2
          ⟨file, layout.opening, List.mem_append_right _ List.mem_cons_self, header⟩
      have noMark : ¬ IsMark (bare layout.opening) := not_isMark kind rfl
      have inside := fun line member => (first.inside line member).1
      have still : InFile (front ++ [layout.opening] ++ layout.behind) :=
        (inFile_append inside _).2 opened.1
      have shape : front ++ (layout :: layouts).flatMap HunkLayout.lines =
          front ++ [layout.opening] ++ layout.behind ++ layouts.flatMap HunkLayout.lines := by
        simp only [List.flatMap_cons, HunkLayout.lines, List.append_assoc, List.cons_append,
          List.nil_append]
      rw [shape, ih still, keptLines_append_of_inside inside opened, keptLines_concat,
        if_pos ⟨opened, noMark⟩, List.flatMap_cons, HunkLayout.lines, unmarked_cons noMark]
      simp only [List.append_assoc, List.cons_append, List.nil_append]

theorem contents (held : List.Forall₂ (HunkLayout.Holds filePath) layouts hunks) :
    (hunks.flatMap fun hunk => hunk.content.toList) =
      (layouts.flatMap fun layout => unmarked layout.lines).flatMap complete := by
  induction held with
  | nil => rfl
  | cons first _ ih =>
      rw [List.flatMap_cons, List.flatMap_cons, List.flatMap_append, first.content, ih]

end HunkLayout.Holds

namespace FileLayout

def kept (layout : FileLayout) : List Line :=
  layout.hunks.flatMap fun hunk => unmarked hunk.lines

namespace Holds

variable {layouts : List FileLayout} {files : List FileDiff}

theorem isFileHeader {layout : FileLayout} {file : FileDiff} (held : layout.Holds file) :
    IsFileHeader (bare layout.header) :=
  (exists_fileHeader?_iff _).1 ⟨_, held.header⟩

/-- Files that are laid out keep the lines of their hunks, whatever stands above them. -/
theorem keptLines_append (held : List.Forall₂ Holds layouts files) (front : List Line) :
    keptLines (front ++ layouts.flatMap lines) = keptLines front ++ layouts.flatMap kept := by
  induction held generalizing front with
  | nil => rw [List.flatMap_nil, List.flatMap_nil, List.append_nil, List.append_nil]
  | @cons layout file layouts files first _ ih =>
      have header := first.isFileHeader
      have cleared := belowHeader_concat_of_isFileHeader header front
      have opened : InFile (front ++ [layout.header]) :=
        ⟨layout.header, List.mem_append_right _ List.mem_cons_self, header⟩
      have outside : ¬ InHunk (front ++ [layout.header]) := by
        rintro ⟨-, line, member, -⟩
        rw [cleared] at member
        cases member
      have noFile := fun line member => (first.notes line member).1
      have noHunk : ¬ InHunk (front ++ [layout.header] ++ layout.notes) := by
        rw [inHunk_append noFile, cleared]
        exact fun ⟨_, line, member, opens⟩ => (first.notes line member).2 opens
      have file' : InFile (front ++ [layout.header] ++ layout.notes) :=
        (inFile_append noFile _).2 opened
      have shape : front ++ (layout :: layouts).flatMap lines =
          front ++ [layout.header] ++ layout.notes ++ layout.hunks.flatMap HunkLayout.lines ++
            layouts.flatMap lines := by
        simp only [List.flatMap_cons, lines, List.append_assoc, List.cons_append, List.nil_append]
      rw [shape, ih, HunkLayout.Holds.keptLines_append first.hunks file',
        keptLines_append_of_outside noFile noHunk, keptLines_concat,
        if_neg fun here => outside here.1, List.append_nil, List.append_assoc]
      rfl

theorem contents (held : List.Forall₂ Holds layouts files) :
    ((files.flatMap FileDiff.hunks).flatMap fun hunk => hunk.content.toList) =
      (layouts.flatMap kept).flatMap complete := by
  induction held with
  | nil => rfl
  | cons first _ ih =>
      rw [List.flatMap_cons, List.flatMap_append, List.flatMap_cons, List.flatMap_append, ih,
        HunkLayout.Holds.contents first.hunks]
      rfl

end Holds

end FileLayout

/-! ## Parsed diffs -/

/-- A hunk as a block of lines: a hunk header and lines below it that are no header. -/
structure Hunk.IsBlock (hunk : Hunk) : Prop where
  filled : hunk.content ≠ ""
  ended : hunk.content.toList.getLast? = some '\n'
  lines : ∃ first rest, hunk.lines = first :: rest ∧ IsHunkHeaderOf hunk.range (bare first) ∧
    ¬ IsFileHeader (bare first) ∧
      ∀ line ∈ rest, ¬ IsHunkHeader (bare line) ∧ ¬ IsFileHeader (bare line)

theorem Hunk.WellFormed.isBlock {filePath : String} {hunk : Hunk}
    (formed : hunk.WellFormed filePath) : hunk.IsBlock := by
  obtain ⟨header, body, made⟩ := formed
  have ended : hunk.content.toList.getLast? = some '\n' := by
    rw [made.content, Text.getLast?_flatten (List.cons_ne_nil _ _) made.full]
  refine ⟨?_, ended, header, body, made.lines, (kind_hunkHeader_iff _ _).1 made.opens,
    not_isFileHeader made.opens (by simp), ?_⟩
  · intro empty
    rw [empty] at ended
    cases ended
  · intro line member
    have plain := made.plain line member
    exact ⟨not_isHunkHeader plain (by simp), not_isFileHeader plain (by simp)⟩

/-- Files that were read from these lines, with nothing lost, doubled or moved. -/
structure KeepsLines (all : List Line) (files : List FileDiff) : Prop where
  /-- The hunks hold the lines that are kept, in their order. -/
  contents : ((files.flatMap FileDiff.hunks).flatMap fun hunk => hunk.content.toList) =
    (keptLines all).flatMap complete
  /-- The lines are those of the files below some that belong to none. -/
  layout : ∃ preamble layouts, all = preamble ++ layouts.flatMap FileLayout.lines ∧
    (∀ line ∈ preamble, ¬ IsFileHeader (bare line)) ∧
      List.Forall₂ FileLayout.Holds layouts files
  filePath : ∀ file ∈ files, ∀ hunk ∈ file.hunks, hunk.filePath = file.newPath
  block : ∀ file ∈ files, ∀ hunk ∈ file.hunks, hunk.IsBlock

/-- Whatever a text looks like, parsing it loses, doubles and moves no line of its hunks. -/
theorem parse_keepsLines (text : String) : KeepsLines (Text.lines text.toList) (parse text) := by
  obtain ⟨layouts, same, below, held⟩ := exists_layouts (Text.lines text.toList)
  refine ⟨?_, ⟨_, layouts, same, below, held⟩, fun _ among _ own => filePath_of_mem_parse among own,
    fun _ among hunk own => ((wellFormed_of_mem_parse among).hunks hunk own).isBlock⟩
  have outside : ¬ InHunk ([] ++ (sections (Text.lines text.toList)).1) := by
    rw [inHunk_append below]
    rintro ⟨⟨line, member, -⟩, -⟩
    cases member
  have preamble := keptLines_append_of_outside below outside
  rw [List.nil_append] at preamble
  rw [parse, FileLayout.Holds.contents held]
  conv_rhs => rw [same]
  rw [FileLayout.Holds.keptLines_append held, preamble]
  rfl

/-- What stands above the first hunk header is left out, and so is a mark within a hunk. -/
example :
    keptLines (Text.lines "+x\ndiff --git a/a b/a\n+y\n@@ -1 +1 @@\nnew file mode\n+z".toList) =
      ["@@ -1 +1 @@\n".toList, "+z".toList] := by
  decide

end DiffDigest.Diff
