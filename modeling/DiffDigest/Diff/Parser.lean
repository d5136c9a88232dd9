import DiffDigest.Diff.Line

/-!
# Parsing diffs

A diff is a sequence of sections, one for each file header; lines before the
first header belong to no file.  Within a section each hunk header opens a hunk
that takes all lines up to the next one, except for marks.  Every text can be
parsed.
-/

namespace DiffDigest.Diff

open Text (Line)

structure Hunk where
  /-- The new path of the file. -/
  filePath : String
  range : HunkRange
  /-- The header line and the lines below it, each with its newline. -/
  content : String
deriving DecidableEq, Repr, Inhabited

/-- What a diff says about one file. -/
structure FileDiff where
  oldPath : String
  newPath : String
  hunks : List Hunk := []
  isBinary : Bool := false
  isNew : Bool := false
  isDeleted : Bool := false
  isRenamed : Bool := false
deriving DecidableEq, Repr, Inhabited

/-- A file header and the lines up to the next one. -/
structure Section where
  oldPath : String
  newPath : String
  body : List Line
deriving DecidableEq, Repr

def sections (lines : List Line) : List Line × List Section :=
  -- From the last line on, the open lines are those that wait for the header in front of them.
  lines.foldr (fun line (opened, rest) =>
    match LineKind.of line with
    | .fileHeader old new => ([], ⟨old, new, opened⟩ :: rest)
    | _ => (line :: opened, rest)) ([], [])

/-- The lines before the first hunk header, and the hunks from there on; marks are left out. -/
def hunks (filePath : String) (body : List Line) : List Line × List Hunk :=
  body.foldr (fun line (opened, rest) =>
    match LineKind.of line with
    | .hunkHeader range =>
        let content := (line :: opened).flatMap Text.complete
        ([], ⟨filePath, range, String.ofList content⟩ :: rest)
    | .plain => (line :: opened, rest)
    | _ => (opened, rest)) ([], [])

def Section.file (s : Section) : FileDiff :=
  let marked (kind : LineKind) : Bool := s.body.any fun line => LineKind.of line = kind
  { oldPath := s.oldPath
    newPath := s.newPath
    hunks := (Diff.hunks s.newPath s.body).2
    isBinary := marked .binaryMark
    isNew := marked .newFileMark
    isDeleted := marked .deletedFileMark
    isRenamed := marked .renameMark }

def parse (text : String) : List FileDiff :=
  (sections (Text.lines text.toList)).2.map Section.file

def Hunk.changedLines (hunk : Hunk) : Nat :=
  Diff.changedLines hunk.content

/--
The first and last line of a hunk on the new side; without lines the last one is
before the first.
-/
def Hunk.newRange (hunk : Hunk) : Int × Int :=
  (hunk.range.newStart, hunk.range.newStart + hunk.range.newCount - 1)

end DiffDigest.Diff
