import DiffDigest.Text.Digit
import DiffDigest.Text.Line
import DiffDigest.Word

/-!
# Lines of a diff

What a line of a unified diff says by itself: it opens a file, marks a file as
binary, new, deleted or renamed, opens a hunk, or is plain.  Carriage returns at
the end of a line do not count.
-/

namespace DiffDigest.Diff

open Text (Line)

/-- The lines that a hunk covers on the old and on the new side. -/
structure HunkRange where
  oldStart : Nat
  oldCount : Nat
  newStart : Nat
  newCount : Nat
deriving DecidableEq, Repr, Inhabited

inductive LineKind where
  | fileHeader (oldPath newPath : String)
  | binaryMark
  | newFileMark
  | deletedFileMark
  | renameMark
  | hunkHeader (range : HunkRange)
  | plain
deriving DecidableEq, Repr

/-! ## File headers -/

/--
Split at the last ` b/` with something behind it.  The text is read from its
end; what was read so far is the part behind.
-/
def splitPaths (behind : List Char) : List Char → Option (List Char × List Char)
  | [] => none
  | c :: front =>
      if c = '/' && ['b', ' '].isPrefixOf front && !behind.isEmpty then
        some ((front.drop 2).reverse, behind)
      else splitPaths (c :: behind) front

def fileHeader? (line : List Char) : Option (String × String) :=
  let opening := "diff --git a/".toList
  if opening.isPrefixOf line then
    match splitPaths [] (line.drop opening.length).reverse with
    | some (c :: old, new) => some (String.ofList (c :: old), String.ofList new)
    | _ => none
  else none

/-! ## Hunk headers -/

def after? (expected text : List Char) : Option (List Char) :=
  if expected.isPrefixOf text then some (text.drop expected.length) else none

def digits? (text : List Char) : Option (List Char × List Char) :=
  match text.takeWhile Text.isDigit with
  | [] => none
  | digits => some (digits, text.dropWhile Text.isDigit)

/-- The value of a run of digits; 1 where it has none of 32 bits. -/
def number (digits : List Char) : Nat :=
  ((Text.decimal? digits).filter (· < Word.size32)).getD 1

def span? (text : List Char) : Option ((Nat × Nat) × List Char) := do
  let (start, rest) ← digits? text
  match rest with
  | ',' :: behind =>
      let (count, rest) ← digits? behind
      pure ((number start, number count), rest)
  | _ => pure ((number start, 1), rest)

def hunkHeader? (line : List Char) : Option HunkRange := do
  let (old, rest) ← span? (← after? "@@ -".toList line)
  let (new, rest) ← span? (← after? " +".toList rest)
  let _ ← after? " @@".toList rest
  pure ⟨old.1, old.2, new.1, new.2⟩

/-! ## Marks -/

def isBinaryNote (line : List Char) : Bool :=
  let opening := "Binary files ".toList
  let closing := " differ".toList
  opening.isPrefixOf line && closing.isSuffixOf line &&
    opening.length + closing.length < line.length

def startsWith (opening : String) (line : List Char) : Bool :=
  opening.toList.isPrefixOf line

/-- What a line says; a file header is looked for first, a hunk header last. -/
def LineKind.ofBare (line : List Char) : LineKind :=
  match fileHeader? line with
  | some (old, new) => .fileHeader old new
  | none =>
      if isBinaryNote line then .binaryMark
      else if startsWith "new file mode" line then .newFileMark
      else if startsWith "deleted file mode" line then .deletedFileMark
      else if startsWith "rename from " line || startsWith "rename to " line then .renameMark
      else match hunkHeader? line with
        | some range => .hunkHeader range
        | none => .plain

def LineKind.of (line : Line) : LineKind :=
  .ofBare (Text.bare line)

/-! ## Changed lines -/

/-- An added or removed line; the path lines of a file are neither. -/
def isChanged (line : List Char) : Bool :=
  (startsWith "+" line && !startsWith "+++" line) ||
    (startsWith "-" line && !startsWith "---" line)

def changedLines (text : String) : Nat :=
  (Text.lines text.toList).countP isChanged

end DiffDigest.Diff
