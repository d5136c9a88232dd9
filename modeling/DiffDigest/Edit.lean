import DiffDigest.Json.Record
import DiffDigest.Total
import DiffDigest.Word

/-!
# Text edits

An edit replaces a range of a document.  Positions count lines and, within a
line, UTF-16 units, both from zero.
-/

namespace DiffDigest

structure Position where
  line : Nat
  character : Nat
deriving DecidableEq, Repr, Inhabited

structure Range where
  first : Position
  last : Position
deriving DecidableEq, Repr, Inhabited

structure TextEdit where
  range : Range
  newText : String
deriving DecidableEq, Repr, Inhabited

def Position.bound : Nat :=
  Word.size32

def Position.ofJson? (json : Json) : Option Position := do
  match ← json.record? ["line", "character"] with
  | [line, character] =>
      pure ⟨← Json.required? (Json.natBelow? bound) line,
        ← Json.required? (Json.natBelow? bound) character⟩
  | _ => none

def Range.ofJson? (json : Json) : Option Range := do
  match ← json.record? ["start", "end"] with
  | [first, last] =>
      pure ⟨← Json.required? Position.ofJson? first, ← Json.required? Position.ofJson? last⟩
  | _ => none

def TextEdit.ofJson? (json : Json) : Option TextEdit := do
  match ← json.record? ["range", "newText"] with
  | [range, newText] =>
      pure ⟨← Json.required? Range.ofJson? range, ← Json.required? Json.string? newText⟩
  | _ => none

def Position.toJson (position : Position) : Json :=
  .object [("character", .integer position.character), ("line", .integer position.line)]

def Range.toJson (range : Range) : Json :=
  .object [("end", range.last.toJson), ("start", range.first.toJson)]

def TextEdit.toJson (edit : TextEdit) : Json :=
  .object [("newText", .string edit.newText), ("range", edit.range.toJson)]

def utf16Units (c : Char) : Nat :=
  if c.toNat < 0x10000 then 1 else 2

def lastLine (text : List Char) : List Char :=
  (text.reverse.takeWhile (· ≠ '\n')).reverse

def Position.atEnd (text : List Char) : Position :=
  { line := text.count '\n' % bound
    character := total utf16Units (lastLine text) % bound }

def Range.whole (text : String) : Range :=
  ⟨⟨0, 0⟩, Position.atEnd text.toList⟩

end DiffDigest
