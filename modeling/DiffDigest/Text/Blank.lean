import DiffDigest.Text.CodePoint

/-!
# Blank characters

A character is blank when it has the Unicode property `White_Space`.  Trimming
drops blanks from the ends of a text and never from its inside.
-/

namespace DiffDigest.Text

/-- The code points with the property `White_Space`. -/
def blankRanges : Ranges :=
  [(0x9, 0xD), (0x20, 0x20), (0x85, 0x85), (0xA0, 0xA0), (0x1680, 0x1680),
    (0x2000, 0x200A), (0x2028, 0x2029), (0x202F, 0x202F), (0x205F, 0x205F),
    (0x3000, 0x3000)]

def isBlank (c : Char) : Bool :=
  blankRanges.contains c

def dropRightWhile (p : Char → Bool) (text : List Char) : List Char :=
  (text.reverse.dropWhile p).reverse

def trim (text : List Char) : List Char :=
  dropRightWhile isBlank (text.dropWhile isBlank)

theorem dropRightWhile_concat_of_pos {p : Char → Bool} {c : Char} (h : p c = true)
    (text : List Char) : dropRightWhile p (text ++ [c]) = dropRightWhile p text := by
  simp [dropRightWhile, h]

theorem dropRightWhile_concat_of_neg {p : Char → Bool} {c : Char} (h : p c = false)
    (text : List Char) : dropRightWhile p (text ++ [c]) = text ++ [c] := by
  simp [dropRightWhile, h]

end DiffDigest.Text
