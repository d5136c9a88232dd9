import DiffDigest.Text.Split
import DiffDigest.Text.Utf8

/-!
# Paths

A path is a byte string.  Slashes separate its segments; empty segments and
single dots do not count, double dots do.  A leading slash makes it absolute.
-/

namespace DiffDigest

abbrev Path := Bytes

namespace Path

def slash : UInt8 :=
  47

def dot : UInt8 :=
  46

def segments (path : Path) : List Bytes :=
  (Text.splitOn slash path).filter fun segment => segment ≠ [] && segment ≠ [dot]

def isAbsolute (path : Path) : Bool :=
  path.head? = some slash

def endsInSlash (path : Path) : Bool :=
  path.getLast? = some slash

/-- Whether a path can only lead to a directory, for it ends in a slash or a dot. -/
def namesDirectory (path : Path) : Bool :=
  let last := (Text.splitOn slash path).getLast?
  last = some [] || last = some [dot]

/-- The last segment, unless it leads upward. -/
def fileName? (path : Path) : Option Bytes :=
  (segments path).getLast?.filter (· ≠ [dot, dot])

/-- What follows the last dot of the file name; a dot in front of the name does not count. -/
def extension? (path : Path) : Option Bytes := do
  match Text.splitLast dot (← fileName? path) with
  | (some (_ :: _), extension) => some extension
  | _ => none

def push (base segment : Path) : Path :=
  if base = [] || endsInSlash base then base ++ segment else base ++ slash :: segment

def join (base path : Path) : Path :=
  if isAbsolute path then path else push base path

def ofSegments (segments : List Bytes) : Path :=
  if segments = [] then [slash] else segments.flatMap (slash :: ·)

def parent (path : Path) : Path :=
  ofSegments (segments path).dropLast

/--
The path with its working directory in front and without the segments that do
not count.  Two leading slashes and a trailing one are kept, for they may carry
a meaning.  The empty path names nothing.
-/
def absolute? (workDir path : Path) : Option Path :=
  if path = [] then none
  else
    let start :=
      if !isAbsolute path then workDir
      else if (path.drop 1).head? = some slash && (path.drop 2).head? ≠ some slash then
        [slash, slash]
      else [slash]
    let whole := (segments path).foldl push start
    some (if endsInSlash path then push whole [] else whole)

def shown (path : Path) : String :=
  Utf8.shown path

def ofString (text : String) : Path :=
  Utf8.encode text

/-! ## File URIs -/

def isUriByte (byte : UInt8) : Bool :=
  0x21 ≤ byte && byte ≤ 0x7E &&
    !("\"#<>?\x60\x7b\x7d/%\\".toList.map fun c => c.toNat.toUInt8).contains byte

def hexDigit (n : Nat) : Char :=
  if n < 10 then Char.ofNat ('0'.toNat + n) else Char.ofNat ('A'.toNat + (n - 10))

def uriByte (byte : UInt8) : List Char :=
  if isUriByte byte then [Char.ofNat byte.toNat]
  else ['%', hexDigit (byte.toNat / 16), hexDigit (byte.toNat % 16)]

def uri? (path : Path) : Option String :=
  if isAbsolute path then
    let body := (segments path).flatMap fun segment => '/' :: segment.flatMap uriByte
    some (String.ofList ("file://".toList ++ if body.isEmpty then ['/'] else body))
  else none

/-- An absolute path has a URI. -/
theorem uri?_isSome_iff (path : Path) : (uri? path).isSome = true ↔ isAbsolute path = true := by
  unfold uri?
  split <;> simp_all

end Path

end DiffDigest
