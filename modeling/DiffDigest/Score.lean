import DiffDigest.Category
import DiffDigest.Diff.Parser
import DiffDigest.Outline.Kind
import DiffDigest.Text.Uppercase
import DiffDigest.Word

/-!
# Scores

A hunk counts as much as the weightiest symbol that it touches, a little more
for every changed line, and all that times the multiplier of its file's
category.
-/

namespace DiffDigest

open Diff (Hunk FileDiff)

def SymbolKind.weight : SymbolKind → Nat
  | .function | .method => 100
  | .classType | .structType | .interfaceType => 90
  | .constructor => 85
  | .enumType => 80
  | .property | .field => 50
  | .variableBinding | .constantBinding => 40
  | .moduleScope | .packageScope => 30
  | _ => 20

namespace Score

def untouched : Nat :=
  20

def exportBonus : Nat :=
  50

def isExported (name : String) : Bool :=
  (name.toList.head?.map Text.isUppercase).getD false

/-- Whether two inclusive intervals have a number in common, as far as their ends tell. -/
def overlaps (start₁ end₁ start₂ end₂ : Int) : Bool :=
  start₁ ≤ end₂ && end₁ ≥ start₂

/-- Whether a hunk touches a symbol; the line numbers are compared as they are. -/
def touches (hunk : Hunk) (symbol : Symbol) : Bool :=
  overlaps hunk.newRange.1 hunk.newRange.2 symbol.line symbol.endLine

def symbolWeight (symbol : Symbol) : Nat :=
  symbol.kind.weight + if isExported symbol.name then exportBonus else 0

/-- What the touched symbols count: as much as the weightiest of them. -/
def contribution (touched : Outline) : Nat :=
  ((touched.map symbolWeight).max?).getD untouched

def sizeBonus (lines : Nat) : Float :=
  min (Float.ofNat lines * 0.1) 50.0

def value (hunk : Hunk) (touched : Outline) : Float :=
  (Float.ofNat (contribution touched) + sizeBonus hunk.changedLines) *
    (Category.ofPath hunk.filePath).multiplier

/-- The place of a float in the total order of floats. -/
def orderKey (score : Float) : Int :=
  let bits := score.toBits.toNat
  if bits < Word.half64 then bits else Word.half64 - 1 - (bits : Int)

end Score

/-- A hunk with its score and the names of the symbols that it touches. -/
structure ScoredHunk where
  hunk : Hunk
  score : Float
  symbols : List String
deriving Inhabited

def ScoredHunk.of (outline : Outline) (hunk : Hunk) : ScoredHunk :=
  let touched := outline.filter (Score.touches hunk)
  { hunk, score := Score.value hunk touched, symbols := touched.map Symbol.name }

def Score.ofFile (outline : Outline) (file : FileDiff) : List ScoredHunk :=
  file.hunks.map (ScoredHunk.of outline)

end DiffDigest
