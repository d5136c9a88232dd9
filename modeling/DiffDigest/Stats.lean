import DiffDigest.Category
import DiffDigest.Diff.Parser
import DiffDigest.Total

/-!
# Statistics

Files and changed lines of a whole diff, in total and by category.  Files of the
unknown category count for the total only.
-/

namespace DiffDigest

open Diff (Hunk FileDiff)

/-- A number of files and of their changed lines. -/
structure Tally where
  files : Nat := 0
  lines : Nat := 0
deriving DecidableEq, Repr, Inhabited

def Diff.FileDiff.changedLines (file : FileDiff) : Nat :=
  total Hunk.changedLines file.hunks

def Tally.of (files : List FileDiff) : Tally :=
  ⟨files.length, total FileDiff.changedLines files⟩

structure Stats where
  total : Tally := {}
  source : Tally := {}
  test : Tally := {}
  config : Tally := {}
  doc : Tally := {}
  generated : Tally := {}
deriving DecidableEq, Repr, Inhabited

namespace Stats

def of (files : List FileDiff) : Stats :=
  let tally (category : Category) : Tally :=
    .of (files.filter fun file => Category.ofPath file.newPath = category)
  { total := .of files
    source := tally .source
    test := tally .test
    config := tally .config
    doc := tally .doc
    generated := tally .generated }

/-- The figures of a category; the unknown one has none of its own. -/
def category? (stats : Stats) : Category → Option Tally
  | .source => some stats.source
  | .test => some stats.test
  | .config => some stats.config
  | .doc => some stats.doc
  | .generated => some stats.generated
  | .unknown => none

def order : List Category :=
  [.source, .test, .config, .doc, .generated]

def text (stats : Stats) : String :=
  let part (category : Category) : Option String :=
    (stats.category? category).map fun tally =>
      category.label ++ " " ++ toString tally.files ++ "/" ++ toString tally.lines
  toString stats.total.files ++ " file(s), " ++ toString stats.total.lines ++
    " changed line(s): " ++ ", ".intercalate (order.filterMap part)

end Stats

end DiffDigest
