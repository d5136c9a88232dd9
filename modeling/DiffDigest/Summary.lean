import DiffDigest.Category
import DiffDigest.Diff.Parser
import DiffDigest.Total

/-!
# Summaries

Rejected hunks are summed up by the category of their files: how many files,
how many changed lines, and the names of the first few files.
-/

namespace DiffDigest

open Diff (Hunk)

/-- Some rejected hunks of one category. -/
structure SummaryGroup where
  category : Category
  /-- The paths of the files, each once. -/
  paths : List String
  lines : Nat
deriving DecidableEq, Repr

namespace SummaryGroup

def members (category : Category) (hunks : List Hunk) : List Hunk :=
  hunks.filter fun hunk => Category.ofPath hunk.filePath = category

def of? (hunks : List Hunk) (category : Category) : Option SummaryGroup :=
  match members category hunks with
  | [] => none
  | hunk :: rest =>
      let all := hunk :: rest
      some ⟨category, (all.map Hunk.filePath).eraseDups, total Hunk.changedLines all⟩

def maxNames : Nat :=
  3

/-- The base names of the files in order; dots stand for those that are too many. -/
def names (group : SummaryGroup) : List String :=
  let all := (group.paths.map baseName).mergeSort fun a b => decide (a ≤ b)
  if all.length ≤ maxNames then all else all.take maxNames ++ ["..."]

def text (group : SummaryGroup) : String :=
  toString group.paths.length ++ " " ++ group.category.label ++ " file(s) (" ++
    toString group.lines ++ " lines): " ++ ", ".intercalate group.names

end SummaryGroup

def summaryGroups (hunks : List Hunk) : List SummaryGroup :=
  Category.summaryOrder.filterMap (SummaryGroup.of? hunks)

/-- The summary of some hunks; without hunks it is empty. -/
def summary (hunks : List Hunk) : String :=
  match summaryGroups hunks with
  | [] => ""
  | groups => "\n[Also modified]\n- " ++ "\n- ".intercalate (groups.map SummaryGroup.text)

end DiffDigest
