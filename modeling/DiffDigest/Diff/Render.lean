import DiffDigest.Diff.Parser

/-!
# Writing diffs

A file with hunks is written as its header, its marks, its path lines and the
hunks as they are.  A new file has no old side and a deleted one no new side.
-/

namespace DiffDigest.Diff

def FileDiff.heading (file : FileDiff) : String :=
  "diff --git a/" ++ file.oldPath ++ " b/" ++ file.newPath ++ "\n" ++
    (if file.isNew then "new file mode 100644\n" else "") ++
    (if file.isDeleted then "deleted file mode 100644\n" else "") ++
    (if file.isNew then "--- /dev/null\n" else "--- a/" ++ file.oldPath ++ "\n") ++
    (if file.isDeleted then "+++ /dev/null\n" else "+++ b/" ++ file.newPath ++ "\n")

/-- A file with some of its hunks; without hunks nothing is written. -/
def FileDiff.render (file : FileDiff) (hunks : List Hunk) : String :=
  if hunks.isEmpty then "" else file.heading ++ String.join (hunks.map Hunk.content)

end DiffDigest.Diff
