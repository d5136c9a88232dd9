import DiffDigest.Proofs.Diff.Kind
import DiffDigest.Proofs.Diff.Rebuild

/-!
# Changed lines of a hunk

A changed line begins with a plus or a minus, and lines that begin with three of
them are left out: in a whole diff these are the path lines of its files.  Inside
a hunk they are changes as well, of lines whose own text begins with two more of
these characters, and so the count falls short by just their number.
-/

namespace DiffDigest.Diff

open Text (Line bare)

/-! ## Lines that count -/

def isEdit (line : List Char) : Bool :=
  startsWith "+" line || startsWith "-" line

def isPathLike (line : List Char) : Bool :=
  startsWith "+++" line || startsWith "---" line

theorem isEdit_of_isPathLike {line : List Char} (pathLike : isPathLike line = true) :
    isEdit line = true := by
  unfold isEdit
  unfold isPathLike at pathLike
  rw [Bool.or_eq_true, startsWith_iff, startsWith_iff] at pathLike ⊢
  have plus : "+".toList <+: "+++".toList := by decide
  have minus : "-".toList <+: "---".toList := by decide
  exact pathLike.imp plus.trans minus.trans

/-- A changed line is an edit that does not look like a path line. -/
theorem isChanged_eq (line : List Char) :
    isChanged line = (isEdit line && !isPathLike line) := by
  have plus : startsWith "+" line = true → startsWith "---" line = false := by
    rw [startsWith_iff]
    rintro ⟨rest, rfl⟩
    rfl
  have minus : startsWith "-" line = true → startsWith "+++" line = false := by
    rw [startsWith_iff]
    rintro ⟨rest, rfl⟩
    rfl
  unfold isChanged isEdit isPathLike
  cases begins : startsWith "+" line <;> cases ends : startsWith "-" line <;> simp_all

/-- Edits either count or look like path lines. -/
theorem countP_isEdit (all : List Line) :
    all.countP isChanged + all.countP isPathLike = all.countP isEdit := by
  have pathLike : (all.countP fun line => isEdit line && isPathLike line) =
      all.countP isPathLike := by
    apply List.countP_congr
    intro line _
    rw [Bool.and_eq_true, and_iff_right_iff_imp]
    exact isEdit_of_isPathLike
  rw [List.countP_eq_countP_filter_add all isEdit isPathLike, List.countP_filter, pathLike,
    List.countP_filter, funext isChanged_eq, Nat.add_comm]

/-! ## The end of a line -/

theorem startsWith_bare {opening : String}
    (inside : ∀ c ∈ opening.toList, c ≠ '\n' ∧ c ≠ '\r') (line : Line) :
    startsWith opening (bare line) = startsWith opening line := by
  rw [Bool.eq_iff_iff, startsWith_iff, startsWith_iff]
  constructor
  · exact fun begins => begins.trans (Text.prefix_bare line)
  · rintro ⟨rest, rfl⟩
    rw [Text.bare_append inside]
    exact List.prefix_append _ _

/-- The end of a line does not tell whether it is a change. -/
theorem isChanged_bare (line : Line) : isChanged (bare line) = isChanged line := by
  unfold isChanged
  rw [startsWith_bare, startsWith_bare, startsWith_bare, startsWith_bare] <;> simp

/-! ## Hunks -/

/-- The lines of a hunk below its header. -/
def Hunk.body (hunk : Hunk) : List Line :=
  hunk.lines.tail

/-- The edits of a hunk that do not look like path lines. -/
def Hunk.plainEdits (hunk : Hunk) : Nat :=
  hunk.body.countP fun line => isEdit line && !isPathLike line

/--
How the changed lines of a hunk are counted: below its header, with all edits but
those that look like path lines.  So all of them count just if none looks so.
-/
structure Hunk.Counts (hunk : Hunk) : Prop where
  lines : ∃ header, IsHunkHeader (bare header) ∧ hunk.lines = header :: hunk.body
  plain : hunk.changedLines = hunk.plainEdits
  short : hunk.changedLines + hunk.body.countP isPathLike = hunk.body.countP isEdit
  full : hunk.changedLines = hunk.body.countP isEdit ↔ ∀ line ∈ hunk.body, ¬ isPathLike line = true

theorem isChanged_of_isHunkHeader {line : Line} (header : IsHunkHeader (bare line)) :
    isChanged line = false := by
  obtain ⟨range, old, new, rest, -, -, same⟩ := header
  rw [← isChanged_bare, same]
  exact isChanged_of_head (by decide : '@' ≠ '+' ∧ '@' ≠ '-') _

theorem Hunk.WellFormed.counts {filePath : String} {hunk : Hunk}
    (formed : hunk.WellFormed filePath) : hunk.Counts := by
  obtain ⟨header, body, made⟩ := formed
  have opens : IsHunkHeader (bare header) := ⟨_, (kind_hunkHeader_iff header _).1 made.opens⟩
  have below : hunk.body = body := by rw [Hunk.body, made.lines, List.tail_cons]
  have counted : hunk.changedLines = hunk.body.countP isChanged := by
    change hunk.lines.countP isChanged = _
    rw [below, made.lines, List.countP_cons_of_neg (by simp [isChanged_of_isHunkHeader opens])]
  have short : hunk.changedLines + hunk.body.countP isPathLike = hunk.body.countP isEdit := by
    rw [counted, countP_isEdit]
  refine ⟨⟨header, opens, by rw [below, made.lines]⟩, ?_, short, ?_⟩
  · rw [counted, funext isChanged_eq, Hunk.plainEdits]
  · rw [← List.countP_eq_zero]
    omega

/-- A diff of a file whose comments begin with two minuses, with one of them removed. -/
def commentedDiff : String :=
  "diff --git a/q.sql b/q.sql\n@@ -1,2 +1 @@\n--- old\n select 1;\n"

/-- The removed comment does not count. -/
theorem changedLines_commentedDiff :
    ¬ ∀ text : String, ∀ file ∈ parse text, ∀ hunk ∈ file.hunks,
      hunk.changedLines = hunk.body.countP isEdit := by
  intro all
  have each := all commentedDiff
  revert each
  decide

end DiffDigest.Diff
