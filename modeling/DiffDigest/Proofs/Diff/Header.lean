import DiffDigest.Diff.Render
import DiffDigest.Proofs.Text.Line

/-!
# Headers

A file header is determined by its two paths, and the paths that are read from a
header give that header back.  So it does not matter that a path may hold the
mark between the paths: the header that is written is the one that was read.
-/

namespace DiffDigest.Diff

open Text (Line IsFull bare)

theorem after?_append (expected rest : List Char) :
    after? expected (expected ++ rest) = some rest := by
  unfold after?
  rw [if_pos (List.isPrefixOf_iff_prefix.2 (List.prefix_append _ _)), List.drop_left]

/-! ## File headers -/

def headerOf (oldPath newPath : String) : List Char :=
  "diff --git a/".toList ++ oldPath.toList ++ " b/".toList ++ newPath.toList

theorem splitPaths_eq_some {behind front old new : List Char}
    (split : splitPaths behind front = some (old, new)) :
    front.reverse ++ behind = old ++ " b/".toList ++ new ∧ new ≠ [] := by
  induction front generalizing behind with
  | nil => cases split
  | cons c front ih =>
      unfold splitPaths at split
      split at split
      · rename_i found
        simp only [Bool.and_eq_true, decide_eq_true_eq, List.isPrefixOf_iff_prefix,
          Bool.not_eq_true', List.isEmpty_eq_false_iff] at found
        obtain ⟨⟨rfl, rest, rfl⟩, nonempty⟩ := found
        cases split
        exact ⟨by simp, nonempty⟩
      · have inner := ih split
        simpa using inner

/-- A header that is read is the header of its paths, and neither path is empty. -/
theorem headerOf_of_fileHeader? {line : List Char} {oldPath newPath : String}
    (header : fileHeader? line = some (oldPath, newPath)) :
    line = headerOf oldPath newPath ∧ oldPath.toList ≠ [] ∧ newPath.toList ≠ [] := by
  unfold fileHeader? at header
  dsimp only at header
  split at header
  · rename_i opens
    obtain ⟨rest, rfl⟩ := List.isPrefixOf_iff_prefix.1 opens
    rw [List.drop_left] at header
    cases paths : splitPaths [] rest.reverse with
    | none =>
        rw [paths] at header
        cases header
    | some found =>
        obtain ⟨old, new⟩ := found
        rw [paths] at header
        obtain ⟨whole, nonempty⟩ := splitPaths_eq_some paths
        rw [List.reverse_reverse, List.append_nil] at whole
        cases old with
        | nil => cases header
        | cons c old =>
            simp only [Option.some.injEq, Prod.mk.injEq] at header
            obtain ⟨rfl, rfl⟩ := header
            have oldChars : (String.ofList (c :: old)).toList = c :: old := String.toList_ofList
            have newChars : (String.ofList new).toList = new := String.toList_ofList
            unfold headerOf
            rw [oldChars, newChars, whole]
            exact ⟨by simp only [List.append_assoc], List.cons_ne_nil _ _, nonempty⟩
  · cases header

/-! ## The kind of a line -/

/-- A line without its newline has the same kind. -/
theorem LineKind.of_complete (line : Line) : LineKind.of (Text.complete line) = LineKind.of line := by
  unfold LineKind.of
  rw [Text.bare_complete]

theorem LineKind.ofBare_eq_fileHeader {line : List Char} {oldPath newPath : String}
    (kind : LineKind.ofBare line = .fileHeader oldPath newPath) :
    fileHeader? line = some (oldPath, newPath) := by
  unfold LineKind.ofBare at kind
  split at kind
  · rename_i header
    cases kind
    exact header
  · iterate 4 (split at kind; cases kind)
    split at kind <;> cases kind

theorem LineKind.ofBare_of_fileHeader? {line : List Char} {oldPath newPath : String}
    (header : fileHeader? line = some (oldPath, newPath)) :
    LineKind.ofBare line = .fileHeader oldPath newPath := by
  unfold LineKind.ofBare
  rw [header]

/-- Headers and marks have few first letters. -/
theorem LineKind.ofBare_of_head {c : Char} (head : c ∉ ['d', 'B', 'n', 'r', '@'])
    (rest : List Char) : LineKind.ofBare (c :: rest) = .plain := by
  simp only [List.mem_cons, List.not_mem_nil, or_false, not_or] at head
  obtain ⟨d, b, n, r, at'⟩ := head
  simp [LineKind.ofBare, fileHeader?, isBinaryNote, startsWith, hunkHeader?, after?, Ne.symm d,
    Ne.symm b, Ne.symm n, Ne.symm r, Ne.symm at']

theorem LineKind.of_of_head {c : Char} (head : c ∉ ['d', 'B', 'n', 'r', '@', '\n', '\r'])
    (rest : List Char) : LineKind.of (c :: rest) = .plain := by
  simp only [List.mem_cons, List.not_mem_nil, or_false, not_or] at head
  obtain ⟨d, b, n, r, at', newline, carriage⟩ := head
  unfold LineKind.of
  rw [Text.bare_cons newline carriage]
  exact ofBare_of_head (by simp [d, b, n, r, at']) _

end DiffDigest.Diff
