import DiffDigest.Proofs.Text.Line

/-!
# Carriage returns

A newline may be written with a carriage return in front of it.  This cuts a text
into the same lines, and without their ends the lines stay what they were, however
many carriage returns they ended with before.
-/

namespace DiffDigest.Text

def spellReturn (c : Char) : List Char :=
  if c = '\n' then ['\r', '\n'] else [c]

/-- A text with a carriage return in front of each newline. -/
def withReturns (text : List Char) : List Char :=
  text.flatMap spellReturn

theorem withReturns_cons (c : Char) (text : List Char) :
    withReturns (c :: text) = spellReturn c ++ withReturns text :=
  rfl

theorem map_withReturns_consLine {c : Char} (inside : c ≠ '\n') (all : List Line) :
    (consLine c all).map withReturns = consLine c (all.map withReturns) := by
  have spelled : spellReturn c = [c] := if_neg inside
  unfold consLine
  rw [if_neg inside, if_neg inside]
  cases all with
  | nil =>
      rw [List.map_singleton, withReturns_cons, spelled]
      rfl
  | cons line rest =>
      rw [List.map_cons, withReturns_cons, spelled]
      rfl

theorem lines_withReturns (text : List Char) :
    lines (withReturns text) = (lines text).map withReturns := by
  induction text with
  | nil => rfl
  | cons c rest ih =>
      rw [withReturns_cons, lines_cons]
      by_cases newline : c = '\n'
      · -- The carriage return goes to the end of the line that the newline ends.
        rw [newline]
        change consLine '\r' (consLine '\n' (lines (withReturns rest))) = _
        rw [ih]
        rfl
      · rw [map_withReturns_consLine newline, spellReturn, if_neg newline, ← ih]
        rfl

theorem withReturns_of_clean {text : List Char} (clean : '\n' ∉ text) : withReturns text = text := by
  have kept : text.map spellReturn = text.map fun c => [c] := by
    apply List.map_congr_left
    intro c member
    refine if_neg ?_
    rintro rfl
    exact clean member
  rw [withReturns, List.flatMap_def, kept, ← List.flatMap_def, List.flatMap_singleton']

theorem withReturns_full {body : List Char} (clean : '\n' ∉ body) :
    withReturns (body ++ ['\n']) = (body ++ ['\r']) ++ ['\n'] := by
  rw [withReturns, List.flatMap_append, ← withReturns, withReturns_of_clean clean,
    List.append_assoc]
  rfl

/-- Without its end a line is the same. -/
theorem bare_withReturns {text : List Char} {line : Line} (member : line ∈ lines text) :
    bare (withReturns line) = bare line := by
  obtain ⟨body, clean, rfl | rfl⟩ := body_of_mem_lines member
  · rw [withReturns_of_clean clean]
  · have returned : '\n' ∉ body ++ ['\r'] := by simp [clean]
    rw [withReturns_full clean, bare_append_newline, bare_append_newline, bare, bare,
      dropRightWhile_newline returned, dropRightWhile_newline clean,
      dropRightWhile_concat_of_pos (by decide)]

theorem IsFull.complete_withReturns {line : Line} (full : IsFull line) :
    Text.complete (withReturns line) = withReturns (Text.complete line) := by
  rw [full.complete]
  obtain ⟨body, clean, rfl⟩ := full
  rw [withReturns_full clean, Text.complete, if_pos (by simp)]

end DiffDigest.Text
