import DiffDigest.Proofs.Diff.Change
import DiffDigest.Proofs.Digest.Alike
import DiffDigest.Proofs.Text.Return

/-!
# Line ends

A diff whose newlines all come with carriage returns is the same diff: only the
contents of its hunks have the carriage returns.  They are no changes, and so the
same hunks are chosen, and summary and statistics do not tell the difference.
-/

namespace DiffDigest

open Diff (FileDiff Hunk)

namespace Diff

open Text (Line bare spellReturn withReturns)

/-! ## Changed lines -/

theorem changedLines_withReturns (text : List Char) :
    changedLines (String.ofList (withReturns text)) = changedLines (String.ofList text) := by
  unfold changedLines
  rw [String.toList_ofList, String.toList_ofList, Text.lines_withReturns, List.countP_map]
  apply List.countP_congr
  intro line member
  rw [Function.comp_apply, ← isChanged_bare, Text.bare_withReturns member, isChanged_bare]

/-! ## Hunks and files -/

def Hunk.withReturns (hunk : Hunk) : Hunk :=
  hunk.respelled spellReturn

def FileDiff.withReturns (file : FileDiff) : FileDiff :=
  file.mapHunks Hunk.withReturns

theorem Hunk.alike_withReturns (hunk : Hunk) : hunk.Alike hunk.withReturns where
  filePath := rfl
  range := rfl
  lines := by
    have same := changedLines_withReturns hunk.content.toList
    rwa [String.ofList_toList] at same

theorem respells_withReturns {text : List Char} (ended : Text.IsEnded text) {line : Line}
    (member : line ∈ Text.lines text) : Respells Text.withReturns spellReturn line where
  kind := by rw [LineKind.of, Text.bare_withReturns member, LineKind.of]
  completed := (ended.isFull member).complete_withReturns

/-- Carriage returns are left in the contents of hunks, and nowhere else. -/
theorem parse_withReturns {text : List Char} (ended : Text.IsEnded text) :
    parse (String.ofList (Text.withReturns text)) =
      (parse (String.ofList text)).map FileDiff.withReturns := by
  unfold parse
  rw [String.toList_ofList, String.toList_ofList, Text.lines_withReturns,
    map_file_sections fun _ member => respells_withReturns ended member]
  rfl

end Diff

/-! ## Runs -/

def Candidate.withReturns : Candidate → Candidate :=
  mapHunk Hunk.withReturns

namespace Digest

/--
What carriage returns in front of the newlines change in a run without symbols: the
contents of the hunks, and so of those that the digest holds.  The same hunks are
accepted with the same scores, and summary and statistics are the same.
-/
structure KeepsReturns (options : Options) (text returned : String) : Prop where
  files : Diff.parse returned = (Diff.parse text).map FileDiff.withReturns
  lines : ∀ file ∈ Diff.parse text, ∀ hunk ∈ file.hunks,
    hunk.withReturns.content.toList = Text.withReturns hunk.content.toList ∧
      hunk.withReturns.changedLines = hunk.changedLines
  chosen : choose options.budget (candidates .none options returned) =
    (choose options.budget (candidates .none options text)).map Candidate.withReturns
  highPriority : Diff.parse (run .none options returned).digest.highPriority =
    (Diff.parse (run .none options text).digest.highPriority).map FileDiff.withReturns
  summary : (run .none options returned).digest.summary =
    (run .none options text).digest.summary
  stats : (run .none options returned).digest.stats = (run .none options text).digest.stats

/-- A text with carriage returns is digested as it is digested without them. -/
theorem run_keepsReturns {text : String} (ended : Text.IsEnded text.toList) (options : Options) :
    KeepsReturns options text (String.ofList (Text.withReturns text.toList)) := by
  have alike : ∀ hunk : Hunk, hunk.Alike hunk.withReturns := Hunk.alike_withReturns
  have files := Diff.parse_withReturns ended
  rw [String.ofList_toList] at files
  refine ⟨files, ?_, choose_none_alike alike files options,
    highPriority_none_alike alike files options, summary_none_alike alike files options,
    stats_alike alike files .none options⟩
  intro file _ hunk _
  exact ⟨String.toList_ofList, (alike hunk).lines⟩

/-- A line may end with carriage returns already, and a lone one ends no line. -/
theorem run_keepsReturns_crowded :
    let text := "diff --git a/x.rs b/x.rs\r\n@@ -1 +1 @@ f\r\r\n+a\rb\n+\r\n@@ -9 +9 @@\n-c\n"
    Text.IsEnded text.toList ∧
      KeepsReturns { maxLines := 1 } text (String.ofList (Text.withReturns text.toList)) := by
  intro text
  have ended : Text.IsEnded text.toList := by decide
  exact ⟨ended, run_keepsReturns ended { maxLines := 1 }⟩

end Digest

end DiffDigest
