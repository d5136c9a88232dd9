import DiffDigest.Proofs.Diff.Kind
import DiffDigest.Proofs.Digest.Idempotent

/-!
# Diffs that are put together

Where a text ends with a newline and another one begins with a file header, the
diff of both has the files of the first text and then those of the second.  So a
section is read in the same way whatever stands in front of it or behind it: its
hunks get the same scores, and its figures are added to the others.
-/

namespace DiffDigest

open Diff (FileDiff Hunk)

/-! ## Parsing -/

namespace Diff

open Text (Line bare)

def OpensFile (text : String) : Prop :=
  ∃ line ∈ (Text.lines text.toList).head?, IsFileHeader (bare line)

instance : DecidablePred OpensFile := fun text =>
  inferInstanceAs (Decidable (∃ line ∈ (Text.lines text.toList).head?, IsFileHeader (bare line)))

/-- No line of such a text belongs to what stands in front of it. -/
theorem OpensFile.separate {text : String} (opens : OpensFile text) :
    (sections (Text.lines text.toList)).1 = [] := by
  obtain ⟨line, first, header⟩ := opens
  obtain ⟨rest, cut⟩ := List.head?_eq_some_iff.1 first
  obtain ⟨oldPath, newPath, kind⟩ := (kind_fileHeader_iff line).2 header
  rw [cut, sections_cons_of_fileHeader kind]

theorem parse_append {front back : String} (ended : Text.IsEnded front.toList)
    (opens : OpensFile back) : parse (front ++ back) = parse front ++ parse back := by
  unfold parse
  rw [String.toList_append, ended.lines_append, sections_append opens.separate, List.map_append]

end Diff

/-! ## Figures -/

instance : Add Tally :=
  ⟨fun a b => ⟨a.files + b.files, a.lines + b.lines⟩⟩

theorem Tally.of_append (front back : List FileDiff) :
    Tally.of (front ++ back) = Tally.of front + Tally.of back := by
  unfold Tally.of
  rw [List.length_append, total_append]
  rfl

instance : Add Stats :=
  ⟨fun a b =>
    { total := a.total + b.total
      source := a.source + b.source
      test := a.test + b.test
      config := a.config + b.config
      doc := a.doc + b.doc
      generated := a.generated + b.generated }⟩

theorem Stats.of_append (front back : List FileDiff) :
    Stats.of (front ++ back) = Stats.of front + Stats.of back := by
  unfold Stats.of
  simp only [List.filter_append, Tally.of_append]
  rfl

/-! ## Scores -/

namespace Candidate

/-- The same hunk in a diff with some more files in front. -/
def behind (files : Nat) (candidate : Candidate) : Candidate :=
  { candidate with place := files + candidate.place }

theorem ofEntry_add (entry : FileDiff × Outline) (files place : Nat) :
    ofEntry entry (files + place) = (ofEntry entry place).map (behind files) := by
  unfold ofEntry
  rw [List.map_map]
  rfl

theorem ofFiles_append (front back : List (FileDiff × Outline)) :
    ofFiles (front ++ back) = ofFiles front ++ (ofFiles back).map (behind front.length) := by
  rw [ofFiles_eq_flatMap, ofFiles_eq_flatMap, ofFiles_eq_flatMap, List.zipIdx_append,
    List.flatMap_append, List.map_flatMap]
  congr 1
  rw [Nat.zero_add, List.zipIdx_eq_map_add, List.flatMap_map]
  congr 1
  funext entry
  exact ofEntry_add entry.1 front.length entry.2

end Candidate

/-! ## The whole and its parts -/

namespace Digest

/--
How a diff is made up of two texts.  It has the files of both, the figures of both
together, and wherever the files have the same outlines, the hunks of both with the
scores and symbols that they have in their own text.
-/
structure Joins (front back : String) : Prop where
  files : Diff.parse (front ++ back) = Diff.parse front ++ Diff.parse back
  stats : ∀ (source : SymbolSource) (options : Options),
    (run source options (front ++ back)).digest.stats =
      (run source options front).digest.stats + (run source options back).digest.stats
  scores : ∀ first second : List (FileDiff × Outline),
    first.map Prod.fst = Diff.parse front → second.map Prod.fst = Diff.parse back →
      (first ++ second).map Prod.fst = Diff.parse (front ++ back) ∧
        Candidate.ofFiles (first ++ second) = Candidate.ofFiles first ++
          (Candidate.ofFiles second).map (Candidate.behind (Diff.parse front).length)
  unaided : ∀ options : Options,
    candidates .none options (front ++ back) = candidates .none options front ++
      (candidates .none options back).map (Candidate.behind (Diff.parse front).length)

/-- A file header closes whatever is open, and nothing of it is left behind the header. -/
theorem joins_of_opensFile {front back : String} (ended : Text.IsEnded front.toList)
    (opens : Diff.OpensFile back) : Joins front back := by
  have files := Diff.parse_append ended opens
  have scores : ∀ first second : List (FileDiff × Outline),
      first.map Prod.fst = Diff.parse front → second.map Prod.fst = Diff.parse back →
        (first ++ second).map Prod.fst = Diff.parse (front ++ back) ∧
          Candidate.ofFiles (first ++ second) = Candidate.ofFiles first ++
            (Candidate.ofFiles second).map (Candidate.behind (Diff.parse front).length) := by
    intro first second own other
    refine ⟨by rw [List.map_append, own, other, files], ?_⟩
    rw [Candidate.ofFiles_append, ← own, List.length_map]
  refine ⟨files, ?_, scores, ?_⟩
  · intro source options
    rw [run_stats, run_stats, run_stats, files, Stats.of_append]
  · intro options
    have plain (text : String) : ((Diff.parse text).map fun file => (file, ([] : Outline))).map
        Prod.fst = Diff.parse text := by
      rw [List.map_map]
      exact List.map_id _
    rw [candidates_none, candidates_none, candidates_none, ← Candidate.ofFiles_unaided,
      ← Candidate.ofFiles_unaided, ← Candidate.ofFiles_unaided, files, List.map_append]
    exact (scores _ _ (plain front) (plain back)).2

/-- A marked file with an open hunk closes where another file begins. -/
theorem joins_openHunk :
    let front := "note\ndiff --git a/x b/x\nBinary files x and x differ\n@@ -1 +1 @@\n-a\n"
    let back := "diff --git a/y b/z\r\nrename to z\n@@ -3 +3,2 @@\n+b"
    Text.IsEnded front.toList ∧ Diff.OpensFile back ∧ Joins front back := by
  intro front back
  have ended : Text.IsEnded front.toList := by decide
  have opens : Diff.OpensFile back := by decide
  exact ⟨ended, opens, joins_of_opensFile ended opens⟩

end Digest

end DiffDigest
