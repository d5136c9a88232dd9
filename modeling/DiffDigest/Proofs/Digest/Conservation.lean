import DiffDigest.Proofs.Digest.Greedy
import DiffDigest.Proofs.Summary

/-!
# Nothing gets lost

Every hunk is either in the diff of a digest or in its summary.  So the changed
lines of each category, as the statistics give them, are those of the diff and
those that the summary shows.
-/

namespace DiffDigest

open Diff (FileDiff Hunk)

/-! ## Changed lines by category -/

/-- The changed lines of the hunks whose file has a category. -/
def linesOf (category : Category) (files : List FileDiff) : Nat :=
  total Hunk.changedLines
    ((files.filter fun file => Category.ofPath file.newPath = category).flatMap FileDiff.hunks)

theorem total_changedLines (files : List FileDiff) :
    total FileDiff.changedLines files = total Hunk.changedLines (files.flatMap FileDiff.hunks) := by
  induction files with
  | nil => rfl
  | cons file rest ih =>
      rw [total_cons, ih, List.flatMap_cons, total_append]
      rfl

/-- In a parsed diff the category of a hunk is that of its file. -/
theorem linesOf_eq_members (category : Category) {files : List FileDiff}
    (named : ∀ file ∈ files, ∀ hunk ∈ file.hunks, hunk.filePath = file.newPath) :
    linesOf category files =
      total Hunk.changedLines (SummaryGroup.members category (files.flatMap FileDiff.hunks)) := by
  unfold linesOf
  congr 1
  induction files with
  | nil => rfl
  | cons file rest ih =>
      have later := ih fun other member => named other (List.mem_cons_of_mem _ member)
      have own := named file List.mem_cons_self
      unfold SummaryGroup.members at later ⊢
      rw [List.filter_cons, List.flatMap_cons, List.filter_append, ← later]
      split
      · rename_i inside
        have kept : (file.hunks.filter fun hunk => Category.ofPath hunk.filePath = category) =
            file.hunks := by
          rw [List.filter_eq_self]
          intro hunk member
          rw [own hunk member]
          exact inside
        rw [kept, List.flatMap_cons]
      · rename_i outside
        have dropped : (file.hunks.filter fun hunk => Category.ofPath hunk.filePath = category) =
            [] := by
          rw [List.filter_eq_nil_iff]
          intro hunk member
          rw [own hunk member]
          exact outside
        rw [dropped, List.nil_append]

theorem Stats.category?_of (files : List FileDiff) {category : Category}
    (known : category ≠ .unknown) :
    ∃ tally, (Stats.of files).category? category = some tally ∧
      tally.lines = linesOf category files := by
  refine ⟨.of (files.filter fun file => Category.ofPath file.newPath = category), ?_,
    total_changedLines _⟩
  cases category with
  | unknown => exact absurd rfl known
  | _ => rfl

namespace Digest

variable {files : List FileDiff} {candidates : List Candidate}

/-! ## Accepted and rejected hunks -/

/-- Every hunk is accepted or rejected, and none is both. -/
theorem parted (scored : Candidate.IsScoring files candidates) (budget : Nat) :
    (((choose budget candidates).accepted ++ (choose budget candidates).rejected).map
      Candidate.origin).Perm (Candidate.origins files) := by
  have ranked := Selection.firstFit_perm Candidate.cost budget (Candidate.rank candidates)
  have all := (ranked.trans (Candidate.rank_perm candidates)).map Candidate.origin
  rw [scored] at all
  exact all

/-- The hunks of a selection are the hunks of the files. -/
theorem hunks_perm (scored : Candidate.IsScoring files candidates) (budget : Nat) :
    ((choose budget candidates).accepted.map (fun candidate => candidate.scored.hunk) ++
      (choose budget candidates).rejected.map fun candidate => candidate.scored.hunk).Perm
        (files.flatMap FileDiff.hunks) := by
  have all := (parted scored budget).map Prod.snd
  rw [Candidate.map_snd_origins, List.map_map, List.map_append] at all
  exact all

/-! ## Conservation -/

/-- The figures of a digest are those of its diff and of its summary together. -/
structure Conserves (files : List FileDiff) (selection : Selection Candidate) (digest : Digest) :
    Prop where
  parted : ((selection.accepted ++ selection.rejected).map Candidate.origin).Perm
    (Candidate.origins files)
  category : ∀ category, category ≠ .unknown → ∃ tally,
    digest.stats.category? category = some tally ∧
      tally.lines = linesOf category (Diff.parse digest.highPriority) +
        printedLines category digest.summary
  all : digest.stats.total.lines = Diff.changedLines digest.highPriority +
    total Prod.snd (printedGroups digest.summary)

/-- The paths of rejected hunks are paths from headers, so they hold no newline. -/
theorem rejected_clean (formed : ∀ file ∈ files, file.WellFormed)
    (scored : Candidate.IsScoring files candidates) (budget : Nat) :
    ∀ hunk ∈ (choose budget candidates).rejected.map (fun candidate => candidate.scored.hunk),
      '\n' ∉ hunk.filePath.toList := by
  intro hunk member
  have among := (hunks_perm scored budget).mem_iff.1 (List.mem_append_right _ member)
  obtain ⟨file, inside, own⟩ := List.mem_flatMap.1 among
  obtain ⟨header, body, made⟩ := (formed file inside).hunks hunk own
  rw [made.filePath]
  exact (formed file inside).newPath_clean

/-- The statistics are those of the files, however their hunks are chosen. -/
theorem stats_ofCandidates (options : Options) (files : List FileDiff)
    (candidates : List Candidate) : (ofCandidates options files candidates).1.stats = .of files :=
  rfl

theorem conserves_ofCandidates {text : String} {options : Options}
    (summarized : options.includeSummary = true)
    (scored : Candidate.IsScoring (Diff.parse text) candidates) :
    Conserves (Diff.parse text) (choose options.budget candidates)
      (ofCandidates options (Diff.parse text) candidates).1 := by
  have formed : ∀ file ∈ Diff.parse text, file.WellFormed :=
    fun _ member => Diff.wellFormed_of_mem_parse member
  have clean := rejected_clean formed scored options.budget
  have hunks := hunks_perm scored options.budget
  have rebuilt := (rebuilds_parse_rebuild formed scored options.budget).whole
  have shown : (ofCandidates options (Diff.parse text) candidates).1.summary =
      DiffDigest.summary ((choose options.budget candidates).rejected.map
        fun candidate => candidate.scored.hunk) := if_pos summarized
  refine ⟨parted scored options.budget, ?_, ?_⟩
  · intro category known
    obtain ⟨tally, found, lines⟩ := Stats.category?_of (Diff.parse text) known
    refine ⟨tally, found, ?_⟩
    have kept := total_perm Hunk.changedLines
      (rebuilt.filter fun hunk => decide (Category.ofPath hunk.filePath = category))
    have whole := total_perm Hunk.changedLines
      (hunks.filter fun hunk => decide (Category.ofPath hunk.filePath = category))
    rw [List.filter_append, total_append] at whole
    rw [lines, shown, printedLines_summary clean,
      linesOf_eq_members category fun _ member _ own => Diff.filePath_of_mem_parse member own,
      linesOf_eq_members category fun _ member _ own => Diff.filePath_of_mem_parse member own]
    exact whole.symm.trans (congrArg (· + _) kept.symm)
  · have lines := (spendsBest_ofCandidates options formed scored).lines
    have whole := total_perm Hunk.changedLines hunks
    rw [total_append, ← total_changedLines, total_map] at whole
    rw [shown, total_printedGroups clean, lines]
    exact whole.symm

/--
The statistics count what the diff and the summary of a digest hold together, in
each category and in total; and they do not depend on how hunks are chosen.
-/
theorem stats_conserved {text : String} (found : Diff.parse text ≠ []) (options : Options)
    (summarized : options.includeSummary = true) :
    (∀ candidates, Candidate.IsScoring (Diff.parse text) candidates →
      Conserves (Diff.parse text) (choose options.budget candidates)
        (ofCandidates options (Diff.parse text) candidates).1) ∧
    ∀ source : SymbolSource,
      Conserves (Diff.parse text) (choose options.budget (Digest.candidates source options text))
        (run source options text).digest ∧
      ∀ (otherSource : SymbolSource) (otherOptions : Options),
        (run otherSource otherOptions text).digest.stats = (run source options text).digest.stats := by
  refine ⟨fun _ scored => conserves_ofCandidates summarized scored, ?_⟩
  intro source
  refine ⟨?_, ?_⟩
  · rw [run_digest source options found]
    exact conserves_ofCandidates summarized (isScoring_candidates source options text)
  · intro otherSource otherOptions
    rw [run_digest source options found, run_digest otherSource otherOptions found,
      stats_ofCandidates, stats_ofCandidates]

theorem stats_conserved_crowded :
    Diff.parse crowded ≠ [] ∧
      Conserves (Diff.parse crowded) (choose 2 (Digest.candidates .none { maxLines := 2 } crowded))
        (run .none { maxLines := 2 } crowded).digest := by
  have found : Diff.parse crowded ≠ [] := by decide
  exact ⟨found, ((stats_conserved found { maxLines := 2 } rfl).2 .none).1⟩

end Digest

end DiffDigest
