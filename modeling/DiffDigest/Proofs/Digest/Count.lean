import DiffDigest.Proofs.Diff.Change
import DiffDigest.Proofs.Digest.Conservation

/-!
# What rests on the count of changed lines

A digest asks for the changed lines of a hunk in four places: the size bonus of
its score, the budget, the statistics and the summary.  In each of them these are
the edits below the header of the hunk that do not look like path lines.
-/

namespace DiffDigest

open Diff (FileDiff Hunk)

/-! ## Hunks of candidates -/

namespace Candidate

variable {files : List FileDiff} {candidates : List Candidate}

/-- The hunk of a candidate is one of the parsed hunks. -/
theorem IsScoring.mem_hunks (scored : IsScoring files candidates) {candidate : Candidate}
    (member : candidate ∈ candidates) : candidate.scored.hunk ∈ files.flatMap FileDiff.hunks := by
  have among : candidate.origin ∈ origins files := scored ▸ List.mem_map_of_mem member
  rw [← map_snd_origins]
  exact List.mem_map_of_mem (f := Prod.snd) among

theorem scored_of_mem_ofFiles {entries : List (FileDiff × Outline)} {candidate : Candidate}
    (member : candidate ∈ ofFiles entries) :
    ∃ outline, candidate.scored = ScoredHunk.of outline candidate.scored.hunk := by
  rw [ofFiles_eq_flatMap] at member
  obtain ⟨⟨⟨file, outline⟩, place⟩, -, own⟩ := List.mem_flatMap.1 member
  obtain ⟨scored, made, rfl⟩ := List.mem_map.1 own
  obtain ⟨hunk, -, rfl⟩ := List.mem_map.1 made
  exact ⟨outline, rfl⟩

end Candidate

namespace Digest

def rejectedHunks (source : SymbolSource) (options : Options) (text : String) : List Hunk :=
  (choose options.budget (candidates source options text)).rejected.map
    fun candidate => candidate.scored.hunk

/--
A run with each place that asks for the changed lines of a hunk: the budget, the
size bonus, the statistics and the summary.
-/
structure RestsOnPlainEdits (source : SymbolSource) (options : Options) (text : String) : Prop where
  counts : ∀ file ∈ Diff.parse text, ∀ hunk ∈ file.hunks, hunk.Counts
  budget : choose options.budget (candidates source options text) =
    Selection.firstFit (fun candidate => candidate.scored.hunk.plainEdits) options.budget
      (Candidate.rank (candidates source options text))
  bonus : ∀ candidate ∈ candidates source options text, ∃ touched : Outline,
    candidate.scored.score =
      (Float.ofNat (Score.contribution touched) +
        min (Float.ofNat candidate.scored.hunk.plainEdits * 0.1) 50.0) *
          (Category.ofPath candidate.scored.hunk.filePath).multiplier
  all : (run source options text).digest.stats.total.lines =
    total Hunk.plainEdits ((Diff.parse text).flatMap FileDiff.hunks)
  category : ∀ category, category ≠ .unknown → ∃ tally,
    (run source options text).digest.stats.category? category = some tally ∧
      tally.lines = total Hunk.plainEdits (((Diff.parse text).filter fun file =>
        Category.ofPath file.newPath = category).flatMap FileDiff.hunks)
  summary : options.includeSummary = true → ∀ category,
    printedLines category (run source options text).digest.summary =
      total Hunk.plainEdits (SummaryGroup.members category (rejectedHunks source options text))

variable {text : String}

theorem changedLines_of_mem {hunk : Hunk}
    (member : hunk ∈ (Diff.parse text).flatMap FileDiff.hunks) :
    hunk.changedLines = hunk.plainEdits := by
  obtain ⟨file, among, own⟩ := List.mem_flatMap.1 member
  exact ((Diff.wellFormed_of_mem_parse among).hunks hunk own).counts.plain

theorem mem_of_mem_rejectedHunks {source : SymbolSource} {options : Options} {hunk : Hunk}
    (member : hunk ∈ rejectedHunks source options text) :
    hunk ∈ (Diff.parse text).flatMap FileDiff.hunks := by
  have parts := hunks_perm (isScoring_candidates source options text) options.budget
  exact parts.mem_iff.1 (List.mem_append_right _ member)

/-- What a summary shows are the changed lines of the rejected hunks. -/
theorem printedLines_run {source : SymbolSource} {options : Options}
    (summarized : options.includeSummary = true) (category : Category) :
    printedLines category (run source options text).digest.summary =
      total Hunk.changedLines
        (SummaryGroup.members category (rejectedHunks source options text)) := by
  have scored := isScoring_candidates source options text
  have clean := rejected_clean (fun _ member => Diff.wellFormed_of_mem_parse member) scored
    options.budget
  have shown : (run source options text).digest.summary =
      DiffDigest.summary (rejectedHunks source options text) := by
    by_cases none : Diff.parse text = []
    · have empty : rejectedHunks source options text = [] := by
        rw [List.eq_nil_iff_forall_not_mem]
        intro hunk member
        have among := mem_of_mem_rejectedHunks member
        rw [none] at among
        cases among
      rw [run_digest_of_nil source options none, empty]
      rfl
    · rw [run_digest source options none]
      exact if_pos summarized
  rw [shown]
  exact printedLines_summary clean category

/--
Changed lines are counted in full but for edits that look like path lines, and
the budget, the size bonus, the statistics and the summary rest on this count.
-/
theorem run_restsOnPlainEdits (source : SymbolSource) (options : Options) (text : String) :
    RestsOnPlainEdits source options text := by
  have scored := isScoring_candidates source options text
  have plain : ∀ hunk ∈ (Diff.parse text).flatMap FileDiff.hunks,
      hunk.changedLines = hunk.plainEdits := fun _ member => changedLines_of_mem member
  refine ⟨?_, ?_, ?_, ?_, ?_, ?_⟩
  · intro file among hunk own
    exact ((Diff.wellFormed_of_mem_parse among).hunks hunk own).counts
  · have costs : ∀ candidate ∈ Candidate.rank (candidates source options text),
        candidate.scored.hunk.plainEdits = candidate.cost := by
      intro candidate member
      exact (plain _ (scored.mem_hunks ((Candidate.rank_perm _).mem_iff.1 member))).symm
    exact (Selection.firstFit_congr costs options.budget).symm
  · intro candidate member
    obtain ⟨outline, made⟩ := Candidate.scored_of_mem_ofFiles member
    refine ⟨outline.filter (Score.touches candidate.scored.hunk), ?_⟩
    rw [← plain _ (scored.mem_hunks member)]
    exact congrArg ScoredHunk.score made
  · rw [run_stats, ← total_congr plain]
    exact total_changedLines _
  · intro category known
    obtain ⟨tally, found, lines⟩ := Stats.category?_of (Diff.parse text) known
    refine ⟨tally, by rw [run_stats, found], ?_⟩
    rw [lines, linesOf]
    apply total_congr
    intro hunk member
    obtain ⟨file, among, own⟩ := List.mem_flatMap.1 member
    exact plain hunk (List.mem_flatMap.2 ⟨file, (List.mem_filter.1 among).1, own⟩)
  · intro summarized category
    rw [printedLines_run summarized]
    apply total_congr
    intro hunk member
    exact plain hunk (mem_of_mem_rejectedHunks (List.mem_filter.1 member).1)

end Digest

end DiffDigest
