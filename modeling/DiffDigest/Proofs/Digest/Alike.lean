import DiffDigest.Proofs.Digest.Conservation
import DiffDigest.Proofs.Digest.Idempotent

/-!
# Hunks that are alike

Of a hunk a digest looks at its path, its range and the number of its changed
lines.  Hunks that agree in these may be exchanged for each other: they get the
same scores, the same ones are chosen, and summary and statistics are the same.
-/

namespace DiffDigest

open Diff (FileDiff Hunk)

/-- A hunk with the path, the range and the number of changed lines of another one. -/
structure Diff.Hunk.Alike (hunk other : Hunk) : Prop where
  filePath : other.filePath = hunk.filePath
  range : other.range = hunk.range
  lines : other.changedLines = hunk.changedLines

def Diff.FileDiff.mapHunks (change : Hunk → Hunk) (file : FileDiff) : FileDiff :=
  { file with hunks := file.hunks.map change }

def Candidate.mapHunk (change : Hunk → Hunk) (candidate : Candidate) : Candidate :=
  { candidate with scored := { candidate.scored with hunk := change candidate.scored.hunk } }

/-! ## Ranks -/

theorem Candidate.rank_mapHunk (change : Hunk → Hunk) (candidates : List Candidate) :
    rank (candidates.map (mapHunk change)) = (rank candidates).map (mapHunk change) :=
  (List.map_mergeSort (s := before) (f := mapHunk change) fun _ _ _ _ => rfl).symm

section Alike

variable {change : Hunk → Hunk} (alike : ∀ hunk : Hunk, hunk.Alike (change hunk))

include alike

/-! ## Scores -/

theorem ScoredHunk.of_alike (outline : Outline) (hunk : Hunk) :
    ScoredHunk.of outline (change hunk) = { ScoredHunk.of outline hunk with hunk := change hunk } := by
  have touched : Score.touches (change hunk) = Score.touches hunk := by
    funext symbol
    rw [Score.touches, Score.touches, Hunk.newRange, Hunk.newRange, (alike hunk).range]
  rw [ScoredHunk.of, ScoredHunk.of, touched, Score.value, Score.value, (alike hunk).lines,
    (alike hunk).filePath]

theorem Candidate.unaided_mapHunks (files : List FileDiff) :
    unaided (files.map (FileDiff.mapHunks change)) = (unaided files).map (mapHunk change) := by
  unfold unaided origins
  rw [List.map_map, List.map_flatMap, List.map_flatMap, List.zipIdx_map, List.flatMap_map]
  congr 1
  funext entry
  simp only [Prod.map, FileDiff.mapHunks, List.map_map]
  apply List.map_congr_left
  intro hunk _
  simp only [Function.comp_apply, ofOrigin, ScoredHunk.of_alike alike, id_eq]
  rfl

/-! ## Figures and summaries -/

theorem total_changedLines_map (hunks : List Hunk) :
    total Hunk.changedLines (hunks.map change) = total Hunk.changedLines hunks := by
  rw [total_map]
  congr 1
  funext hunk
  exact (alike hunk).lines

theorem Stats.of_mapHunks (files : List FileDiff) :
    Stats.of (files.map (FileDiff.mapHunks change)) = Stats.of files := by
  have tally (files : List FileDiff) :
      Tally.of (files.map (FileDiff.mapHunks change)) = Tally.of files := by
    rw [Tally.of, Tally.of, List.length_map, total_map]
    congr 2
    funext file
    exact total_changedLines_map alike file.hunks
  unfold Stats.of
  simp only [List.filter_map, tally]
  rfl

theorem SummaryGroup.members_map (category : Category) (hunks : List Hunk) :
    members category (hunks.map change) = (members category hunks).map change := by
  have same : (fun hunk => decide (Category.ofPath hunk.filePath = category)) ∘ change =
      fun hunk => decide (Category.ofPath hunk.filePath = category) := by
    funext hunk
    rw [Function.comp_apply, (alike hunk).filePath]
  rw [members, List.filter_map, same]
  rfl

theorem SummaryGroup.of?_map (hunks : List Hunk) :
    SummaryGroup.of? (hunks.map change) = SummaryGroup.of? hunks := by
  have paths (hunks : List Hunk) :
      (hunks.map change).map Hunk.filePath = hunks.map Hunk.filePath := by
    rw [List.map_map]
    exact List.map_congr_left fun hunk _ => (alike hunk).filePath
  funext category
  rw [SummaryGroup.of?, SummaryGroup.of?, members_map alike]
  cases members category hunks with
  | nil => rfl
  | cons hunk rest =>
      change some (SummaryGroup.mk category (((hunk :: rest).map change).map Hunk.filePath).eraseDups
        (total Hunk.changedLines ((hunk :: rest).map change))) = _
      rw [paths, total_changedLines_map alike]

theorem summary_map (hunks : List Hunk) : summary (hunks.map change) = summary hunks := by
  rw [summary, summary, summaryGroups, summaryGroups, SummaryGroup.of?_map alike]

/-! ## Selections -/

namespace Digest

theorem choose_mapHunk (budget : Nat) (candidates : List Candidate) :
    choose budget (candidates.map (Candidate.mapHunk change)) =
      (choose budget candidates).map (Candidate.mapHunk change) := by
  rw [choose, Candidate.rank_mapHunk, Selection.firstFit_map]
  · rfl
  · intro candidate _
    exact (alike candidate.scored.hunk).lines

/-- The hunks of a file are exchanged where they stand. -/
theorem hunksAt_mapHunk (accepted : List Candidate) (place : Nat) :
    hunksAt (accepted.map (Candidate.mapHunk change)) place =
      (hunksAt accepted place).map change := by
  have own : (accepted.map (Candidate.mapHunk change)).filter (fun c => c.place = place) =
      (accepted.filter fun c => c.place = place).map (Candidate.mapHunk change) :=
    List.filter_map
  unfold hunksAt
  rw [own, List.map_mergeSort (s := fun a b => decide (a.range.newStart ≤ b.range.newStart)),
    List.map_map, List.map_map]
  · rfl
  · intro a _ b _
    rw [(alike a).range, (alike b).range]

omit alike in
theorem owners_mapHunk (files : List FileDiff) (accepted : List Candidate) :
    owners (files.map (FileDiff.mapHunks change)) (accepted.map (Candidate.mapHunk change)) =
      (owners files accepted).map (Prod.map (FileDiff.mapHunks change) id) := by
  have same (place : Nat) :
      ((accepted.map (Candidate.mapHunk change)).any fun c => c.place = place) =
        accepted.any fun c => c.place = place := List.any_map
  unfold owners
  rw [List.zipIdx_map, List.filter_map]
  simp only [same]
  rfl

omit alike in
theorem origin_mapHunk {files : List FileDiff} {accepted : List Candidate}
    (inside : ∀ entry ∈ accepted.map Candidate.origin, entry ∈ Candidate.origins files) :
    ∀ entry ∈ (accepted.map (Candidate.mapHunk change)).map Candidate.origin,
      entry ∈ Candidate.origins (files.map (FileDiff.mapHunks change)) := by
  rw [List.map_map]
  intro entry member
  obtain ⟨candidate, among, rfl⟩ := List.mem_map.1 member
  obtain ⟨file, here, own⟩ := Candidate.mem_origins.1 (inside _ (List.mem_map_of_mem among))
  refine Candidate.mem_origins.2 ⟨file.mapHunks change, ?_, List.mem_map_of_mem own⟩
  exact List.getElem?_map.trans (congrArg (Option.map (FileDiff.mapHunks change)) here)

/-- A diff that is rebuilt from exchanged hunks has exchanged hunks. -/
theorem parse_rebuild_mapHunk {files : List FileDiff} {accepted : List Candidate}
    (formed : ∀ file ∈ files, file.WellFormed)
    (exchanged : ∀ file ∈ files.map (FileDiff.mapHunks change), file.WellFormed)
    (inside : ∀ entry ∈ accepted.map Candidate.origin, entry ∈ Candidate.origins files) :
    Diff.parse (rebuild (files.map (FileDiff.mapHunks change))
        (accepted.map (Candidate.mapHunk change))) =
      (Diff.parse (rebuild files accepted)).map (FileDiff.mapHunks change) := by
  rw [parse_rebuild exchanged (origin_mapHunk inside), parse_rebuild formed inside, owners_mapHunk,
    List.map_map, List.map_map]
  apply List.map_congr_left
  intro owner _
  simp only [Function.comp_apply, Prod.map, hunksAt_mapHunk alike]
  rfl

/-! ## Runs without symbols -/

section Runs

variable {text other : String}
  (files : Diff.parse other = (Diff.parse text).map (FileDiff.mapHunks change))

include files

omit alike in
theorem parse_eq_nil_iff : Diff.parse other = [] ↔ Diff.parse text = [] := by
  rw [files, List.map_eq_nil_iff]

theorem choose_none_alike (options : Options) :
    choose options.budget (candidates .none options other) =
      (choose options.budget (candidates .none options text)).map (Candidate.mapHunk change) := by
  rw [candidates_none, candidates_none, files, Candidate.unaided_mapHunks alike,
    choose_mapHunk alike]

theorem highPriority_none_alike (options : Options) :
    Diff.parse (run .none options other).digest.highPriority =
      (Diff.parse (run .none options text).digest.highPriority).map (FileDiff.mapHunks change) := by
  by_cases none : Diff.parse text = []
  · rw [run_digest_of_nil .none options none,
      run_digest_of_nil .none options ((parse_eq_nil_iff files).2 none)]
    exact files
  · have formed : ∀ file ∈ Diff.parse text, file.WellFormed :=
      fun _ member => Diff.wellFormed_of_mem_parse member
    have exchanged : ∀ file ∈ (Diff.parse text).map (FileDiff.mapHunks change),
        file.WellFormed := by
      rw [← files]
      exact fun _ member => Diff.wellFormed_of_mem_parse member
    have inside := origin_of_accepted (isScoring_candidates .none options text) options.budget
    rw [run_digest .none options none, run_digest .none options (mt (parse_eq_nil_iff files).1 none)]
    change Diff.parse (rebuild (Diff.parse other) (choose options.budget _).accepted) = _
    rw [choose_none_alike alike files, files]
    exact parse_rebuild_mapHunk alike formed exchanged inside

theorem summary_none_alike (options : Options) :
    (run .none options other).digest.summary = (run .none options text).digest.summary := by
  by_cases none : Diff.parse text = []
  · rw [run_digest_of_nil .none options none,
      run_digest_of_nil .none options ((parse_eq_nil_iff files).2 none)]
  · have rejected (selection : Selection Candidate) :
        (selection.map (Candidate.mapHunk change)).rejected.map (fun c => c.scored.hunk) =
          (selection.rejected.map fun c => c.scored.hunk).map change := by
      rw [Selection.map, List.map_map, List.map_map]
      rfl
    rw [run_digest .none options none, run_digest .none options (mt (parse_eq_nil_iff files).1 none)]
    unfold ofCandidates
    dsimp only
    rw [choose_none_alike alike files, rejected, summary_map alike]

theorem stats_alike (source : SymbolSource) (options : Options) :
    (run source options other).digest.stats = (run source options text).digest.stats := by
  rw [run_stats, run_stats, files, Stats.of_mapHunks alike]

end Runs

end Digest

end Alike

end DiffDigest
