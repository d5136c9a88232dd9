import DiffDigest.Proofs.Digest.Rebuilt

/-!
# The budget of a digest

The diff of a digest has as many changed lines as its hunks together, and that
is within the budget.  Among all choices of hunks within the budget it is the
one that is best by rank.
-/

namespace DiffDigest

open Diff (FileDiff Hunk)

namespace Digest

variable {files : List FileDiff} {accepted : List Candidate}

/-! ## Changed lines of a rebuilt diff -/

theorem flatMap_entries (files : List FileDiff) (accepted : List Candidate) :
    (entries files accepted).flatMap Prod.snd =
      (List.range files.length).flatMap (hunksAt accepted) := by
  rw [entries, List.flatMap_map]
  exact flatMap_zipIdx files (hunksAt accepted)

/-- Headers, marks and path lines add nothing to what the accepted hunks cost. -/
theorem changedLines_rebuild (formed : ∀ file ∈ files, file.WellFormed)
    (inside : ∀ entry ∈ accepted.map Candidate.origin, entry ∈ Candidate.origins files) :
    Diff.changedLines (rebuild files accepted) = total Candidate.cost accepted := by
  have sorted := flatMap_hunksAt_perm (place_lt_of_subset inside)
  calc
    Diff.changedLines (rebuild files accepted)
      = total Hunk.changedLines ((entries files accepted).flatMap Prod.snd) := by
        rw [rebuild_eq_renderAll, Diff.changedLines_renderAll (allWellFormed_entries formed inside)]
    _ = total Hunk.changedLines (accepted.map fun candidate => candidate.scored.hunk) := by
        rw [flatMap_entries, total_perm _ sorted]
    _ = total Candidate.cost accepted := total_map _ _ _

/-! ## The best choice -/

/-- A digest spends its budget on the hunks that are best by rank. -/
structure SpendsBest (budget : Nat) (files : List FileDiff) (candidates : List Candidate)
    (selection : Selection Candidate) (digest : Digest) : Prop where
  diff : digest.highPriority = rebuild files selection.accepted
  lines : Diff.changedLines digest.highPriority = total Candidate.cost selection.accepted
  within : Diff.changedLines digest.highPriority ≤ budget
  best : ∃ ranked member, Candidate.IsRanking candidates ranked ∧
    selection.IsBest Candidate.cost budget ranked member
  costly : ∀ candidate ∈ selection.rejected, 0 < candidate.cost

theorem spendsBest_ofCandidates (options : Options) {candidates : List Candidate}
    (formed : ∀ file ∈ files, file.WellFormed) (scored : Candidate.IsScoring files candidates) :
    SpendsBest options.budget files candidates (choose options.budget candidates)
      (ofCandidates options files candidates).1 := by
  have best := Selection.isBest_firstFit Candidate.cost options.budget (Candidate.rank candidates)
  have lines : Diff.changedLines (ofCandidates options files candidates).1.highPriority =
      total Candidate.cost (choose options.budget candidates).accepted :=
    changedLines_rebuild formed (origin_of_accepted scored options.budget)
  refine ⟨rfl, lines, ?_, ⟨_, _, Candidate.isRanking_rank candidates, best⟩, ?_⟩
  · rw [lines]
    exact best.fits
  · intro candidate out
    exact best.cost_pos out

/--
A digest spends its budget on the hunks that are best by rank: for any scores of
the hunks, and so for any source of symbols.  Without a budget it has 400 lines.
-/
theorem highPriority_spendsBest {text : String} (found : Diff.parse text ≠ [])
    (options : Options) :
    let budget := if options.maxLines = 0 then 400 else options.maxLines
    (∀ candidates, Candidate.IsScoring (Diff.parse text) candidates →
      SpendsBest budget (Diff.parse text) candidates (choose options.budget candidates)
        (ofCandidates options (Diff.parse text) candidates).1) ∧
    ∀ source : SymbolSource,
      SpendsBest budget (Diff.parse text) (candidates source options text)
        (choose options.budget (candidates source options text))
        (run source options text).digest := by
  have any : ∀ candidates, Candidate.IsScoring (Diff.parse text) candidates →
      SpendsBest options.budget (Diff.parse text) candidates (choose options.budget candidates)
        (ofCandidates options (Diff.parse text) candidates).1 := by
    intro candidates scored
    exact spendsBest_ofCandidates options (fun _ member => Diff.wellFormed_of_mem_parse member)
      scored
  refine ⟨any, ?_⟩
  intro source
  rw [run_digest source options found]
  exact any _ (isScoring_candidates source options text)

/-- A diff whose second hunk does not fit into a budget of two lines. -/
def crowded : String :=
  "diff --git a/x.rs b/x.rs\n@@ -1 +1 @@\n+a\n@@ -5 +5 @@\n+b\n+c\n@@ -9 +9 @@\n-d"

theorem highPriority_spendsBest_crowded :
    Diff.parse crowded ≠ [] ∧
      SpendsBest 2 (Diff.parse crowded) (candidates .none { maxLines := 2 } crowded)
        (choose 2 (candidates .none { maxLines := 2 } crowded))
        (run .none { maxLines := 2 } crowded).digest := by
  have found : Diff.parse crowded ≠ [] := by decide
  exact ⟨found, (highPriority_spendsBest found { maxLines := 2 }).2 .none⟩

end Digest

end DiffDigest
