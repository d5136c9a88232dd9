import DiffDigest.Score

/-!
# Ranking

The hunks of all files compete with each other.  The higher score goes first;
hunks of one score keep the order in which they were parsed.
-/

namespace DiffDigest

open Diff (FileDiff)

/-- A scored hunk with the place of its file in the diff. -/
structure Candidate where
  place : Nat
  scored : ScoredHunk
deriving Inhabited

namespace Candidate

def cost (candidate : Candidate) : Nat :=
  candidate.scored.hunk.changedLines

def before (a b : Candidate) : Bool :=
  Score.orderKey b.scored.score ≤ Score.orderKey a.scored.score

def ofFiles (files : List (FileDiff × Outline)) : List Candidate :=
  (files.mapIdx fun place (file, outline) =>
    (Score.ofFile outline file).map fun scored => ⟨place, scored⟩).flatten

def rank (candidates : List Candidate) : List Candidate :=
  candidates.mergeSort before

theorem before_trans (a b c : Candidate) (first : before a b = true)
    (second : before b c = true) : before a c = true := by
  simp only [before, decide_eq_true_eq] at *
  omega

theorem before_total (a b : Candidate) : (before a b || before b a) = true := by
  simp only [before, Bool.or_eq_true, decide_eq_true_eq]
  omega

/-- Ranking only changes the order. -/
theorem rank_perm (candidates : List Candidate) : (rank candidates).Perm candidates :=
  List.mergeSort_perm candidates before

/-- No candidate has a higher score than one in front of it. -/
theorem rank_pairwise (candidates : List Candidate) :
    (rank candidates).Pairwise fun a b => before a b = true :=
  List.pairwise_mergeSort before_trans before_total candidates

end Candidate

end DiffDigest
