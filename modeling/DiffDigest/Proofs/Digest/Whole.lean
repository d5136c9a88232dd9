import DiffDigest.Proofs.Digest.Idempotent

/-!
# Diffs that fit

A diff that fits into the budget is kept whole.  Where the first lines of the
hunks of a file differ, they alone tell the order in which the hunks are written,
and the scores leave no trace: whatever the symbols are, and whenever they come.
-/

namespace DiffDigest

open Diff (FileDiff Hunk)

namespace Digest

structure InOrder (file : FileDiff) (hunks : List Hunk) : Prop where
  all : hunks.Perm file.hunks
  ascending : hunks.Pairwise fun a b => a.range.newStart < b.range.newStart

theorem InOrder.unique {file : FileDiff} {first second : List Hunk} (one : InOrder file first)
    (other : InOrder file second) : first = second := by
  refine List.Perm.eq_of_pairwise ?_ one.ascending other.ascending (one.all.trans other.all.symm)
  intro a b _ _ ahead behind
  exact absurd (Nat.lt_trans ahead behind) (Nat.lt_irrefl _)

theorem forall₂_inOrder_unique {files : List FileDiff} {first second : List (List Hunk)}
    (one : List.Forall₂ InOrder files first) (other : List.Forall₂ InOrder files second) :
    first = second := by
  induction one generalizing second with
  | nil => cases other with
    | nil => rfl
  | cons here _ ih => cases other with
    | cons there later => rw [here.unique there, ih later]

/-- A digest that holds some files whole, in their order, and sums up nothing. -/
def HoldsWhole (files : List FileDiff) (digest : Digest) : Prop :=
  ∃ orders, List.Forall₂ InOrder files orders ∧
    digest = { highPriority := Diff.renderAll (files.zip orders), summary := "", stats := .of files }

theorem HoldsWhole.unique {files : List FileDiff} {first second : Digest}
    (one : HoldsWhole files first) (other : HoldsWhole files second) : first = second := by
  obtain ⟨orders, inOrder, rfl⟩ := one
  obtain ⟨otherOrders, alsoInOrder, rfl⟩ := other
  rw [forall₂_inOrder_unique inOrder alsoInOrder]

def Distinct (files : List FileDiff) : Prop :=
  ∀ file ∈ files, (file.hunks.map fun hunk => hunk.range.newStart).Nodup

variable {files : List FileDiff} {candidates : List Candidate}

/-- The hunks of a file, by rank, are its hunks. -/
theorem hunksOf_rank_perm (scored : Candidate.IsScoring files candidates) {place : Nat}
    {file : FileDiff} (here : files[place]? = some file) :
    (hunksOf (Candidate.rank candidates) place).Perm file.hunks := by
  have own : hunksOf candidates place = file.hunks := by
    have found := Candidate.origins_filter_place here
    rw [← scored, List.filter_map] at found
    have hunks := congrArg (List.map Prod.snd) found
    rw [List.map_map, List.map_map] at hunks
    exact hunks.trans (List.map_id _)
  have ranked := ((Candidate.rank_perm candidates).filter fun candidate =>
    decide (candidate.place = place)).map fun candidate => candidate.scored.hunk
  exact own ▸ ranked

theorem inOrder_hunksAt_rank (scored : Candidate.IsScoring files candidates)
    (distinct : Distinct files) {place : Nat} {file : FileDiff}
    (here : files[place]? = some file) :
    InOrder file (hunksAt (Candidate.rank candidates) place) := by
  have all := (hunksAt_perm _ _).trans (hunksOf_rank_perm scored here)
  refine ⟨all, ?_⟩
  have starts : ((hunksAt (Candidate.rank candidates) place).map
      fun hunk => hunk.range.newStart).Nodup :=
    (all.map _).nodup_iff.2 (distinct file (List.mem_of_getElem? here))
  refine ((hunksAt_pairwise _ _).and (List.pairwise_map.1 starts)).imp ?_
  rintro a b ⟨ahead, differs⟩
  exact Nat.lt_of_le_of_ne ahead differs

theorem entries_eq_zip (files : List FileDiff) (accepted : List Candidate) :
    entries files accepted = files.zip (files.zipIdx.map fun entry => hunksAt accepted entry.2) := by
  have firsts : files.zipIdx.map Prod.fst = files := List.zipIdx_map_fst 0 files
  conv_rhs => arg 1; rw [← firsts]
  rw [entries, List.zip_map']

/-- Whatever the scores are, a diff that fits is held whole. -/
theorem holdsWhole_ofCandidates (scored : Candidate.IsScoring files candidates)
    (distinct : Distinct files) {options : Options}
    (fits : total Hunk.changedLines (files.flatMap FileDiff.hunks) ≤ options.budget) :
    HoldsWhole files (ofCandidates options files candidates).1 := by
  rw [← scored.total_cost] at fits
  have chosen := choose_of_total_le fits
  refine ⟨files.zipIdx.map fun entry => hunksAt (Candidate.rank candidates) entry.2, ?_, ?_⟩
  · have firsts : files.zipIdx.map Prod.fst = files := List.zipIdx_map_fst 0 files
    conv => arg 2; rw [← firsts]
    rw [List.forall₂_map_left_iff, List.forall₂_map_right_iff, List.forall₂_same]
    rintro ⟨file, place⟩ among
    exact inOrder_hunksAt_rank scored distinct (List.mem_zipIdx_iff_getElem?.1 among)
  · unfold ofCandidates
    dsimp only
    rw [chosen, rebuild_eq_renderAll, entries_eq_zip]
    dsimp only
    rw [List.map_nil]
    split <;> rfl

/--
Where everything fits, ranking leaves no trace: for any scores of the hunks, and so
for any two sources of symbols and any deadlines, all files are held whole.
-/
theorem run_holdsWhole {text : String} (found : Diff.parse text ≠ [])
    (distinct : Distinct (Diff.parse text)) :
    let lines := total Hunk.changedLines ((Diff.parse text).flatMap FileDiff.hunks)
    (∀ candidates options, Candidate.IsScoring (Diff.parse text) candidates →
      lines ≤ options.budget →
        HoldsWhole (Diff.parse text) (ofCandidates options (Diff.parse text) candidates).1) ∧
    (∀ source options, lines ≤ options.budget →
      HoldsWhole (Diff.parse text) (run source options text).digest) ∧
    ∀ source otherSource options otherOptions,
      lines ≤ options.budget → lines ≤ otherOptions.budget →
        (run source options text).digest = (run otherSource otherOptions text).digest := by
  intro lines
  have any : ∀ source options, lines ≤ options.budget →
      HoldsWhole (Diff.parse text) (run source options text).digest := by
    intro source options fits
    rw [run_digest source options found]
    exact holdsWhole_ofCandidates (isScoring_candidates source options text) distinct fits
  refine ⟨fun _ _ scored fits => holdsWhole_ofCandidates scored distinct fits, any, ?_⟩
  intro source otherSource options otherOptions fits alsoFits
  exact (any source options fits).unique (any otherSource otherOptions alsoFits)

theorem run_holdsWhole_disorderly :
    Diff.parse disorderly ≠ [] ∧ Distinct (Diff.parse disorderly) ∧
      total Hunk.changedLines ((Diff.parse disorderly).flatMap FileDiff.hunks) = 3 ∧
      HoldsWhole (Diff.parse disorderly)
        (run (fun _ => { answer := none }) { maxLines := 3, timeout := 7 } disorderly).digest ∧
      (run (fun _ => { answer := none }) { maxLines := 3, timeout := 7 } disorderly).digest =
        (run .none {} disorderly).digest := by
  have found : Diff.parse disorderly ≠ [] := by decide
  have distinct : Distinct (Diff.parse disorderly) := by
    unfold Distinct
    decide
  have lines : total Hunk.changedLines ((Diff.parse disorderly).flatMap FileDiff.hunks) = 3 := by
    decide
  obtain ⟨-, whole, same⟩ := run_holdsWhole found distinct
  refine ⟨found, distinct, lines, whole _ _ ?_, same _ _ _ _ ?_ ?_⟩
  · rw [lines]
    decide
  · rw [lines]
    decide
  · rw [lines]
    decide

end Digest

end DiffDigest
