import DiffDigest.Proofs.Diff.Rebuild
import DiffDigest.Proofs.Digest.Ranking
import DiffDigest.Proofs.Selection
import Mathlib.Data.List.Perm.Basic

/-!
# The diff of a digest

A digest holds a diff again.  Parsing it gives the files that own an accepted
hunk, in their order, and each of them with exactly its accepted hunks.
-/

namespace DiffDigest

open Diff (FileDiff Hunk)

namespace Digest

/-! ## The accepted hunks of a file -/

/-- The accepted hunks of the file at a place, in the order of rank. -/
def hunksOf (accepted : List Candidate) (place : Nat) : List Hunk :=
  (accepted.filter fun candidate => candidate.place = place).map
    fun candidate => candidate.scored.hunk

theorem mem_hunksOf {accepted : List Candidate} {place : Nat} {hunk : Hunk}
    (member : hunk ∈ hunksOf accepted place) :
    (place, hunk) ∈ accepted.map Candidate.origin := by
  obtain ⟨candidate, among, rfl⟩ := List.mem_map.1 member
  obtain ⟨inside, here⟩ := List.mem_filter.1 among
  obtain rfl := of_decide_eq_true here
  exact List.mem_map_of_mem (f := Candidate.origin) inside

/-- Whether the first line of a hunk is not behind that of another. -/
def startsBefore (a b : Hunk) : Bool :=
  decide (a.range.newStart ≤ b.range.newStart)

theorem startsBefore_trans (a b c : Hunk) (first : startsBefore a b = true)
    (second : startsBefore b c = true) : startsBefore a c = true := by
  simp only [startsBefore, decide_eq_true_eq] at *
  omega

theorem startsBefore_total (a b : Hunk) : (startsBefore a b || startsBefore b a) = true := by
  simp only [startsBefore, Bool.or_eq_true, decide_eq_true_eq]
  omega

theorem hunksAt_perm (accepted : List Candidate) (place : Nat) :
    (hunksAt accepted place).Perm (hunksOf accepted place) :=
  List.mergeSort_perm _ _

theorem hunksAt_pairwise (accepted : List Candidate) (place : Nat) :
    (hunksAt accepted place).Pairwise fun a b => a.range.newStart ≤ b.range.newStart := by
  have sorted := List.pairwise_mergeSort startsBefore_trans startsBefore_total
    (hunksOf accepted place)
  exact sorted.imp fun ahead => of_decide_eq_true ahead

/-- Hunks with one first line keep the order of rank. -/
theorem hunksAt_filter (accepted : List Candidate) (place start : Nat) :
    (hunksAt accepted place).filter (fun hunk => hunk.range.newStart = start) =
      (hunksOf accepted place).filter fun hunk => hunk.range.newStart = start := by
  have equal : ((hunksOf accepted place).filter fun hunk => hunk.range.newStart = start).Pairwise
      fun a b => startsBefore a b = true := by
    apply List.pairwise_of_forall_mem_list
    intro a first b second
    have left := of_decide_eq_true (List.mem_filter.1 first).2
    have right := of_decide_eq_true (List.mem_filter.1 second).2
    exact decide_eq_true (by omega)
  exact filter_mergeSort startsBefore_trans startsBefore_total equal

theorem isEmpty_hunksAt (accepted : List Candidate) (place : Nat) :
    (hunksAt accepted place).isEmpty =
      !accepted.any fun candidate => candidate.place = place := by
  have same := (hunksAt_perm accepted place).isEmpty_eq
  rw [same, hunksOf, List.isEmpty_map, Bool.eq_iff_iff, List.isEmpty_iff,
    List.filter_eq_nil_iff, Bool.not_eq_true', List.any_eq_false]

/-! ## The files of the rebuilt diff -/

/-- The files that own an accepted hunk, each with its place. -/
def owners (files : List FileDiff) (accepted : List Candidate) : List (FileDiff × Nat) :=
  files.zipIdx.filter fun entry => accepted.any fun candidate => candidate.place = entry.2

/-- A file is one of the owners with exactly its accepted hunks. -/
structure Keeps (accepted : List Candidate) (owner : FileDiff × Nat) (file : FileDiff) : Prop where
  oldPath : file.oldPath = owner.1.oldPath
  newPath : file.newPath = owner.1.newPath
  isNew : file.isNew = owner.1.isNew
  isDeleted : file.isDeleted = owner.1.isDeleted
  isBinary : file.isBinary = false
  isRenamed : file.isRenamed = false
  hunks : file.hunks.Perm (hunksOf accepted owner.2)
  ascending : file.hunks.Pairwise fun a b => a.range.newStart ≤ b.range.newStart
  ties : ∀ start, file.hunks.filter (fun hunk => hunk.range.newStart = start) =
    (hunksOf accepted owner.2).filter fun hunk => hunk.range.newStart = start

/-- Some files are what the accepted ones of all candidates make up. -/
structure Rebuilds (files : List FileDiff) (candidates accepted : List Candidate)
    (rebuilt : List FileDiff) : Prop where
  ranked : ∃ ranked, Candidate.IsRanking candidates ranked ∧ accepted.Sublist ranked
  owned : ∀ candidate ∈ accepted, ∃ file, files[candidate.place]? = some file ∧
    candidate.scored.hunk ∈ file.hunks
  kept : List.Forall₂ (Keeps accepted) (owners files accepted) rebuilt
  whole : (rebuilt.flatMap FileDiff.hunks).Perm
    (accepted.map fun candidate => candidate.scored.hunk)

theorem keeps_withHunks (accepted : List Candidate) (owner : FileDiff × Nat) :
    Keeps accepted owner (owner.1.withHunks (hunksAt accepted owner.2)) where
  oldPath := rfl
  newPath := rfl
  isNew := rfl
  isDeleted := rfl
  isBinary := rfl
  isRenamed := rfl
  hunks := hunksAt_perm accepted owner.2
  ascending := hunksAt_pairwise accepted owner.2
  ties := hunksAt_filter accepted owner.2

variable {files : List FileDiff} {accepted : List Candidate}

/-- The hunks that a diff is rebuilt from are hunks of its files. -/
theorem owned_of_subset (inside : ∀ entry ∈ accepted.map Candidate.origin,
    entry ∈ Candidate.origins files) :
    ∀ candidate ∈ accepted, ∃ file, files[candidate.place]? = some file ∧
      candidate.scored.hunk ∈ file.hunks := by
  intro candidate member
  exact Candidate.mem_origins.1 (inside _ (List.mem_map_of_mem member))

theorem place_lt_of_subset (inside : ∀ entry ∈ accepted.map Candidate.origin,
    entry ∈ Candidate.origins files) : ∀ candidate ∈ accepted, candidate.place < files.length := by
  intro candidate member
  obtain ⟨file, here, _⟩ := owned_of_subset inside candidate member
  exact (List.getElem?_eq_some_iff.1 here).1

def entries (files : List FileDiff) (accepted : List Candidate) : List (FileDiff × List Hunk) :=
  files.zipIdx.map fun entry => (entry.1, hunksAt accepted entry.2)

theorem rebuild_eq_renderAll : rebuild files accepted = Diff.renderAll (entries files accepted) := by
  unfold rebuild Diff.renderAll entries
  rw [List.mapIdx_eq_zipIdx_map, List.map_map]
  rfl

theorem allWellFormed_entries (formed : ∀ file ∈ files, file.WellFormed)
    (inside : ∀ entry ∈ accepted.map Candidate.origin, entry ∈ Candidate.origins files) :
    Diff.AllWellFormed (entries files accepted) := by
  intro entry member
  obtain ⟨⟨file, place⟩, among, rfl⟩ := List.mem_map.1 member
  have here : files[place]? = some file := List.mem_zipIdx_iff_getElem?.1 among
  have file_mem : file ∈ files := List.mem_of_getElem? here
  refine ⟨formed file file_mem, ?_⟩
  intro hunk own
  have origin := inside _ (mem_hunksOf ((hunksAt_perm accepted place).mem_iff.1 own))
  obtain ⟨other, there, belongs⟩ := Candidate.mem_origins.1 origin
  obtain rfl := Option.some.inj (here.symm.trans there)
  exact (formed file file_mem).hunks hunk belongs

theorem parse_rebuild (formed : ∀ file ∈ files, file.WellFormed)
    (inside : ∀ entry ∈ accepted.map Candidate.origin, entry ∈ Candidate.origins files) :
    Diff.parse (rebuild files accepted) =
      (owners files accepted).map fun owner => owner.1.withHunks (hunksAt accepted owner.2) := by
  rw [rebuild_eq_renderAll, Diff.parse_renderAll (allWellFormed_entries formed inside)]
  unfold entries owners
  rw [List.filter_map, List.map_map]
  congr 2
  funext entry
  simp [isEmpty_hunksAt]

/-! ## Nothing is lost -/

/-- Cutting candidates by their places only changes their order. -/
theorem flatMap_filter_place_perm (accepted : List Candidate) (bound : Nat) :
    ((List.range bound).flatMap fun place =>
      accepted.filter fun candidate => candidate.place = place).Perm
        (accepted.filter fun candidate => candidate.place < bound) := by
  induction bound with
  | zero => simp
  | succ bound ih =>
      have below : (accepted.filter fun candidate => candidate.place < bound) =
          (accepted.filter fun candidate => candidate.place < bound + 1).filter
            fun candidate => candidate.place < bound := by
        rw [List.filter_filter]
        congr 1
        funext candidate
        rw [← Bool.decide_and]
        exact decide_eq_decide.2 (by omega)
      have here : (accepted.filter fun candidate => candidate.place = bound) =
          (accepted.filter fun candidate => candidate.place < bound + 1).filter
            fun candidate => !decide (candidate.place < bound) := by
        rw [List.filter_filter]
        congr 1
        funext candidate
        rw [← decide_not, ← Bool.decide_and]
        exact decide_eq_decide.2 (by omega)
      rw [List.range_succ, List.flatMap_append, List.flatMap_singleton]
      refine (ih.append_right _).trans ?_
      rw [below, here]
      exact List.filter_append_perm _ _

theorem flatMap_hunksOf_perm {bound : Nat}
    (inside : ∀ candidate ∈ accepted, candidate.place < bound) :
    ((List.range bound).flatMap (hunksOf accepted)).Perm
      (accepted.map fun candidate => candidate.scored.hunk) := by
  have all : (accepted.filter fun candidate => candidate.place < bound) = accepted :=
    List.filter_eq_self.2 fun candidate member => decide_eq_true (inside candidate member)
  have cut := flatMap_filter_place_perm accepted bound
  rw [all] at cut
  have hunks := cut.map fun candidate => candidate.scored.hunk
  rw [List.map_flatMap] at hunks
  exact hunks

theorem flatMap_hunksAt_perm {bound : Nat}
    (inside : ∀ candidate ∈ accepted, candidate.place < bound) :
    ((List.range bound).flatMap (hunksAt accepted)).Perm
      (accepted.map fun candidate => candidate.scored.hunk) :=
  (List.Perm.flatMap_left _ fun place _ => hunksAt_perm accepted place).trans
    (flatMap_hunksOf_perm inside)

theorem flatMap_zipIdx {β : Type} (files : List FileDiff) (f : Nat → List β) :
    (files.zipIdx.flatMap fun entry => f entry.2) = (List.range files.length).flatMap f := by
  have places : files.zipIdx.map Prod.snd = List.range files.length := by
    rw [List.zipIdx_map_snd, List.range_eq_range']
  rw [← places, List.flatMap_map]

/-- Files that own no accepted hunk would add none. -/
theorem flatMap_owners (files : List FileDiff) (accepted : List Candidate) :
    (owners files accepted).flatMap (fun owner => hunksAt accepted owner.2) =
      (List.range files.length).flatMap (hunksAt accepted) := by
  have dropped : ∀ entries : List (FileDiff × Nat),
      (entries.filter fun entry => accepted.any fun candidate =>
        candidate.place = entry.2).flatMap (fun owner => hunksAt accepted owner.2) =
      entries.flatMap fun entry => hunksAt accepted entry.2 := by
    intro entries
    induction entries with
    | nil => rfl
    | cons entry rest ih =>
        rw [List.filter_cons, List.flatMap_cons]
        split
        · rw [List.flatMap_cons, ih]
        · rename_i unowned
          have empty := isEmpty_hunksAt accepted entry.2
          rw [Bool.eq_false_iff.2 unowned, Bool.not_false, List.isEmpty_iff] at empty
          rw [ih, empty, List.nil_append]
  rw [owners, dropped, flatMap_zipIdx]

/-! ## The rebuilt diff -/

theorem accepted_sublist_rank (budget : Nat) (candidates : List Candidate) :
    (choose budget candidates).accepted.Sublist (Candidate.rank candidates) :=
  Selection.accepted_sublist Candidate.cost budget (Candidate.rank candidates)

/-- Only hunks of the files are accepted. -/
theorem origin_of_accepted {candidates : List Candidate}
    (scored : Candidate.IsScoring files candidates) (budget : Nat) :
    ∀ entry ∈ (choose budget candidates).accepted.map Candidate.origin,
      entry ∈ Candidate.origins files := by
  intro entry member
  obtain ⟨candidate, among, rfl⟩ := List.mem_map.1 member
  have ranked := (accepted_sublist_rank budget candidates).subset among
  have original := (Candidate.rank_perm candidates).mem_iff.1 ranked
  rw [← scored]
  exact List.mem_map_of_mem original

/-- Parsing the diff that a selection is rebuilt into gives the selection back. -/
theorem rebuilds_parse_rebuild {candidates : List Candidate}
    (formed : ∀ file ∈ files, file.WellFormed)
    (scored : Candidate.IsScoring files candidates) (budget : Nat) :
    Rebuilds files candidates (choose budget candidates).accepted
      (Diff.parse (rebuild files (choose budget candidates).accepted)) := by
  have inside := origin_of_accepted scored budget
  have parsed := parse_rebuild formed inside
  refine ⟨⟨_, Candidate.isRanking_rank candidates, accepted_sublist_rank budget candidates⟩,
    owned_of_subset inside, ?_, ?_⟩
  · rw [parsed, List.forall₂_map_right_iff, List.forall₂_same]
    intro owner _
    exact keeps_withHunks _ owner
  · rw [parsed, List.flatMap_map]
    exact (flatMap_owners files _) ▸ flatMap_hunksAt_perm (place_lt_of_subset inside)

/--
The diff in a digest parses into the files that own accepted hunks, each with
exactly these: for any scores of the hunks, and so for any source of symbols.
-/
theorem parse_highPriority {text : String} (found : Diff.parse text ≠ []) (options : Options) :
    (∀ candidates, Candidate.IsScoring (Diff.parse text) candidates →
      Rebuilds (Diff.parse text) candidates (choose options.budget candidates).accepted
        (Diff.parse (ofCandidates options (Diff.parse text) candidates).1.highPriority)) ∧
    ∀ source : SymbolSource,
      Rebuilds (Diff.parse text) (candidates source options text)
        (choose options.budget (candidates source options text)).accepted
        (Diff.parse (run source options text).digest.highPriority) := by
  have any : ∀ candidates, Candidate.IsScoring (Diff.parse text) candidates →
      Rebuilds (Diff.parse text) candidates (choose options.budget candidates).accepted
        (Diff.parse (ofCandidates options (Diff.parse text) candidates).1.highPriority) := by
    intro candidates scored
    exact rebuilds_parse_rebuild (fun _ member => Diff.wellFormed_of_mem_parse member) scored _
  refine ⟨any, ?_⟩
  intro source
  rw [run_digest source options found]
  exact any _ (isScoring_candidates source options text)

/--
A diff with a path that holds the mark between paths, carriage returns, hunks
out of order and no last newline.
-/
def disorderly : String :=
  "note\ndiff --git a/x b/y b/z\r\n@@ -7 +7 @@\r\n-a\n@@ -1 +1 @@\r\n-a\n+b"

theorem parse_highPriority_disorderly :
    Diff.parse disorderly ≠ [] ∧
      Rebuilds (Diff.parse disorderly) (candidates .none {} disorderly)
        (choose 400 (candidates .none {} disorderly)).accepted
        (Diff.parse (run .none {} disorderly).digest.highPriority) := by
  have found : Diff.parse disorderly ≠ [] := by decide
  exact ⟨found, (parse_highPriority found {}).2 .none⟩

end Digest

end DiffDigest
