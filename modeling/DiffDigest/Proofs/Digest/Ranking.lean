import DiffDigest.Digest

/-!
# Candidates and their rank

The candidates of a digest are the hunks of the parsed files, each once, with
any scores at all.  Ranking them puts the higher score first and keeps the order
of the diff among equal scores.
-/

namespace DiffDigest

open Diff (FileDiff Hunk)

/-! ## Stable sorting -/

section Sorting

variable {α : Type}

/-- Items that are in order already keep their order when a list is sorted. -/
theorem filter_mergeSort {le : α → α → Bool}
    (trans : ∀ a b c, le a b = true → le b c = true → le a c = true)
    (total : ∀ a b, (le a b || le b a) = true) {all : List α} {p : α → Bool}
    (sorted : (all.filter p).Pairwise fun a b => le a b = true) :
    (all.mergeSort le).filter p = all.filter p := by
  have kept := List.sublist_mergeSort trans total sorted List.filter_sublist
  have inside := kept.filter p
  rw [List.filter_filter] at inside
  simp only [Bool.and_self] at inside
  have count := ((List.mergeSort_perm all le).filter p).length_eq
  exact (inside.eq_of_length count.symm).symm

/-- A list in the order of a key is told by its items of each key. -/
theorem eq_of_filter_key (key : α → Nat) {first second : List α}
    (left : first.Pairwise fun a b => key a ≤ key b)
    (right : second.Pairwise fun a b => key a ≤ key b)
    (same : ∀ k, first.filter (fun a => key a = k) = second.filter fun a => key a = k) :
    first = second := by
  have members {first second : List α}
      (same : ∀ k, first.filter (fun a => key a = k) = second.filter fun a => key a = k) (c : α) :
      c ∈ first ↔ c ∈ second := by
    have inside := congrArg (c ∈ ·) (same (key c))
    simpa using inside
  induction first generalizing second with
  | nil =>
      have none : ∀ c, c ∉ second := fun c member => nomatch (members same c).2 member
      exact (List.eq_nil_iff_forall_not_mem.2 none).symm
  | cons a first ih =>
      cases second with
      | nil => exact nomatch (members same a).1 List.mem_cons_self
      | cons b second =>
          -- The first item of each list is in the other one, so both have the least key.
          have keys : key a = key b := by
            rcases List.mem_cons.1 ((members same b).2 List.mem_cons_self) with rfl | front
            · rfl
            · rcases List.mem_cons.1 ((members same a).1 List.mem_cons_self) with rfl | back
              · rfl
              · exact Nat.le_antisymm (List.rel_of_pairwise_cons left front)
                  (List.rel_of_pairwise_cons right back)
          have heads := same (key b)
          simp only [List.filter_cons, keys, decide_true, if_true] at heads
          obtain ⟨rfl, tails⟩ := List.cons.inj heads
          have rest (k : Nat) :
              first.filter (fun a => key a = k) = second.filter fun a => key a = k := by
            by_cases here : key a = k
            · rw [← here, tails]
            · simpa only [List.filter_cons, here, decide_false, Bool.false_eq_true, if_false]
                using same k
          rw [ih left.of_cons right.of_cons rest]

end Sorting

namespace Candidate

/-! ## Hunks with their places -/

def origin (candidate : Candidate) : Nat × Hunk :=
  (candidate.place, candidate.scored.hunk)

/-- The hunks of some files in the order of the diff, each with the place of its file. -/
def origins (files : List FileDiff) : List (Nat × Hunk) :=
  files.zipIdx.flatMap fun entry => entry.1.hunks.map fun hunk => (entry.2, hunk)

/-- Candidates that are the hunks of some files with some scores. -/
def IsScoring (files : List FileDiff) (candidates : List Candidate) : Prop :=
  candidates.map origin = origins files

theorem mem_origins {files : List FileDiff} {place : Nat} {hunk : Hunk} :
    (place, hunk) ∈ origins files ↔ ∃ file, files[place]? = some file ∧ hunk ∈ file.hunks := by
  unfold origins
  rw [List.mem_flatMap]
  constructor
  · rintro ⟨⟨file, index⟩, inside, member⟩
    obtain ⟨own, among, same⟩ := List.mem_map.1 member
    obtain ⟨rfl, rfl⟩ := Prod.mk.inj same
    exact ⟨file, List.mem_zipIdx_iff_getElem?.1 inside, among⟩
  · rintro ⟨file, here, member⟩
    exact ⟨(file, place), List.mem_zipIdx_iff_getElem?.2 here,
      List.mem_map_of_mem (f := fun hunk => (place, hunk)) member⟩

/-- What the entry at one place has made is found by its place. -/
theorem filter_flatMap_zipIdx {α β : Type} {entries : List α} (made : α → Nat → List β)
    (placeOf : β → Nat) (placed : ∀ entry place, ∀ b ∈ made entry place, placeOf b = place)
    {place : Nat} {entry : α} (here : entries[place]? = some entry) :
    (entries.zipIdx.flatMap fun e => made e.1 e.2).filter (fun b => placeOf b = place) =
      made entry place := by
  obtain ⟨inside, rfl⟩ := List.getElem?_eq_some_iff.1 here
  have others {some : List (α × Nat)} (elsewhere : ∀ e ∈ some, e.2 ≠ place) :
      (some.flatMap fun e => made e.1 e.2).filter (fun b => placeOf b = place) = [] := by
    rw [List.filter_eq_nil_iff]
    intro b member same
    obtain ⟨e, among, own⟩ := List.mem_flatMap.1 member
    exact elsewhere e among ((placed _ _ b own).symm.trans (of_decide_eq_true same))
  have shape : entries.zipIdx = (entries.take place).zipIdx ++
      (entries[place], place) :: (entries.drop (place + 1)).zipIdx (place + 1) := by
    have cut : entries = entries.take place ++ entries[place] :: entries.drop (place + 1) := by
      rw [← List.drop_eq_getElem_cons inside, List.take_append_drop]
    have front : (entries.take place).length = place :=
      List.length_take_of_le (Nat.le_of_lt inside)
    conv => lhs; rw [cut, List.zipIdx_append, front, Nat.zero_add, List.zipIdx_cons]
  rw [shape, List.flatMap_append, List.flatMap_cons, List.filter_append, List.filter_append,
    others, others, List.nil_append, List.append_nil]
  · exact List.filter_eq_self.2 fun b member => decide_eq_true (placed _ _ b member)
  · intro e among
    have behind := List.le_snd_of_mem_zipIdx among
    omega
  · intro e among
    have front := List.snd_lt_of_mem_zipIdx among
    rw [List.length_take] at front
    omega

/-- The hunks of one file are found by its place. -/
theorem origins_filter_place {files : List FileDiff} {place : Nat} {file : FileDiff}
    (here : files[place]? = some file) :
    (origins files).filter (fun entry => entry.1 = place) =
      file.hunks.map fun hunk => (place, hunk) := by
  refine filter_flatMap_zipIdx (fun file place => file.hunks.map fun hunk => (place, hunk)) Prod.fst
    ?_ here
  intro file place entry own
  obtain ⟨hunk, -, rfl⟩ := List.mem_map.1 own
  rfl

def ofEntry (entry : FileDiff × Outline) (place : Nat) : List Candidate :=
  (Score.ofFile entry.2 entry.1).map fun scored => ⟨place, scored⟩

theorem ofFiles_eq_flatMap (files : List (FileDiff × Outline)) :
    ofFiles files = files.zipIdx.flatMap fun e => ofEntry e.1 e.2 := by
  rw [ofFiles, List.mapIdx_eq_zipIdx_map, List.flatMap_def]
  congr 1

/-- So are the candidates of one file, and its outline alone tells their scores. -/
theorem ofFiles_filter_place {files : List (FileDiff × Outline)} {place : Nat}
    {entry : FileDiff × Outline} (here : files[place]? = some entry) :
    (ofFiles files).filter (fun candidate => candidate.place = place) = ofEntry entry place := by
  rw [ofFiles_eq_flatMap]
  refine filter_flatMap_zipIdx ofEntry Candidate.place ?_ here
  intro entry place candidate own
  obtain ⟨scored, -, rfl⟩ := List.mem_map.1 own
  rfl

/-- Outlines give scores to the hunks of their files, whatever the outlines are. -/
theorem isScoring_ofFiles (files : List (FileDiff × Outline)) :
    IsScoring (files.map Prod.fst) (ofFiles files) := by
  unfold IsScoring origins ofFiles Score.ofFile
  rw [List.mapIdx_eq_zipIdx_map, List.map_flatten, List.map_map, List.zipIdx_map, List.flatMap_def,
    List.map_map]
  congr 1
  apply List.map_congr_left
  rintro ⟨⟨file, outline⟩, place⟩ -
  simp [Function.comp_def, origin, ScoredHunk.of]

theorem map_snd_origins (files : List FileDiff) :
    (origins files).map Prod.snd = files.flatMap FileDiff.hunks := by
  have firsts : files.zipIdx.map Prod.fst = files := List.zipIdx_map_fst 0 files
  unfold origins
  rw [List.map_flatMap]
  simp only [List.map_map, Function.comp_def, List.map_id']
  conv => rhs; rw [← firsts, List.flatMap_map]

/-- However hunks are scored, they cost their changed lines. -/
theorem IsScoring.total_cost {files : List FileDiff} {candidates : List Candidate}
    (scored : IsScoring files candidates) :
    total cost candidates = total Hunk.changedLines (files.flatMap FileDiff.hunks) := by
  rw [← map_snd_origins, ← scored, total_map, total_map]
  rfl

/-! ## The order of rank -/

/--
Candidates in the order of rank: the higher score goes first, and among equal
scores the one that comes first in the diff.
-/
def IsRanking (candidates ranked : List Candidate) : Prop :=
  ∃ order : List (Candidate × Nat),
    order.Perm candidates.zipIdx ∧ order.map Prod.fst = ranked ∧
      order.Pairwise fun a b =>
        Score.orderKey b.1.scored.score < Score.orderKey a.1.scored.score ∨
          Score.orderKey b.1.scored.score = Score.orderKey a.1.scored.score ∧ a.2 < b.2

def rankEntries (candidates : List Candidate) : List (Candidate × Nat) :=
  candidates.zipIdx.mergeSort (List.zipIdxLE before)

theorem rankEntries_perm (candidates : List Candidate) :
    (rankEntries candidates).Perm candidates.zipIdx :=
  List.mergeSort_perm _ _

theorem map_fst_rankEntries (candidates : List Candidate) :
    (rankEntries candidates).map Prod.fst = rank candidates :=
  List.mergeSort_zipIdx

theorem rankEntries_pairwise (candidates : List Candidate) :
    (rankEntries candidates).Pairwise fun a b =>
      Score.orderKey b.1.scored.score < Score.orderKey a.1.scored.score ∨
        Score.orderKey b.1.scored.score = Score.orderKey a.1.scored.score ∧ a.2 < b.2 := by
  have sorted := List.pairwise_mergeSort (List.zipIdxLE_trans before_trans)
    (List.zipIdxLE_total before_total) candidates.zipIdx
  have distinct : (rankEntries candidates).Pairwise fun a b => a.2 ≠ b.2 := by
    have numbers : (candidates.zipIdx.map Prod.snd).Nodup := by
      rw [List.zipIdx_map_snd]
      exact List.nodup_range'
    have kept := numbers.perm ((rankEntries_perm candidates).map Prod.snd).symm
    exact List.pairwise_map.1 kept
  refine (sorted.and distinct).imp ?_
  rintro ⟨a, i⟩ ⟨b, j⟩ ⟨ahead, differs⟩
  simp only [List.zipIdxLE, before, decide_eq_true_eq] at ahead differs ⊢
  split at ahead
  · split at ahead
    · have later : i ≤ j := of_decide_eq_true ahead
      right
      omega
    · left
      omega
  · cases ahead

theorem isRanking_rank (candidates : List Candidate) : IsRanking candidates (rank candidates) :=
  ⟨rankEntries candidates, rankEntries_perm candidates, map_fst_rankEntries candidates,
    rankEntries_pairwise candidates⟩

end Candidate

/-! ## The candidates of a run -/

namespace Digest

/-- The hunks of a text with the scores that they get from a source. -/
def candidates (source : SymbolSource) (options : Options) (text : String) : List Candidate :=
  Candidate.ofFiles (Consultation.run source options.timeout (Diff.parse text)).files

theorem isScoring_candidates (source : SymbolSource) (options : Options) (text : String) :
    Candidate.IsScoring (Diff.parse text) (candidates source options text) := by
  have scored := Candidate.isScoring_ofFiles
    (Consultation.run source options.timeout (Diff.parse text)).files
  rw [Consultation.run_files] at scored
  exact scored

/-- A run is the digest of these candidates; the source has no other influence. -/
theorem run_digest (source : SymbolSource) (options : Options) {text : String}
    (found : Diff.parse text ≠ []) :
    (run source options text).digest =
      (ofCandidates options (Diff.parse text) (candidates source options text)).1 := by
  have files := Consultation.run_files source options.timeout (Diff.parse text)
  unfold run
  split
  · exact absurd ‹_› found
  · unfold candidates ofFiles
    dsimp only
    rw [files]

/-- A text that is no diff is kept as it is. -/
theorem run_digest_of_nil (source : SymbolSource) (options : Options) {text : String}
    (none : Diff.parse text = []) :
    (run source options text).digest = { highPriority := text } := by
  rw [run, none]

/-- The statistics are those of the files, whatever the source tells. -/
theorem run_stats (source : SymbolSource) (options : Options) (text : String) :
    (run source options text).digest.stats = .of (Diff.parse text) := by
  by_cases none : Diff.parse text = []
  · rw [run_digest_of_nil source options none, none]
    rfl
  · rw [run_digest source options none]
    rfl

end Digest

end DiffDigest
