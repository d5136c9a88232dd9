import DiffDigest.Proofs.Digest.Rebuilt

/-!
# The digest of a digest

Without symbols the score of a hunk depends on the hunk alone.  So the hunks of a
digest get the same scores again, all of them fit into the budget, and ranking
and sorting them once more leaves them where they are.
-/

namespace DiffDigest

open Diff (FileDiff Hunk)

/-! ## Hunks without symbols -/

namespace Consultation

theorem visit_none_files (deadline : Nat) (c : Consultation) (file : FileDiff) :
    (visit .none deadline c file).files = c.files ++ [(file, [])] := by
  have outline (clock : Nat) : (result deadline clock (SymbolSource.none file)).1.getD [] = [] := by
    change (if clock + 0 ≤ deadline then (some [], clock + 0) else (none, deadline)).1.getD [] = []
    split <;> rfl
  rw [visit]
  split
  · rfl
  · split
    · rfl
    · exact congrArg (fun found => c.files ++ [(file, found)]) (outline c.clock)

/-- All outlines are empty, also those of files that are not looked up in time. -/
theorem run_none_files (deadline : Nat) (files : List FileDiff) :
    (run .none deadline files).files = files.map fun file => (file, []) := by
  suffices step : ∀ c : Consultation, (files.foldl (visit .none deadline) c).files =
      c.files ++ files.map fun file => (file, []) by
    exact step {}
  induction files with
  | nil => exact fun c => (List.append_nil _).symm
  | cons file rest ih =>
      intro c
      rw [List.foldl_cons, ih, visit_none_files, List.append_assoc]
      rfl

end Consultation

/-- The place in the order of scores of a hunk that touches no symbol. -/
def Score.unaided (hunk : Hunk) : Int :=
  orderKey (ScoredHunk.of [] hunk).score

namespace Candidate

def ofOrigin (entry : Nat × Hunk) : Candidate :=
  ⟨entry.1, .of [] entry.2⟩

def unaided (files : List FileDiff) : List Candidate :=
  (origins files).map ofOrigin

theorem before_ofOrigin (a b : Nat × Hunk) :
    before (ofOrigin a) (ofOrigin b) = decide (Score.unaided b.2 ≤ Score.unaided a.2) :=
  rfl

theorem isScoring_unaided (files : List FileDiff) : IsScoring files (unaided files) := by
  rw [IsScoring, unaided, List.map_map]
  exact List.map_id _

theorem ofFiles_unaided (files : List FileDiff) :
    ofFiles (files.map fun file => (file, [])) = unaided files := by
  rw [ofFiles, unaided, origins, List.mapIdx_eq_zipIdx_map, List.zipIdx_map, List.map_map,
    List.flatMap_def, List.map_flatten, List.map_map]
  congr 1
  apply List.map_congr_left
  rintro ⟨file, place⟩ -
  simp only [Function.comp_apply, Score.ofFile, List.map_map]
  rfl

end Candidate

namespace Digest

theorem candidates_none (options : Options) (text : String) :
    candidates .none options text = Candidate.unaided (Diff.parse text) := by
  rw [candidates, Consultation.run_none_files, Candidate.ofFiles_unaided]

/-! ## Hunks that stay where they are -/

/-- Hunks by their first lines, and by their scores where these are equal. -/
structure Settled (hunks : List Hunk) : Prop where
  ascending : hunks.Pairwise fun a b => a.range.newStart ≤ b.range.newStart
  ranked : ∀ start, (hunks.filter fun hunk => hunk.range.newStart = start).Pairwise
    fun a b => Score.unaided b ≤ Score.unaided a

/-- The hunks that a file keeps are settled. -/
theorem Keeps.settled {accepted : List Candidate} {owner : FileDiff × Nat} {file : FileDiff}
    (kept : Keeps accepted owner file)
    (ranked : accepted.Pairwise fun a b => Candidate.before a b = true)
    (plain : ∀ candidate ∈ accepted, candidate = .ofOrigin candidate.origin) :
    Settled file.hunks := by
  constructor
  · exact kept.ascending
  · intro start
    rw [kept.ties, hunksOf]
    apply List.Pairwise.filter
    rw [List.pairwise_map]
    apply List.Pairwise.filter
    apply ranked.imp_of_mem
    intro a b first second ahead
    rw [plain a first, plain b second, Candidate.before_ofOrigin] at ahead
    exact of_decide_eq_true ahead

variable {files : List FileDiff}

/-- Ranking settled hunks and sorting them again changes nothing. -/
theorem hunksAt_rank {place : Nat} {file : FileDiff} (here : files[place]? = some file)
    (settled : Settled file.hunks) :
    hunksAt (Candidate.rank (Candidate.unaided files)) place = file.hunks := by
  apply eq_of_filter_key (fun hunk : Hunk => hunk.range.newStart) (hunksAt_pairwise _ _)
    settled.ascending
  intro start
  let tied (candidate : Candidate) : Bool :=
    decide (candidate.scored.hunk.range.newStart = start) && decide (candidate.place = place)
  have own : (Candidate.unaided files).filter tied =
      (file.hunks.filter fun hunk => hunk.range.newStart = start).map
        fun hunk => .ofOrigin (place, hunk) := by
    have parts : (Candidate.origins files).filter (tied ∘ Candidate.ofOrigin) =
        ((Candidate.origins files).filter fun entry => entry.1 = place).filter
          fun entry => entry.2.range.newStart = start := List.filter_filter.symm
    rw [Candidate.unaided, List.filter_map, parts, Candidate.origins_filter_place here,
      List.filter_map, List.map_map]
    rfl
  have sorted : ((Candidate.unaided files).filter tied).Pairwise
      fun a b => Candidate.before a b = true := by
    rw [own, List.pairwise_map]
    exact (settled.ranked start).imp fun ahead => decide_eq_true ahead
  have ranked := filter_mergeSort Candidate.before_trans Candidate.before_total sorted
  rw [hunksAt_filter, hunksOf, List.filter_map, List.filter_filter]
  change ((Candidate.rank _).filter tied).map (fun candidate => candidate.scored.hunk) = _
  rw [Candidate.rank, ranked, own, List.map_map]
  exact List.map_id _

theorem rebuild_rank (settled : ∀ file ∈ files, Settled file.hunks) :
    rebuild files (Candidate.rank (Candidate.unaided files)) =
      Diff.renderAll (files.map fun file => (file, file.hunks)) := by
  have firsts : files.map (fun file => (file, file.hunks)) =
      files.zipIdx.map fun entry => (entry.1, entry.1.hunks) := by
    conv_lhs => rw [← List.zipIdx_map_fst 0 files, List.map_map]
    rfl
  rw [rebuild_eq_renderAll, entries, firsts]
  congr 1
  apply List.map_congr_left
  rintro ⟨file, place⟩ among
  have here := List.mem_zipIdx_iff_getElem?.1 among
  rw [hunksAt_rank here (settled file (List.mem_of_getElem? here))]

/-! ## The second digest -/

/-- All candidates are accepted when they fit into the budget together. -/
theorem choose_of_total_le {budget : Nat} {candidates : List Candidate}
    (fits : total Candidate.cost candidates ≤ budget) :
    choose budget candidates = ⟨Candidate.rank candidates, []⟩ := by
  apply Selection.firstFit_of_total_le
  rwa [total_perm _ (Candidate.rank_perm candidates)]

def kept (budget : Nat) (files : List FileDiff) : List Candidate :=
  (choose budget (Candidate.unaided files)).accepted

section Twice

variable (formed : ∀ file ∈ files, file.WellFormed) (budget : Nat)

include formed

theorem settled_of_mem_parse {file : FileDiff}
    (member : file ∈ Diff.parse (rebuild files (kept budget files))) : Settled file.hunks := by
  have inside := origin_of_accepted (Candidate.isScoring_unaided files) budget
  have sublist := accepted_sublist_rank budget (Candidate.unaided files)
  rw [kept, parse_rebuild formed inside] at member
  obtain ⟨owner, -, rfl⟩ := List.mem_map.1 member
  apply (keeps_withHunks _ owner).settled
  · exact (Candidate.rank_pairwise _).sublist sublist
  · intro candidate among
    have original := (Candidate.rank_perm _).mem_iff.1 (sublist.subset among)
    obtain ⟨entry, -, rfl⟩ := List.mem_map.1 original
    rfl

/-- The accepted hunks fit into the budget again. -/
theorem choose_parse_rebuild :
    let rebuilt := Diff.parse (rebuild files (kept budget files))
    choose budget (Candidate.unaided rebuilt) =
      ⟨Candidate.rank (Candidate.unaided rebuilt), []⟩ := by
  have whole := (rebuilds_parse_rebuild formed (Candidate.isScoring_unaided files) budget).whole
  apply choose_of_total_le
  rw [(Candidate.isScoring_unaided _).total_cost, kept, total_perm _ whole, total_map]
  exact Selection.used_firstFit_le _ _ _

/-- Writing all hunks of a rebuilt diff by their rank gives that diff again. -/
theorem rebuild_parse_rebuild :
    let rebuilt := Diff.parse (rebuild files (kept budget files))
    rebuild rebuilt (Candidate.rank (Candidate.unaided rebuilt)) =
      rebuild files (kept budget files) := by
  intro rebuilt
  have inside := origin_of_accepted (Candidate.isScoring_unaided files) budget
  have parsed : rebuilt = Diff.parse (Diff.renderAll (entries files (kept budget files))) :=
    congrArg Diff.parse rebuild_eq_renderAll
  calc
    rebuild rebuilt (Candidate.rank (Candidate.unaided rebuilt))
      = Diff.renderAll (rebuilt.map fun file => (file, file.hunks)) :=
        rebuild_rank fun _ member => settled_of_mem_parse formed budget member
    _ = Diff.renderAll (entries files (kept budget files)) := by
        rw [parsed]
        exact Diff.renderAll_parse (allWellFormed_entries formed inside)
    _ = rebuild files (kept budget files) := rebuild_eq_renderAll.symm

/-- The digest of a rebuilt diff is that diff, and it rejects nothing. -/
theorem ofCandidates_parse_rebuild (options : Options) :
    let rebuilt := Diff.parse (rebuild files (kept options.budget files))
    let digest := (ofCandidates options rebuilt (Candidate.unaided rebuilt)).1
    digest.highPriority = rebuild files (kept options.budget files) ∧ digest.summary = "" := by
  intro rebuilt digest
  have chosen : choose options.budget (Candidate.unaided rebuilt) =
      ⟨Candidate.rank (Candidate.unaided rebuilt), []⟩ := choose_parse_rebuild formed options.budget
  constructor
  · change rebuild rebuilt (choose options.budget (Candidate.unaided rebuilt)).accepted = _
    rw [chosen]
    exact rebuild_parse_rebuild formed options.budget
  · change (if options.includeSummary then DiffDigest.summary
      ((choose options.budget (Candidate.unaided rebuilt)).rejected.map _) else "") = ""
    rw [chosen]
    split <;> rfl

end Twice

/-- A digest without symbols is that of the hunks of its text. -/
theorem run_none_digest (options : Options) {text : String} (found : Diff.parse text ≠ []) :
    (run .none options text).digest =
      (ofCandidates options (Diff.parse text) (Candidate.unaided (Diff.parse text))).1 := by
  rw [run_digest .none options found, candidates_none]

/--
The diff of a digest is its own digest, and nothing of it is summed up: whatever
the text is, and whatever the order and the paths of its files.
-/
theorem run_idempotent (options : Options) (text : String) :
    let first := (run .none options text).digest
    let second := (run .none options first.highPriority).digest
    second.highPriority = first.highPriority ∧ second.summary = "" := by
  dsimp only
  by_cases found : Diff.parse text = []
  · rw [run_digest_of_nil .none options found]
    dsimp only
    rw [run_digest_of_nil .none options found]
    exact ⟨rfl, rfl⟩
  · have formed : ∀ file ∈ Diff.parse text, file.WellFormed :=
      fun _ member => Diff.wellFormed_of_mem_parse member
    have diff : (run .none options text).digest.highPriority =
        rebuild (Diff.parse text) (kept options.budget (Diff.parse text)) :=
      congrArg Digest.highPriority (run_none_digest options found)
    rw [diff]
    by_cases again : Diff.parse
        (rebuild (Diff.parse text) (kept options.budget (Diff.parse text))) = []
    · -- Nothing was accepted, and the empty text is no diff.
      rw [run_digest_of_nil .none options again]
      exact ⟨rfl, rfl⟩
    · rw [run_none_digest options again]
      exact ofCandidates_parse_rebuild formed options

end Digest

end DiffDigest
