import DiffDigest.Proofs.Digest.Idempotent
import DiffDigest.Proofs.Fruitless

/-!
# Digests without symbols

Lookups decide about a digest by the outlines alone that the files get in time.  A
file without an outline is scored as if there were no symbols at all, and this is
no matter to any other file.  If no file gets one, the digest is the one that is
made without symbols.
-/

namespace DiffDigest

open Consultation (elapsed runEach served timed)
open Diff (FileDiff)

/-! ## Files without symbols -/

namespace Consultation

def unasked (requests : List (FileDiff × Lookup)) : List (FileDiff × Lookup) :=
  requests.map fun request => (request.1, SymbolSource.none request.1)

theorem runEach_files_fst (deadline : Nat) (requests : List (FileDiff × Lookup)) :
    (runEach deadline requests).files.map Prod.fst = requests.map Prod.fst := by
  have firsts : requests.zipIdx.map Prod.fst = requests := List.zipIdx_map_fst 0 requests
  rw [(follows_runEach deadline requests).files, timed, List.map_map, List.map_map]
  conv => rhs; rw [← firsts, List.map_map]
  rfl

theorem runEach_unasked_files (deadline : Nat) (requests : List (FileDiff × Lookup)) :
    (runEach deadline (unasked requests)).files = requests.map fun request => (request.1, []) := by
  have plain := run_none_files deadline (requests.map Prod.fst)
  rw [run_eq_runEach, List.map_map, List.map_map] at plain
  exact plain

variable {deadline : Nat} {requests : List (FileDiff × Lookup)} {place : Nat} {file : FileDiff}
  {lookup : Lookup}

/-- What a file gets is told by its own lookup and the time that it begins at. -/
theorem runEach_files_getElem? (here : requests[place]? = some (file, lookup)) :
    (runEach deadline requests).files[place]? =
      some (served deadline ((file, lookup), elapsed requests place)) := by
  rw [(follows_runEach deadline requests).files, timed, List.getElem?_map, List.getElem?_map,
    List.getElem?_zipIdx, here]
  simp only [Option.map_some, Nat.zero_add]

theorem exists_served {entry : FileDiff × Outline}
    (member : entry ∈ (runEach deadline requests).files) :
    ∃ request ∈ requests, ∃ begins, entry = served deadline (request, begins) := by
  rw [(follows_runEach deadline requests).files, timed] at member
  obtain ⟨⟨request, begins⟩, among, rfl⟩ := List.mem_map.1 member
  obtain ⟨⟨request, place⟩, inside, same⟩ := List.mem_map.1 among
  cases same
  exact ⟨request, List.fst_mem_of_mem_zipIdx inside, _, rfl⟩

end Consultation

namespace Digest

/-- The digest of some files when each of them comes with a lookup of its own. -/
def ofRequests (options : Options) (requests : List (FileDiff × Lookup)) : Digest :=
  (ofFiles options (runEach options.timeout requests).files).1

def scoredAt (deadline : Nat) (requests : List (FileDiff × Lookup)) (place : Nat) :
    List ScoredHunk :=
  ((Candidate.ofFiles (runEach deadline requests).files).filter
    fun candidate => candidate.place = place).map Candidate.scored

theorem scoredAt_eq {deadline : Nat} {requests : List (FileDiff × Lookup)} {place : Nat}
    {file : FileDiff} {outline : Outline}
    (here : (runEach deadline requests).files[place]? = some (file, outline)) :
    scoredAt deadline requests place = Score.ofFile outline file := by
  unfold scoredAt
  rw [Candidate.ofFiles_filter_place here]
  unfold Candidate.ofEntry
  rw [List.map_map]
  exact List.map_id _

/-! ## Falling back -/

/--
How lookups that may fail decide about the scores of a digest.  Each file gets an
outline, the empty one if its lookup finds nothing or not in time, and its hunks
are scored with this outline.  Without any outline it is all as without symbols.
-/
structure FallsBack (options : Options) (requests : List (FileDiff × Lookup)) : Prop where
  complete : (runEach options.timeout requests).files.map Prod.fst = requests.map Prod.fst
  timely : ∀ (place : Nat) (file : FileDiff) (lookup : Lookup),
    requests[place]? = some (file, lookup) → file.hunks ≠ [] →
    elapsed requests place < options.timeout →
    elapsed requests place + lookup.delay ≤ options.timeout →
      (runEach options.timeout requests).files[place]? = some (file, lookup.outline)
  late : ∀ (place : Nat) (file : FileDiff) (lookup : Lookup),
    requests[place]? = some (file, lookup) →
    options.timeout ≤ elapsed requests place ∨
      options.timeout < elapsed requests place + lookup.delay →
      (runEach options.timeout requests).files[place]? = some (file, [])
  fruitless : ∀ (place : Nat) (file : FileDiff) (lookup : Lookup),
    requests[place]? = some (file, lookup) → lookup.outline = [] →
      (runEach options.timeout requests).files[place]? = some (file, [])
  own : ∀ (place : Nat) (file : FileDiff) (outline : Outline),
    (runEach options.timeout requests).files[place]? = some (file, outline) →
      scoredAt options.timeout requests place = Score.ofFile outline file
  plain : ∀ (place : Nat) (file : FileDiff),
    (runEach options.timeout requests).files[place]? = some (file, []) →
      scoredAt options.timeout requests place =
        scoredAt options.timeout (Consultation.unasked requests) place
  whole : (∀ entry ∈ (runEach options.timeout requests).files, entry.2 = []) →
    ofRequests options requests = ofRequests options (Consultation.unasked requests)

theorem fallsBack_ofRequests (options : Options) (requests : List (FileDiff × Lookup)) :
    FallsBack options requests := by
  have complete := Consultation.runEach_files_fst options.timeout requests
  refine ⟨complete, ?_, ?_, ?_, fun _ _ _ => scoredAt_eq, ?_, ?_⟩
  · intro place file lookup here filled early inTime
    rw [Consultation.runEach_files_getElem? here, served, if_pos ⟨⟨filled, early⟩, inTime⟩]
  · intro place file lookup here late
    rw [Consultation.runEach_files_getElem? here, served, if_neg]
    rintro ⟨⟨-, early⟩, inTime⟩
    rcases late with late | late
    · exact late.not_gt early
    · exact late.not_ge inTime
  · intro place file lookup here nothing
    rw [Consultation.runEach_files_getElem? here, served, nothing, ite_self]
  · intro place file here
    have bare : (runEach options.timeout (Consultation.unasked requests)).files[place]? =
        some (file, []) := by
      have first := congrArg (fun files => files[place]?) complete
      rw [List.getElem?_map, here, List.getElem?_map] at first
      obtain ⟨request, among, same⟩ := Option.map_eq_some_iff.1 first.symm
      rw [Consultation.runEach_unasked_files, List.getElem?_map, among, Option.map_some, same]
    rw [scoredAt_eq here, scoredAt_eq bare]
  · intro empty
    have bare : (runEach options.timeout requests).files =
        (runEach options.timeout (Consultation.unasked requests)).files := by
      have each : (runEach options.timeout requests).files =
          ((runEach options.timeout requests).files.map Prod.fst).map fun file => (file, []) := by
        rw [List.map_map]
        conv => lhs; rw [← List.map_id (runEach options.timeout requests).files]
        apply List.map_congr_left
        rintro ⟨file, outline⟩ member
        cases empty _ member
        rfl
      rw [each, complete, Consultation.runEach_unasked_files, List.map_map]
      rfl
    unfold ofRequests
    rw [bare]

/-- A run is the digest of its files, each with what the source finds for it. -/
theorem run_eq_ofRequests (source : SymbolSource) (options : Options) (text : String) :
    (run source options text).digest =
      if Diff.parse text = [] then { highPriority := text }
      else ofRequests options ((Diff.parse text).map fun file => (file, source file)) := by
  unfold ofRequests
  rw [← Consultation.run_eq_runEach]
  unfold run
  split
  · rename_i none
    rw [if_pos none]
  · rename_i found
    rw [if_neg found]

/-- The files of a text with the outlines that they get from a source in time. -/
def outlines (source : SymbolSource) (options : Options) (text : String) :
    List (FileDiff × Outline) :=
  (Consultation.run source options.timeout (Diff.parse text)).files

/-- A source has no other influence on a run than the outlines that the files get. -/
structure ToldByOutlines (source : SymbolSource) (options : Options) (text : String) : Prop where
  made : (run source options text).digest =
    if Diff.parse text = [] then { highPriority := text }
    else ofRequests options ((Diff.parse text).map fun file => (file, source file))
  same : ∀ (other : SymbolSource) (timeout : Nat),
    outlines source options text = outlines other { options with timeout } text →
      (run source options text).digest = (run other { options with timeout } text).digest
  bare : (∀ entry ∈ outlines source options text, entry.2 = []) →
    (run source options text).digest = (run .none options text).digest

theorem toldByOutlines_run (source : SymbolSource) (options : Options) (text : String) :
    ToldByOutlines source options text := by
  refine ⟨run_eq_ofRequests source options text, ?_, ?_⟩
  · intro other timeout same
    unfold outlines at same
    rw [Consultation.run_eq_runEach, Consultation.run_eq_runEach] at same
    rw [run_eq_ofRequests, run_eq_ofRequests]
    unfold ofRequests
    rw [same]
    rfl
  · intro empty
    unfold outlines at empty
    rw [Consultation.run_eq_runEach] at empty
    have whole := (fallsBack_ofRequests options _).whole empty
    unfold Consultation.unasked at whole
    rw [List.map_map] at whole
    rw [run_eq_ofRequests, run_eq_ofRequests, whole]
    rfl

/-- Where nothing is found for any file with hunks, the digest is the one without symbols. -/
theorem run_of_outlines_nil (source : SymbolSource) (options : Options) {text : String}
    (nothing : ∀ file ∈ Diff.parse text, file.hunks ≠ [] → (source file).outline = []) :
    (run source options text).digest = (run .none options text).digest := by
  apply (toldByOutlines_run source options text).bare
  intro entry member
  unfold outlines at member
  rw [Consultation.run_eq_runEach] at member
  obtain ⟨request, among, begins, rfl⟩ := Consultation.exists_served member
  obtain ⟨file, inside, rfl⟩ := List.mem_map.1 among
  unfold served
  split
  · rename_i succeeds
    exact nothing file inside succeeds.1.1
  · rfl

/--
Failed lookups fall back to the digest without symbols, file by file: whatever the
lookups come to and however long they take, whatever the reasons are for which a
server tells nothing, and in a run of any servers that all tell nothing.
-/
theorem lookups_fallBack :
    (∀ (options : Options) (requests : List (FileDiff × Lookup)), FallsBack options requests) ∧
    (∀ (source : SymbolSource) (options : Options) (text : String),
      ToldByOutlines source options text) ∧
    (∀ (s : ServerSymbols) (room : Option Nat) (file : FileDiff),
      ServerSymbols.Reveals s room file) ∧
    ∀ (servers : FileDiff → ServerSymbols) (room : FileDiff → Option Nat) (options : Options)
      (text : String),
      (∀ file ∈ Diff.parse text, file.hunks ≠ [] →
        ServerSymbols.Fruitless (servers file) (room file) file) →
      (run (fun file => (servers file).lookUp (room file) file) options text).digest =
        (run .none options text).digest := by
  refine ⟨fallsBack_ofRequests, toldByOutlines_run, ServerSymbols.reveals_lookUp, ?_⟩
  intro servers room options text fruitless
  apply run_of_outlines_nil
  intro file inside filled
  exact (fruitless file inside filled).outline

end Digest

end DiffDigest
