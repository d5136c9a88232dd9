import DiffDigest.Proofs.Digest.Greedy
import DiffDigest.Proofs.Score
import Mathlib.Data.List.Nodup

/-!
# Raised scores

When the score of a single hunk is raised, the hunk moves forward in the order of
rank, and the others keep their order.  In front of its new place fewer lines are
taken than in front of its old one, so an accepted hunk stays accepted, although
hunks behind it may change sides.
-/

namespace DiffDigest

open Diff (FileDiff Hunk)

/-! ## Places in the order of a key -/

/-- The greater key is ahead, and of equal keys the lower place. -/
def Ahead (key : Nat → Int) (first second : Nat) : Prop :=
  key second < key first ∨ key second = key first ∧ first < second

instance (key : Nat → Int) (first second : Nat) : Decidable (Ahead key first second) :=
  inferInstanceAs (Decidable (_ ∨ _))

section Places

variable {key raised : Nat → Int} {place : Nat} {old new : List Nat}

theorem nodup_of_ahead (sorted : old.Pairwise (Ahead key)) : old.Nodup := by
  refine sorted.imp ?_
  rintro first second ahead rfl
  unfold Ahead at ahead
  omega

/-- The places other than one keep their order when only its key changes. -/
theorem eq_of_others (others : ∀ other, other ≠ place → raised other = key other)
    (sorted : old.Pairwise (Ahead key)) (resorted : new.Pairwise (Ahead raised))
    (same : new.Perm old) (outside : place ∉ old) : new = old := by
  have kept : new.Pairwise (Ahead key) := by
    refine resorted.imp_of_mem ?_
    intro first second one other ahead
    have outsideNew : ∀ other ∈ new, other ≠ place := by
      rintro other member rfl
      exact outside (same.mem_iff.1 member)
    unfold Ahead at ahead ⊢
    rw [others first (outsideNew first one), others second (outsideNew second other)] at ahead
    exact ahead
  refine List.Perm.eq_of_pairwise ?_ kept sorted same
  intro first second _ _ ahead behind
  unfold Ahead at ahead behind
  omega

/-- A place whose key is raised does not move back. -/
theorem exists_forward (others : ∀ other, other ≠ place → raised other = key other)
    (higher : key place ≤ raised place) (sorted : old.Pairwise (Ahead key))
    (resorted : new.Pairwise (Ahead raised)) (same : new.Perm old) (member : place ∈ old) :
    ∃ front between back, old = (front ++ between) ++ place :: back ∧
      new = front ++ place :: (between ++ back) := by
  obtain ⟨front, back, rfl⟩ := List.append_of_mem member
  obtain ⟨ahead, behind, rfl⟩ := List.append_of_mem (same.mem_iff.2 member)
  have outside := (List.nodup_cons.1 (List.nodup_middle.1 (nodup_of_ahead sorted))).1
  have rest : (ahead ++ behind).Perm (front ++ back) :=
    ((List.perm_middle.symm.trans same).trans List.perm_middle).cons_inv
  have aligned := eq_of_others others
    (sorted.sublist (List.Sublist.append (List.Sublist.refl front) (List.sublist_cons_self _ _)))
    (resorted.sublist (List.Sublist.append (List.Sublist.refl ahead) (List.sublist_cons_self _ _)))
    rest outside
  rcases List.append_eq_append_iff.1 aligned with ⟨between, rfl, rfl⟩ | ⟨between, rfl, rfl⟩
  · exact ⟨ahead, between, back, rfl, rfl⟩
  · -- A place between the two would be behind `place` by the old key and ahead by the new one.
    cases between with
    | nil => exact ⟨front, [], behind, by simp, by simp⟩
    | cons other between =>
        have behindOld : Ahead key place other :=
          List.rel_of_pairwise_cons (List.pairwise_append.1 sorted).2.1 (by simp)
        have aheadNew : Ahead raised other place :=
          (List.pairwise_append.1 resorted).2.2 other (by simp) place (by simp)
        have differs : other ≠ place := by
          rintro rfl
          exact outside (by simp)
        unfold Ahead at behindOld aheadNew
        rw [others other differs] at aheadNew
        omega

/-- So it stays accepted when it was. -/
theorem accepted_of_raised {cost : Nat → Nat} {room : Nat}
    (others : ∀ other, other ≠ place → raised other = key other)
    (higher : key place ≤ raised place) (sorted : old.Pairwise (Ahead key))
    (resorted : new.Pairwise (Ahead raised)) (same : new.Perm old)
    (accepted : place ∈ (Selection.firstFit cost room old).accepted) :
    place ∈ (Selection.firstFit cost room new).accepted := by
  have member : place ∈ old :=
    (Selection.firstFit_perm cost room old).mem_iff.1 (List.mem_append_left _ accepted)
  obtain ⟨front, between, back, rfl, rfl⟩ :=
    exists_forward others higher sorted resorted same member
  have outside := (List.nodup_cons.1 (List.nodup_middle.1 (nodup_of_ahead sorted))).1
  rw [List.append_assoc, List.mem_append, not_or] at outside
  refine Selection.accepted_of_forward cost room ?_ ?_ outside.2 accepted
  · exact fun inside => (List.mem_append.1 inside).elim outside.1
      fun later => outside.2 (List.mem_append_left _ later)
  · exact fun inside => outside.2 (List.mem_append_right _ inside)

end Places

/-! ## Raised candidates -/

namespace Candidate

/-- The same hunks in the same order, and only the score of one of them is another: a higher one. -/
structure Raises (candidates raised : List Candidate) (place : Nat) : Prop where
  hunks : raised.map origin = candidates.map origin
  others : ∀ other, other ≠ place →
    raised[other]?.map (fun candidate => candidate.scored.score) =
      candidates[other]?.map fun candidate => candidate.scored.score
  higher : ∀ old new, candidates[place]? = some old → raised[place]? = some new →
    Score.orderKey old.scored.score ≤ Score.orderKey new.scored.score

def keyAt (candidates : List Candidate) (place : Nat) : Int :=
  (candidates[place]?.map fun candidate => Score.orderKey candidate.scored.score).getD 0

def costAt (candidates : List Candidate) (place : Nat) : Nat :=
  (candidates[place]?.map cost).getD 0

def rankedPlaces (candidates : List Candidate) : List Nat :=
  (rankEntries candidates).map Prod.snd

theorem getElem?_of_mem_rankEntries {candidates : List Candidate} {entry : Candidate × Nat}
    (member : entry ∈ rankEntries candidates) : candidates[entry.2]? = some entry.1 :=
  List.mem_zipIdx_iff_getElem?.1 ((rankEntries_perm candidates).mem_iff.1 member)

theorem rankedPlaces_perm (candidates : List Candidate) :
    (rankedPlaces candidates).Perm (List.range candidates.length) := by
  have places := (rankEntries_perm candidates).map Prod.snd
  rwa [List.zipIdx_map_snd, ← List.range_eq_range'] at places

theorem rankedPlaces_pairwise (candidates : List Candidate) :
    (rankedPlaces candidates).Pairwise (Ahead (keyAt candidates)) := by
  rw [rankedPlaces, List.pairwise_map]
  refine (rankEntries_pairwise candidates).imp_of_mem ?_
  intro first second one other ahead
  unfold Ahead keyAt
  rw [getElem?_of_mem_rankEntries one, getElem?_of_mem_rankEntries other]
  exact ahead

variable {candidates raised : List Candidate} {place : Nat}

theorem Raises.length_eq (raises : Raises candidates raised place) :
    raised.length = candidates.length := by
  have lengths := congrArg List.length raises.hunks
  rwa [List.length_map, List.length_map] at lengths

theorem Raises.costAt_eq (raises : Raises candidates raised place) :
    costAt raised = costAt candidates := by
  funext other
  have hunks := congrArg (fun origins => origins[other]?.map fun entry => entry.2.changedLines)
    raises.hunks
  simp only [List.getElem?_map, Option.map_map] at hunks
  exact congrArg (Option.getD · 0) hunks

theorem Raises.keyAt_eq (raises : Raises candidates raised place) {other : Nat}
    (differs : other ≠ place) : keyAt raised other = keyAt candidates other := by
  have scores := congrArg (Option.map Score.orderKey) (raises.others other differs)
  rw [Option.map_map, Option.map_map] at scores
  exact congrArg (Option.getD · 0) scores

theorem Raises.keyAt_le (raises : Raises candidates raised place) :
    keyAt candidates place ≤ keyAt raised place := by
  unfold keyAt
  by_cases inside : place < candidates.length
  · have insideRaised : place < raised.length := raises.length_eq ▸ inside
    rw [List.getElem?_eq_getElem inside, List.getElem?_eq_getElem insideRaised]
    exact raises.higher _ _ (List.getElem?_eq_getElem inside)
      (List.getElem?_eq_getElem insideRaised)
  · have outside : ¬ place < raised.length := raises.length_eq ▸ inside
    rw [List.getElem?_eq_none (Nat.le_of_not_lt inside),
      List.getElem?_eq_none (Nat.le_of_not_lt outside)]

end Candidate

/-! ## Heavier symbols -/

namespace Candidate

/-- The hunks of some files in the order of the diff, each with the symbols that it touches. -/
def touched (entries : List (FileDiff × Outline)) : List (Hunk × Outline) :=
  entries.flatMap fun entry =>
    entry.1.hunks.map fun hunk => (hunk, entry.2.filter (Score.touches hunk))

/-- Other outlines of the same files, which differ for one hunk: they have no lighter symbols. -/
structure Enriches (entries more : List (FileDiff × Outline)) (place : Nat) : Prop where
  files : more.map Prod.fst = entries.map Prod.fst
  others : ∀ other, other ≠ place →
    (touched more)[other]?.map (fun entry => Score.contribution entry.2) =
      (touched entries)[other]?.map fun entry => Score.contribution entry.2
  heavier : ∀ old new, (touched entries)[place]? = some old → (touched more)[place]? = some new →
    ∀ symbol ∈ old.2, ∃ other ∈ new.2, Score.symbolWeight symbol ≤ Score.symbolWeight other

theorem map_fst_touched (entries : List (FileDiff × Outline)) :
    (touched entries).map Prod.fst = (entries.map Prod.fst).flatMap FileDiff.hunks := by
  rw [touched, List.map_flatMap, List.flatMap_map]
  congr 1
  funext entry
  rw [List.map_map]
  exact List.map_id _

theorem map_score_ofFiles (entries : List (FileDiff × Outline)) :
    (ofFiles entries).map (fun candidate => candidate.scored.score) =
      (touched entries).map fun entry => Score.value entry.1 entry.2 := by
  have firsts : entries.zipIdx.map Prod.fst = entries := List.zipIdx_map_fst 0 entries
  rw [ofFiles_eq_flatMap, touched, List.map_flatMap, List.map_flatMap]
  conv => rhs; rw [← firsts, List.flatMap_map]
  congr 1
  funext entry
  rw [ofEntry, Score.ofFile, List.map_map, List.map_map, List.map_map]
  rfl

theorem score_ofFiles {entries : List (FileDiff × Outline)} {place : Nat} {candidate : Candidate}
    (here : (ofFiles entries)[place]? = some candidate) :
    ∃ entry, (touched entries)[place]? = some entry ∧
      candidate.scored.score = Score.value entry.1 entry.2 := by
  have scores := congrArg (fun scores => scores[place]?) (map_score_ofFiles entries)
  simp only [List.getElem?_map] at scores
  rw [here] at scores
  obtain ⟨entry, found, same⟩ := Option.map_eq_some_iff.1 scores.symm
  exact ⟨entry, found, same.symm⟩

section Enriches

variable {entries more : List (FileDiff × Outline)} {place : Nat}

theorem Enriches.hunk_eq (enriches : Enriches entries more place) (other : Nat) :
    (touched more)[other]?.map Prod.fst = (touched entries)[other]?.map Prod.fst := by
  rw [← List.getElem?_map, ← List.getElem?_map, map_fst_touched, map_fst_touched, enriches.files]

theorem Enriches.value_eq (enriches : Enriches entries more place) {other : Nat}
    (differs : other ≠ place) :
    (touched more)[other]?.map (fun entry => Score.value entry.1 entry.2) =
      (touched entries)[other]?.map fun entry => Score.value entry.1 entry.2 := by
  have hunks := enriches.hunk_eq other
  have counts := enriches.others other differs
  cases new : (touched more)[other]? with
  | none =>
      rw [new] at hunks
      rw [Option.map_eq_none_iff.1 hunks.symm]
  | some entry =>
      rw [new] at hunks counts
      obtain ⟨old, found, hunk⟩ := Option.map_eq_some_iff.1 hunks.symm
      rw [found] at counts
      have count : Score.contribution entry.2 = Score.contribution old.2 := Option.some.inj counts
      rw [found, Option.map_some, Option.map_some, Score.value, Score.value, hunk, count]

/-- More and heavier symbols for one hunk raise its score, and nothing else. -/
theorem Enriches.raises (enriches : Enriches entries more place) :
    Raises (ofFiles entries) (ofFiles more) place := by
  refine ⟨?_, ?_, ?_⟩
  · have first := isScoring_ofFiles entries
    have second := isScoring_ofFiles more
    rw [enriches.files] at second
    exact second.trans first.symm
  · intro other differs
    have first := congrArg (fun scores => scores[other]?) (map_score_ofFiles entries)
    have second := congrArg (fun scores => scores[other]?) (map_score_ofFiles more)
    simp only [List.getElem?_map] at first second
    rw [first, second]
    exact enriches.value_eq differs
  · intro old new here there
    obtain ⟨before, found, score⟩ := score_ofFiles here
    obtain ⟨after, foundNew, scoreNew⟩ := score_ofFiles there
    have hunks := enriches.hunk_eq place
    rw [found, foundNew] at hunks
    have hunk : after.1 = before.1 := Option.some.inj hunks
    rw [score, scoreNew, hunk]
    exact Score.orderKey_value_le _
      (Score.contribution_mono (enriches.heavier before after found foundNew))

end Enriches

end Candidate

/-! ## Accepted places -/

namespace Digest

def chooseEntries (budget : Nat) (candidates : List Candidate) : Selection (Candidate × Nat) :=
  Selection.firstFit (fun entry => entry.1.cost) budget (Candidate.rankEntries candidates)

theorem map_fst_chooseEntries (budget : Nat) (candidates : List Candidate) :
    (chooseEntries budget candidates).map Prod.fst = choose budget candidates := by
  rw [choose, ← Candidate.map_fst_rankEntries]
  exact (Selection.firstFit_map (fun _ _ => rfl) budget).symm

def Accepts (budget : Nat) (candidates : List Candidate) (place : Nat) : Prop :=
  ∃ candidate, (candidate, place) ∈ (chooseEntries budget candidates).accepted

variable {budget place : Nat} {candidates raised : List Candidate}

theorem accepts_iff : Accepts budget candidates place ↔
    place ∈ (Selection.firstFit (Candidate.costAt candidates) budget
      (Candidate.rankedPlaces candidates)).accepted := by
  have costs : ∀ entry ∈ Candidate.rankEntries candidates,
      Candidate.costAt candidates entry.2 = entry.1.cost := by
    intro entry member
    rw [Candidate.costAt, Candidate.getElem?_of_mem_rankEntries member]
    rfl
  rw [Candidate.rankedPlaces, Selection.firstFit_map costs]
  constructor
  · rintro ⟨candidate, member⟩
    exact List.mem_map_of_mem (f := Prod.snd) member
  · intro member
    obtain ⟨⟨candidate, _⟩, chosen, rfl⟩ := List.mem_map.1 member
    exact ⟨candidate, chosen⟩

theorem Accepts.of_raises (accepted : Accepts budget candidates place)
    (raises : Candidate.Raises candidates raised place) : Accepts budget raised place := by
  rw [accepts_iff] at accepted ⊢
  have same := (Candidate.rankedPlaces_perm raised).trans
    (raises.length_eq ▸ (Candidate.rankedPlaces_perm candidates).symm)
  rw [raises.costAt_eq]
  exact accepted_of_raised (fun _ differs => raises.keyAt_eq differs) raises.keyAt_le
    (Candidate.rankedPlaces_pairwise candidates) (Candidate.rankedPlaces_pairwise raised) same
    accepted

theorem Accepts.chosen (accepted : Accepts budget candidates place) :
    ∃ candidate, candidates[place]? = some candidate ∧
      candidate ∈ (choose budget candidates).accepted := by
  obtain ⟨candidate, member⟩ := accepted
  have ranked : (candidate, place) ∈ Candidate.rankEntries candidates :=
    (Selection.accepted_sublist _ budget _).subset member
  refine ⟨candidate, Candidate.getElem?_of_mem_rankEntries ranked, ?_⟩
  rw [← map_fst_chooseEntries]
  exact List.mem_map_of_mem (f := Prod.fst) member

/-- The hunk at a place is accepted, and so it is in the diff of the digest. -/
structure IsShown (budget : Nat) (candidates : List Candidate) (place : Nat) : Prop where
  accepted : Accepts budget candidates place
  chosen : ∃ candidate, candidates[place]? = some candidate ∧
    candidate ∈ (choose budget candidates).accepted
  shown : ∀ (options : Options) (text : String) (candidate : Candidate), options.budget = budget →
    Candidate.IsScoring (Diff.parse text) candidates → candidates[place]? = some candidate →
      candidate.scored.hunk ∈ (Diff.parse (ofCandidates options (Diff.parse text)
        candidates).1.highPriority).flatMap FileDiff.hunks

theorem Accepts.isShown (accepted : Accepts budget candidates place) :
    IsShown budget candidates place := by
  refine ⟨accepted, accepted.chosen, ?_⟩
  rintro options text candidate rfl scored here
  obtain ⟨own, there, member⟩ := accepted.chosen
  obtain rfl := Option.some.inj (here.symm.trans there)
  have rebuilt := rebuilds_parse_rebuild (fun _ among => Diff.wellFormed_of_mem_parse among) scored
    options.budget
  exact rebuilt.whole.mem_iff.2
    (List.mem_map_of_mem (f := fun candidate => candidate.scored.hunk) member)

/-- Neither a higher score nor heavier symbols take a hunk out of the diff of the digest. -/
structure StaysShown (budget : Nat) (candidates : List Candidate) (place : Nat) : Prop where
  raised : ∀ raised, Candidate.Raises candidates raised place → IsShown budget raised place
  heavier : ∀ entries more : List (FileDiff × Outline), Candidate.ofFiles entries = candidates →
    Candidate.Enriches entries more place → IsShown budget (Candidate.ofFiles more) place

/--
An accepted hunk stays accepted when its score is raised and nothing else changes,
and so when symbols are found for it that do not count less.
-/
theorem staysShown_of_accepts (accepted : Accepts budget candidates place) :
    StaysShown budget candidates place where
  raised := fun _ raises => (accepted.of_raises raises).isShown
  heavier := by
    rintro entries more rfl enriches
    exact (accepted.of_raises enriches.raises).isShown

/-- Of three hunks the one with two lines has the highest score, and it leaves no room. -/
theorem staysShown_crowded :
    Accepts 2 (Digest.candidates .none { maxLines := 2 } crowded) 1 ∧
      StaysShown 2 (Digest.candidates .none { maxLines := 2 } crowded) 1 := by
  -- The sort does not reduce, so the order is recognized as the one that is sorted.
  generalize made : Digest.candidates .none { maxLines := 2 } crowded = all
  have sorted : [1, 0, 2].Pairwise (Ahead (Candidate.keyAt all)) := by
    subst made
    decide +kernel
  have places : (Candidate.rankedPlaces all).Perm [1, 0, 2] := by
    have length : all.length = 3 := by
      subst made
      decide +kernel
    have each := Candidate.rankedPlaces_perm all
    rw [length] at each
    exact each.trans (by decide)
  have order : Candidate.rankedPlaces all = [1, 0, 2] :=
    eq_of_others (fun _ (_ : _ ≠ 3) => rfl) sorted (Candidate.rankedPlaces_pairwise all) places
      (by decide)
  have accepted : Accepts 2 all 1 := by
    rw [accepts_iff, order]
    subst made
    decide +kernel
  exact ⟨accepted, staysShown_of_accepts accepted⟩

end Digest

end DiffDigest
