import DiffDigest.Digest
import Mathlib.Algebra.BigOperators.Group.List.Basic
import Mathlib.Data.ENat.Lattice
import Mathlib.Data.List.Induction

/-!
# One deadline for all lookups

The lookups of a run follow each other, so each begins when those before it are
over.  The sum of their delays tells whether a lookup is started, and whether
what it finds is used; what is found by others makes no difference.
-/

namespace DiffDigest

open Diff (FileDiff)

def Lookup.delay (lookup : Lookup) : ℕ∞ :=
  match lookup.answer with
  | some (taken, _) => taken
  | none => ⊤

def Lookup.outline (lookup : Lookup) : Outline :=
  (lookup.answer.map Prod.snd).getD []

namespace Consultation

/-! ## Files with a lookup each -/

/-- Look up the symbols of all files when each file comes with a lookup of its own. -/
def runEach (deadline : Nat) (requests : List (FileDiff × Lookup)) : Consultation :=
  requests.foldl (fun c request => visit (fun _ => request.2) deadline c request.1) {}

/-- A source is asked about one file at a time. -/
theorem run_eq_runEach (source : SymbolSource) (deadline : Nat) (files : List FileDiff) :
    run source deadline files =
      runEach deadline (files.map fun file => (file, source file)) := by
  rw [runEach, List.foldl_map]
  rfl

theorem runEach_concat (deadline : Nat) (front : List (FileDiff × Lookup))
    (request : FileDiff × Lookup) :
    runEach deadline (front ++ [request]) =
      visit (fun _ => request.2) deadline (runEach deadline front) request.1 := by
  rw [runEach, List.foldl_append]
  rfl

/-! ## Sums of delays -/

def eligible (requests : List (FileDiff × Lookup)) : List (FileDiff × Lookup) :=
  requests.filter fun request => !request.1.hunks.isEmpty

/-- What the lookups of the first files take together; those without hunks are left out. -/
def elapsed (requests : List (FileDiff × Lookup)) (place : Nat) : ℕ∞ :=
  ((eligible (requests.take place)).map fun request => request.2.delay).sum

/-- The requests, each with the sum of the delays in front of it. -/
def timed (requests : List (FileDiff × Lookup)) : List ((FileDiff × Lookup) × ℕ∞) :=
  requests.zipIdx.map fun entry => (entry.1, elapsed requests entry.2)

/-- A request whose file has hunks, and which is reached before the deadline. -/
abbrev Starts (deadline : Nat) (entry : (FileDiff × Lookup) × ℕ∞) : Prop :=
  entry.1.1.hunks ≠ [] ∧ entry.2 < deadline

/-- A request that is started and has its answer by the deadline. -/
abbrev Succeeds (deadline : Nat) (entry : (FileDiff × Lookup) × ℕ∞) : Prop :=
  Starts deadline entry ∧ entry.2 + entry.1.2.delay ≤ deadline

def served (deadline : Nat) (entry : (FileDiff × Lookup) × ℕ∞) : FileDiff × Outline :=
  (entry.1.1, if Succeeds deadline entry then entry.1.2.outline else [])

def launched (deadline : Nat) (requests : List (FileDiff × Lookup)) : List (FileDiff × Lookup) :=
  ((timed requests).filter fun entry => Starts deadline entry).map Prod.fst

variable {deadline : Nat} {front : List (FileDiff × Lookup)} {request : FileDiff × Lookup}

theorem eligible_concat (front : List (FileDiff × Lookup)) (request : FileDiff × Lookup) :
    eligible (front ++ [request]) =
      eligible front ++ if request.1.hunks = [] then [] else [request] := by
  rw [eligible, List.filter_append]
  split
  · rename_i none
    simp [eligible, none]
  · rename_i some
    simp [eligible, some]

theorem elapsed_concat (front : List (FileDiff × Lookup)) (request : FileDiff × Lookup) :
    elapsed (front ++ [request]) (front ++ [request]).length =
      elapsed front front.length + if request.1.hunks = [] then 0 else request.2.delay := by
  rw [elapsed, elapsed, List.take_length, List.take_length, eligible_concat]
  split <;> simp

theorem timed_concat (front : List (FileDiff × Lookup)) (request : FileDiff × Lookup) :
    timed (front ++ [request]) = timed front ++ [(request, elapsed front front.length)] := by
  have before : ∀ place ≤ front.length, elapsed (front ++ [request]) place = elapsed front place := by
    intro place inside
    rw [elapsed, List.take_append_of_le_length inside, elapsed]
  rw [timed, List.zipIdx_append, List.map_append, Nat.zero_add]
  congr 1
  · apply List.map_congr_left
    intro entry member
    rw [before entry.2 (List.snd_lt_of_mem_zipIdx member).le]
  · rw [List.zipIdx_singleton, List.map_singleton, before _ le_rfl]

theorem launched_concat (deadline : Nat) (front : List (FileDiff × Lookup))
    (request : FileDiff × Lookup) :
    launched deadline (front ++ [request]) =
      launched deadline front ++
        if Starts deadline (request, elapsed front front.length) then [request] else [] := by
  rw [launched, timed_concat, List.filter_append, List.map_append, List.filter_cons]
  by_cases starts : Starts deadline (request, elapsed front front.length)
  · rw [if_pos starts, if_pos (decide_eq_true starts)]
    rfl
  · rw [if_neg starts, if_neg (fun found => starts (of_decide_eq_true found))]
    rfl

/-! ## One visit -/

/-- A lookup is over when it has its answer, but not behind the deadline. -/
theorem clock_result (deadline start : Nat) (lookup : Lookup) :
    ((result deadline start lookup).2 : ℕ∞) = min (start + lookup.delay) deadline := by
  unfold result Lookup.delay
  cases lookup.answer with
  | none => simp
  | some answer =>
      dsimp only
      split
      · rename_i inTime
        rw [min_eq_left (by exact_mod_cast inTime), Nat.cast_add]
      · rename_i tooLate
        rw [min_eq_right (by exact_mod_cast (Nat.not_le.1 tooLate).le)]

theorem outline_result (deadline start : Nat) (lookup : Lookup) :
    (result deadline start lookup).1.getD [] =
      if start + lookup.delay ≤ deadline then lookup.outline else [] := by
  unfold result Lookup.delay Lookup.outline
  cases lookup.answer with
  | none => simp
  | some answer =>
      dsimp only
      split
      · rename_i inTime
        rw [if_pos (by exact_mod_cast inTime)]
        rfl
      · rename_i tooLate
        rw [if_neg (by exact_mod_cast tooLate)]
        rfl

/-- What the sum of the delays says about a run so far. -/
structure Follows (deadline : Nat) (requests : List (FileDiff × Lookup)) (c : Consultation) :
    Prop where
  clock : (c.clock : ℕ∞) = min (elapsed requests requests.length) deadline
  started : c.started = launched deadline requests
  files : c.files = (timed requests).map (served deadline)

theorem Follows.early {c : Consultation} (follows : Follows deadline front c)
    (early : c.clock < deadline) :
    (c.clock : ℕ∞) = elapsed front front.length ∧ elapsed front front.length < deadline := by
  have clock := follows.clock
  rcases le_total (elapsed front front.length) deadline with small | large
  · rw [min_eq_left small] at clock
    exact ⟨clock, clock ▸ Nat.cast_lt.2 early⟩
  · rw [min_eq_right large, Nat.cast_inj] at clock
    omega

theorem Follows.late {c : Consultation} (follows : Follows deadline front c)
    (late : deadline ≤ c.clock) : (deadline : ℕ∞) ≤ elapsed front front.length := by
  have reached : (deadline : ℕ∞) ≤ min (elapsed front front.length) deadline :=
    follows.clock ▸ Nat.cast_le.2 late
  exact reached.trans (min_le_left _ _)

/-- What one more request adds to a run. -/
theorem Follows.extend {c next : Consultation} (follows : Follows deadline front c)
    (clock : (next.clock : ℕ∞) = min (elapsed (front ++ [request]) (front ++ [request]).length) deadline)
    (started : next.started =
      c.started ++ if Starts deadline (request, elapsed front front.length) then [request] else [])
    (files : next.files = c.files ++ [served deadline (request, elapsed front front.length)]) :
    Follows deadline (front ++ [request]) next := by
  refine ⟨clock, ?_, ?_⟩
  · rw [started, follows.started, launched_concat]
  · rw [files, follows.files, timed_concat, List.map_append]
    rfl

theorem follows_visit {c : Consultation} (follows : Follows deadline front c)
    (request : FileDiff × Lookup) :
    Follows deadline (front ++ [request]) (visit (fun _ => request.2) deadline c request.1) := by
  rw [visit]
  split
  · rename_i empty
    have hunkless : request.1.hunks = [] := List.isEmpty_iff.1 empty
    refine follows.extend ?_ ?_ ?_
    · rw [elapsed_concat, if_pos hunkless, add_zero, follows.clock]
    · rw [if_neg (fun starts => starts.1 hunkless), List.append_nil]
    · rw [served, if_neg (fun succeeds => succeeds.1.1 hunkless)]
  · rename_i filled
    have some : request.1.hunks ≠ [] := fun empty => filled (List.isEmpty_iff.2 empty)
    split
    · rename_i late
      have reached := follows.late late
      refine follows.extend ?_ ?_ ?_
      · rw [elapsed_concat, if_neg some, min_eq_right (reached.trans le_self_add), follows.clock,
          min_eq_right reached]
      · rw [if_neg (fun starts => starts.2.not_ge reached), List.append_nil]
      · rw [served, if_neg (fun succeeds => succeeds.1.2.not_ge reached)]
    · rename_i open'
      obtain ⟨clock, early⟩ := follows.early (Nat.not_le.1 open')
      have starts : Starts deadline (request, elapsed front front.length) := ⟨some, early⟩
      refine follows.extend ?_ ?_ ?_
      · rw [elapsed_concat, if_neg some, ← clock]
        exact clock_result deadline c.clock request.2
      · rw [if_pos starts]
      · dsimp only
        rw [outline_result, served, clock]
        simp only [Succeeds, eq_true starts, true_and]

theorem follows_runEach (deadline : Nat) (requests : List (FileDiff × Lookup)) :
    Follows deadline requests (runEach deadline requests) := by
  induction requests using List.reverseRecOn with
  | nil => exact ⟨by simp [runEach, elapsed, eligible], rfl, rfl⟩
  | append_singleton front request ih =>
      rw [runEach_concat]
      exact follows_visit ih request

/-! ## What follows for all lookups together -/

/-- Before the deadline no lookup is left out. -/
theorem launched_front (deadline : Nat) (requests : List (FileDiff × Lookup)) :
    launched deadline requests <+: eligible requests ∧
      (elapsed requests requests.length < deadline →
        launched deadline requests = eligible requests) := by
  induction requests using List.reverseRecOn with
  | nil => exact ⟨List.prefix_rfl, fun _ => rfl⟩
  | append_singleton front request ih =>
      obtain ⟨ahead, all⟩ := ih
      rw [launched_concat, eligible_concat]
      split
      · rename_i starts
        rw [all starts.2, if_neg starts.1]
        exact ⟨List.prefix_rfl, fun _ => rfl⟩
      · rename_i rests
        rw [List.append_nil]
        refine ⟨ahead.trans (List.prefix_append _ _), ?_⟩
        intro early
        rw [elapsed_concat] at early
        have before : elapsed front front.length < deadline := le_self_add.trans_lt early
        have hunkless : request.1.hunks = [] := by
          by_contra some
          exact rests ⟨some, before⟩
        rw [all before, if_pos hunkless, List.append_nil]

/-- A later deadline takes no outline away. -/
theorem served_mono {later : Nat} (further : deadline ≤ later)
    {entry : (FileDiff × Lookup) × ℕ∞} (found : (served deadline entry).2 ≠ []) :
    served later entry = served deadline entry := by
  have bound : (deadline : ℕ∞) ≤ later := Nat.cast_le.2 further
  have succeeds : Succeeds deadline entry := by
    by_contra fails
    exact found (if_neg fails)
  have still : Succeeds later entry :=
    ⟨⟨succeeds.1.1, succeeds.1.2.trans_le bound⟩, succeeds.2.trans bound⟩
  rw [served, served, if_pos still, if_pos succeeds]

theorem elapsed_eligible (requests : List (FileDiff × Lookup)) :
    elapsed (eligible requests) (eligible requests).length = elapsed requests requests.length := by
  rw [elapsed, elapsed, List.take_length, List.take_length, eligible, eligible, List.filter_filter]
  simp only [Bool.and_self]

/-- Files without hunks can be left out. -/
theorem launched_eligible (deadline : Nat) (requests : List (FileDiff × Lookup)) :
    launched deadline (eligible requests) = launched deadline requests := by
  induction requests using List.reverseRecOn with
  | nil => rfl
  | append_singleton front request ih =>
      rw [eligible_concat, launched_concat, ← ih]
      split
      · rename_i hunkless
        rw [List.append_nil, if_neg (fun starts => starts.1 hunkless), List.append_nil]
      · rw [launched_concat, elapsed_eligible]

/-- The lookups of a run under one deadline, as the sums of their delays tell. -/
structure SharesDeadline (deadline : Nat) (requests : List (FileDiff × Lookup))
    (c : Consultation) : Prop extends Follows deadline requests c where
  ahead : c.started <+: eligible requests
  /-- Files without hunks cost nothing. -/
  free : (runEach deadline (eligible requests)).started = c.started ∧
    (runEach deadline (eligible requests)).clock = c.clock
  idle : deadline = 0 → c.started = []
  waits : c.clock ≤ deadline
  lasting : ∀ later, deadline ≤ later → ∀ (place : Nat) (file : FileDiff) (outline : Outline),
    c.files[place]? = some (file, outline) → outline ≠ [] →
      (runEach later requests).files[place]? = some (file, outline)

theorem sharesDeadline_runEach (deadline : Nat) (requests : List (FileDiff × Lookup)) :
    SharesDeadline deadline requests (runEach deadline requests) := by
  have follows := follows_runEach deadline requests
  have kept := follows_runEach deadline (eligible requests)
  refine { follows with ahead := ?_, free := ⟨?_, ?_⟩, idle := ?_, waits := ?_, lasting := ?_ }
  · rw [follows.started]
    exact (launched_front deadline requests).1
  · rw [kept.started, follows.started, launched_eligible]
  · have clock := kept.clock
    rw [elapsed_eligible, ← follows.clock, Nat.cast_inj] at clock
    exact clock
  · rintro rfl
    rw [follows.started, launched, List.map_eq_nil_iff, List.filter_eq_nil_iff]
    intro entry _ found
    exact not_lt_zero (of_decide_eq_true found).2
  · have bound : ((runEach deadline requests).clock : ℕ∞) ≤ deadline :=
      follows.clock ▸ min_le_right _ _
    exact Nat.cast_le.1 bound
  · intro later further place file outline here found
    rw [follows.files, List.getElem?_map] at here
    rw [(follows_runEach later requests).files, List.getElem?_map]
    obtain ⟨entry, reached, same⟩ := Option.map_eq_some_iff.1 here
    rw [reached, Option.map_some, served_mono further (by rw [same]; exact found), same]

end Consultation

/-! ## The digest of a text -/

namespace Digest

open Consultation (runEach SharesDeadline)

/--
All lookups share one deadline: for any delays, each file is looked up and
scored as the sums of the delays tell.  A digest is made of the files with just
these outlines.
-/
theorem lookups_shareDeadline :
    (∀ (deadline : Nat) (requests : List (FileDiff × Lookup)),
      SharesDeadline deadline requests (runEach deadline requests)) ∧
    ∀ (source : SymbolSource) (options : Options) (text : String),
      let requests := (Diff.parse text).map fun file => (file, source file)
      let consultation := runEach options.timeout requests
      (run source options text).started = consultation.started ∧
        (run source options text).digest =
          if Diff.parse text = [] then { highPriority := text }
          else (ofFiles options consultation.files).1 := by
  refine ⟨Consultation.sharesDeadline_runEach, ?_⟩
  intro source options text
  dsimp only
  rw [← Consultation.run_eq_runEach]
  unfold run
  split
  · rename_i none
    rw [none]
    exact ⟨rfl, rfl⟩
  · rename_i found
    rw [if_neg found]
    exact ⟨rfl, rfl⟩

end Digest

end DiffDigest
