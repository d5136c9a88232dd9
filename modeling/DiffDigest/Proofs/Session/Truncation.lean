import DiffDigest.Proofs.Session.Pipe

/-!
# Truncated sessions

What is left of a session whose pipe breaks after some frames: the frames up to
there, everything that the steps before that bring, and steps that end at once.
-/

namespace DiffDigest

open Session (GoesOn KeepsUp patience)

namespace Session

theorem shutDown_of_full {c : Connection} (full : c.room = some 0) :
    ∃ log, shutDown c = { c with nextId := c.nextId + 1, log } := by
  unfold shutDown
  rw [call_of_full full]
  exact ⟨_, rfl⟩

theorem bidExit_of_full {c : Connection} (full : c.room = some 0) :
    ∃ log, bidExit c = { c with log } := by
  unfold bidExit notify post
  rw [Connection.send_of_full full]
  exact ⟨_, rfl⟩

end Session

namespace Step

/-! ## A step without a pipe -/

def unheard (method : String) : Step → Except Stop Answer
  | .handshake _ _ => .error (.failed (.handshake (.sending method .brokenPipe)))
  | .organizeImports _ _ => .ok (.edits [])
  | .close => .ok .done
  | _ => .error (.failed (.sending method .brokenPipe))

/-- A step whose request cannot be written uses up one id and looks at nothing. -/
theorem run_of_full {step : Step} {method : String} {c : Connection}
    (asks : step.method? = some method) (full : c.room = some 0) :
    ∃ log, step.run c = (step.unheard method, { c with nextId := c.nextId + 1, log }) := by
  have lost := Session.call_of_full full
  cases step with
  | handshake workDir root =>
      obtain ⟨uri, found, rfl⟩ := Option.map_eq_some_iff.1 asks
      obtain ⟨whole, resolved, named⟩ := Option.bind_eq_some_iff.1 found
      refine ⟨c.log, ?_⟩
      unfold run
      dsimp only
      rw [Session.bind_apply, Session.handshake_apply resolved named, lost]
      rfl
  | openDocument uri language text => cases asks
  | closeDocument uri => cases asks
  | format uri =>
      cases asks
      refine ⟨c.log, ?_⟩
      unfold run Session.format
      dsimp only
      rw [Session.bind_apply, Session.bind_apply, lost]
      rfl
  | organizeImports uri content =>
      cases asks
      unfold run Session.organizeImports
      dsimp only
      rw [Session.bind_apply, lost]
      exact ⟨_, rfl⟩
  | documentSymbols uri =>
      cases asks
      refine ⟨c.log, ?_⟩
      unfold run Session.documentSymbols
      dsimp only
      rw [Session.bind_apply, Session.bind_apply, lost]
      rfl
  | close =>
      cases asks
      obtain ⟨log, shut⟩ := Session.shutDown_of_full full
      obtain ⟨last, bid⟩ := Session.bidExit_of_full (c := { c with nextId := c.nextId + 1, log }) full
      refine ⟨last, ?_⟩
      unfold run
      dsimp only
      unfold Session.close
      rw [shut, bid]
      rfl

/-- A step that closes a session waits only so long for the server. -/
theorem clock_close (c : Connection) : (run .close c).2.clock ≤ c.clock + patience := by
  have told (d : Connection) : (Session.bidExit d).clock = d.clock := by
    unfold Session.bidExit Session.notify Session.post
    cases sending : d.send (Message.notification "exit" none) with
    | ok e => exact Connection.send_clock sending
    | error error => rfl
  change (Session.bidExit (Session.shutDown c)).clock ≤ _
  rw [told]
  unfold Session.shutDown
  cases called : Session.call "shutdown" none c with
  | mk outcome d =>
      have asked : d.clock = c.clock := by
        have kept := Session.clock_call "shutdown" none c
        rwa [called] at kept
      rcases outcome with (error | _) | result
      · exact Nat.le_trans (Nat.le_of_eq asked) (Nat.le_add_right _ _)
      · exact Nat.le_of_eq (congrArg (· + patience) asked)
      · exact Nat.le_trans (Nat.le_of_eq asked) (Nat.le_add_right _ _)

/-! ## Steps one after the other -/

def report (step : Step) (c : Connection) : Report where
  outcome := (step.run c).1
  sent := (step.run c).2.sent.drop c.sent.length
  log := ((step.run c).2.log.drop c.log.length).map Prod.snd

theorem runAll_cons (step : Step) (steps : List Step) (c : Connection) :
    runAll (step :: steps) c =
      (step.report c :: (runAll steps (step.run c).2).1, (runAll steps (step.run c).2).2) :=
  rfl

theorem runAll_take (steps : List Step) (n : Nat) (c : Connection) :
    (runAll (steps.take n) c).1 = (runAll steps c).1.take n := by
  induction steps generalizing n c with
  | nil =>
      rw [List.take_nil]
      exact List.take_nil.symm
  | cons step steps ih =>
      cases n with
      | zero => rfl
      | succ n =>
          rw [List.take_succ_cons, runAll_cons, runAll_cons, List.take_succ_cons, ih]

/-- A step is run on what the steps before it leave. -/
theorem runAll_getElem? {steps : List Step} {n : Nat} {step : Step} (c : Connection)
    (here : steps[n]? = some step) :
    (runAll steps c).1[n]? = some (step.report (runAll (steps.take n) c).2) ∧
      (runAll (steps.take (n + 1)) c).2 = (step.run (runAll (steps.take n) c).2).2 := by
  induction steps generalizing n c with
  | nil => cases here
  | cons first steps ih =>
      cases n with
      | zero =>
          cases here
          exact ⟨rfl, rfl⟩
      | succ n => exact ih (first.run c).2 here

theorem goesOn_runAll (steps : List Step) (c : Connection) :
    GoesOn (steps.filterMap method?).length c (runAll steps c).2 := by
  induction steps generalizing c with
  | nil => exact .refl c
  | cons step steps ih =>
      have counted : ((step :: steps).filterMap method?).length =
          step.requestCount + (steps.filterMap method?).length := by
        rw [List.filterMap_cons]
        unfold requestCount
        cases step.method? with
        | none => exact (Nat.zero_add _).symm
        | some method => exact Nat.add_comm _ _
      rw [counted]
      exact ((cutShort_run step).goesOn c).trans (ih _)

/-- What steps send stands in their reports, whatever pipe they send it through. -/
theorem sent_runAll (steps : List Step) (c : Connection) :
    (runAll steps c).2.sent = c.sent ++ (runAll steps c).1.flatMap Report.sent := by
  induction steps generalizing c with
  | nil => exact (List.append_nil _).symm
  | cons step steps ih =>
      have grown := List.prefix_iff_eq_append.1 ((cutShort_run step).goesOn c).grows
      rw [runAll_cons, List.flatMap_cons, ← List.append_assoc]
      dsimp only
      rw [ih]
      unfold report
      dsimp only
      rw [grown]

section Pipes

variable {limit : Nat} {whole cut : Connection}

theorem keepsUp_runAll (steps : List Step) (keeps : KeepsUp limit whole cut) :
    KeepsUp limit (runAll steps whole).2 (runAll steps cut).2 := by
  induction steps generalizing whole cut with
  | nil => exact keeps
  | cons step steps ih => exact ih ((cutShort_run step).inStep keeps).keepsUp

/-- Steps whose frames the pipe takes do the same. -/
theorem runAll_eq_of_within (steps : List Step) (keeps : KeepsUp limit whole cut)
    (within : (runAll steps whole).2.sent.length ≤ limit) :
    (runAll steps cut).1 = (runAll steps whole).1 := by
  induction steps generalizing whole cut with
  | nil => rfl
  | cons step steps ih =>
      obtain ⟨reached, agrees⟩ := (cutShort_run step).inStep keeps
      have early : (step.run whole).2.sent.length ≤ limit :=
        Nat.le_trans (goesOn_runAll steps _).grows.length_le within
      have before : whole.sent.length ≤ limit :=
        Nat.le_trans ((cutShort_run step).goesOn whole).grows.length_le early
      have same : step.report cut = step.report whole := by
        unfold report
        rw [agrees early, reached.same early, keeps.same before]
        rfl
      rw [runAll_cons, runAll_cons, same, ih reached within]

end Pipes

end Step

open Step (runAll Report)

/-- A step whose request cannot be written: it ends at once, and only its id is used up. -/
structure Unheard (step : Step) (method : String) (before after : Connection)
    (report : Report) : Prop where
  outcome : report.outcome = step.unheard method
  sent : report.sent = []
  unread : after.unread = before.unread
  nextId : after.nextId = before.nextId + 1
  clock : after.clock = before.clock

/--
How the steps of a session go when its pipe takes only `limit` frames, compared
with a pipe that takes all.  The frames sent are the first ones; steps that send
no later frame bring the same; a step that begins later makes its request in
vain, under an id of its own; and a session closes all the same.
-/
structure Truncates (limit : Nat) (steps : List Step) (whole cut : Connection) : Prop where
  sent : (runAll steps cut).2.sent = (runAll steps whole).2.sent.take limit
  reported : (runAll steps cut).2.sent = (runAll steps cut).1.flatMap Report.sent
  same : ∀ n, (((runAll steps whole).1.take n).flatMap Report.sent).length ≤ limit →
    (runAll steps cut).1.take n = (runAll steps whole).1.take n
  /-- A step that begins on a broken pipe fails at its request; a session still closes. -/
  unheard : ∀ n step method, steps[n]? = some step → step.method? = some method →
    limit ≤ (((runAll steps whole).1.take n).flatMap Report.sent).length →
    ∃ report, (runAll steps cut).1[n]? = some report ∧
      Unheard step method (runAll (steps.take n) cut).2 (runAll (steps.take (n + 1)) cut).2 report
  /-- Requests use up ids whether or not they can be written. -/
  numbered : ∀ n, (runAll (steps.take n) cut).2.nextId =
    1 + ((steps.take n).filterMap Step.method?).length
  requests : Message.requests (runAll steps cut).2.sent <+:
    ((steps.filterMap Step.method?).zipIdx 1).map fun request => (.integer request.2, request.1)
  closes : ∀ n, steps[n]? = some .close →
    (∃ report, (runAll steps cut).1[n]? = some report ∧ report.outcome = .ok .done) ∧
      (runAll (steps.take (n + 1)) cut).2.clock ≤ (runAll (steps.take n) cut).2.clock + patience

/-- A broken pipe truncates a session and nothing else, wherever it breaks. -/
theorem runAll_truncates (ending : Frame.Ending) (stream : Bytes) (processId limit : Nat)
    (steps : List Step) :
    Truncates limit steps { unread := stream, ending, processId }
      { unread := stream, ending, processId, room := some limit } := by
  let whole : Connection := { unread := stream, ending, processId }
  let cut : Connection := { unread := stream, ending, processId, room := some limit }
  have keeps : KeepsUp limit whole cut := .of_le rfl (Nat.zero_le limit)
  have sentOf (n : Nat) : (runAll (steps.take n) whole).2.sent =
      ((runAll steps whole).1.take n).flatMap Report.sent := by
    rw [Step.sent_runAll, Step.runAll_take]
    rfl
  have reached := Step.keepsUp_runAll steps keeps
  refine ⟨reached.sent, Step.sent_runAll steps cut, ?_, ?_, ?_, ?_, ?_⟩
  · intro n within
    rw [← sentOf] at within
    have same := Step.runAll_eq_of_within (steps.take n) keeps within
    rwa [Step.runAll_take, Step.runAll_take] at same
  · intro n step method here asks spent
    obtain ⟨reports, after⟩ := Step.runAll_getElem? cut here
    have full : (runAll (steps.take n) cut).2.room = some 0 := by
      rw [(Step.keepsUp_runAll (steps.take n) keeps).room, sentOf, Nat.sub_eq_zero_of_le spent]
    obtain ⟨log, ran⟩ := Step.run_of_full asks full
    refine ⟨_, reports, ?_⟩
    rw [after]
    unfold Step.report
    rw [ran]
    refine ⟨rfl, ?_, rfl, rfl, rfl⟩
    exact List.drop_length
  · intro n
    exact (Step.goesOn_runAll (steps.take n) cut).nextId
  · obtain ⟨exchanges, history, follows⟩ := history_runAll steps (c := whole) rfl
    have asked : Message.requests (runAll steps whole).2.sent =
        ((steps.filterMap Step.method?).zipIdx 1).map
          fun request => (.integer request.2, request.1) := by
      rw [follows.requests, ← history.numbered, List.map_map]
      rfl
    rw [← asked, reached.sent]
    refine ⟨Message.requests ((runAll steps whole).2.sent.drop limit), ?_⟩
    rw [← Message.requests_append, List.take_append_drop]
  · intro n here
    obtain ⟨reports, after⟩ := Step.runAll_getElem? cut here
    refine ⟨⟨_, reports, rfl⟩, ?_⟩
    rw [after]
    exact Step.clock_close _

end DiffDigest
