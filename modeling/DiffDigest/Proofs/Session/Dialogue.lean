import DiffDigest.Proofs.Session.History

/-!
# Dialogues

Both sides of a connection make requests.  A server may make its own while a
request of the client waits; each of them is refused at once, and the client
goes on waiting.  Beside its own requests and notifications a client writes
nothing but these refusals.
-/

namespace DiffDigest

open DiffDigest.Frame (Arrival)
open Message (Demands Replies)
open Session (Settles Writes)

/--
How a client attends to the server while a request of its own waits.  Of the
frames read, each that asks for something gets a reply, and after it the request
is still to be settled by what follows.
-/
structure Attends (ending : Frame.Ending) (stream : Bytes) (exchange : Exchange)
    (replies : List Json) (next : Bytes) : Prop where
  settles : Settles ending exchange.id exchange.method stream exchange.frames exchange.outcome next
  replies : Replies (exchange.frames.map Arrival.frame) replies
  goesOn : ∀ before arrival later, exchange.frames = before ++ arrival :: later →
    ∀ theirs asked, Demands arrival.frame theirs asked →
      ∃ rest, Frame.read ending arrival.stream = .frame arrival.frame rest ∧
        Settles ending exchange.id exchange.method rest later exchange.outcome next

theorem attends_of_settles {ending : Frame.Ending} {stream next : Bytes} {exchange : Exchange}
    (settles : Settles ending exchange.id exchange.method stream exchange.frames exchange.outcome
      next) :
    Attends ending stream exchange (Message.replies (exchange.frames.map Arrival.frame)) next := by
  refine ⟨settles, Message.replies_replies _, ?_⟩
  intro before arrival later read theirs asked demands
  exact settles.goesOn read (demands.not_answers exchange.id)

namespace Step

/-- The request of a step, as it is attended to, and all that the step writes. -/
theorem Asks.attends {step : Step} {method : String} {c : Connection} {exchange : Exchange}
    {reached : Except Stop Answer × Connection} (asks : Asks step method c exchange reached) :
    ∃ frames outcome replies,
      Attends c.ending c.unread ⟨c.nextId, method, frames, outcome⟩ replies reached.2.unread ∧
      reached.1 = step.conclude outcome ∧
      Writes c reached.2
        (Message.request c.nextId method (step.params? c.processId) ::
          (replies ++ step.sequel outcome)) ∧
      reached.2.nextId = c.nextId + 1 := by
  have numbered := asks.follows.nextId
  obtain ⟨id, method, frames, outcome⟩ := exchange
  obtain ⟨rfl, rfl, settles, concluded, writes⟩ := asks
  exact ⟨frames, outcome, _, attends_of_settles settles, concluded, writes, numbered⟩

end Step

/--
What is written in steps that are done one after the other, when the next
request has this id and the server's output is read from this place on.  A step
that makes no request writes its own notifications; any other writes its
request, the replies to the server, and then its own notifications.
-/
inductive Dialogue (ending : Frame.Ending) (processId : Nat) :
    Nat → Bytes → List Step → List Step.Report → Bytes → Prop
  | nil (id : Nat) (stream : Bytes) : Dialogue ending processId id stream [] [] stream
  | quiet {id : Nat} {stream last : Bytes} {step : Step} {steps : List Step}
      {report : Step.Report} {reports : List Step.Report}
      (quiet : step.method? = none)
      (brings : report.outcome = step.unasked)
      (sent : report.sent = step.notices)
      (others : Dialogue ending processId id stream steps reports last) :
      Dialogue ending processId id stream (step :: steps) (report :: reports) last
  | asks {stream next last : Bytes} {step : Step} {steps : List Step} {exchange : Exchange}
      {replies : List Json} {report : Step.Report} {reports : List Step.Report}
      (asks : step.method? = some exchange.method)
      (attends : Attends ending stream exchange replies next)
      (brings : report.outcome = step.conclude exchange.outcome)
      (sent : report.sent =
        Message.request exchange.id exchange.method (step.params? processId) ::
          (replies ++ step.sequel exchange.outcome))
      (others : Dialogue ending processId (exchange.id + 1) next steps reports last) :
      Dialogue ending processId exchange.id stream (step :: steps) (report :: reports) last

/-- What a part of a session sends comes after what was sent before. -/
theorem Session.Writes.drop_sent {c d : Connection} {frames : List Json}
    (writes : Writes c d frames) : d.sent.drop c.sent.length = frames := by
  rw [writes.sent, List.drop_left]

theorem dialogue_runAll (steps : List Step) {c : Connection} (working : c.room = none) :
    Dialogue c.ending c.processId c.nextId c.unread steps (Step.runAll steps c).1
        (Step.runAll steps c).2.unread ∧
      Writes c (Step.runAll steps c).2 ((Step.runAll steps c).1.flatMap Step.Report.sent) := by
  -- Each step is judged on the connection that the steps before it leave.
  induction steps generalizing c with
  | nil => exact ⟨.nil _ _, .refl working⟩
  | cons step steps ih =>
      unfold Step.runAll
      cases ran : step.run c with
      | mk outcome after =>
          dsimp only
          rw [List.flatMap_cons]
          cases made : step.method? with
          | none =>
              have done := Step.quiet_run made working
              rw [ran] at done
              have first := done.writes
              have numbered := done.follows.nextId
              obtain ⟨dialogue, later⟩ := ih first.room
              rw [first.ending, first.processId, numbered, done.unread] at dialogue
              refine ⟨.quiet made done.outcome first.drop_sent dialogue, ?_⟩
              rw [first.drop_sent]
              exact first.trans later
          | some method =>
              obtain ⟨exchange, done⟩ := Step.asks_run made working
              rw [ran] at done
              obtain ⟨frames, brought, replies, attends, concluded, first, numbered⟩ := done.attends
              obtain ⟨dialogue, later⟩ := ih first.room
              rw [first.ending, first.processId, numbered] at dialogue
              refine ⟨.asks made attends concluded first.drop_sent dialogue, ?_⟩
              rw [first.drop_sent]
              exact first.trans later

/--
How a client and a server talk in a session: the dialogue of the steps, and
nothing else is sent.
-/
structure Converses (ending : Frame.Ending) (stream : Bytes) (processId : Nat)
    (steps : List Step) (reports : List Step.Report) (final : Connection) : Prop where
  dialogue : Dialogue ending processId 1 stream steps reports final.unread
  sent : final.sent = reports.flatMap Step.Report.sent

/-- Whatever a server writes, each of its requests is refused exactly once, and at once. -/
theorem runAll_converses (ending : Frame.Ending) (stream : Bytes) (processId : Nat)
    (steps : List Step) :
    Converses ending stream processId steps
      (Step.runAll steps { unread := stream, ending, processId }).1
      (Step.runAll steps { unread := stream, ending, processId }).2 := by
  obtain ⟨dialogue, writes⟩ :=
    dialogue_runAll steps (c := { unread := stream, ending, processId }) rfl
  exact ⟨dialogue, writes.sent⟩

end DiffDigest
