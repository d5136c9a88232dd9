import DiffDigest.Proofs.Session.Call
import DiffDigest.Session.Step

/-!
# Histories of sessions

The requests of a session are numbered in the order in which they are made.
Each is settled by frames of its own, which no other request sees.
-/

namespace DiffDigest

open DiffDigest.Frame (Arrival Between)
open Message (replies)
open Session (Follows Settles Writes)

/-! ## Steps and their requests -/

namespace Step

def method? : Step → Option String
  | .handshake workDir root =>
      ((Path.absolute? workDir root).bind Path.uri?).map fun _ => "initialize"
  | .openDocument _ _ _ => none
  | .closeDocument _ => none
  | .format _ => some "textDocument/formatting"
  | .organizeImports _ _ => some "textDocument/codeAction"
  | .documentSymbols _ => some "textDocument/documentSymbol"
  | .close => some "shutdown"

def unasked : Step → Except Stop Answer
  | .handshake workDir root =>
      match Path.absolute? workDir root with
      | none => .error (.failed .emptyRoot)
      | some root => .error (.failed (.noUri root))
  | _ => .ok .done

/-- What a step brings when its request has come to an outcome. -/
def conclude : Step → Except Stop Json → Except Stop Answer
  | .handshake _ _, .error (.failed error) => .error (.failed (.handshake error))
  | .format _, .ok result =>
      match Json.optional? (Json.listOf? TextEdit.ofJson?) (some result) with
      | some edits => .ok (.edits (edits.getD []))
      | none => .error (.failed .unreadableEdits)
  | .organizeImports uri _, .ok (.array actions) =>
      .ok (.edits (CodeAction.firstImports uri actions))
  | .organizeImports _ _, .ok _ => .ok (.edits [])
  | .organizeImports _ _, .error (.failed _) => .ok (.edits [])
  | .documentSymbols _, .ok result =>
      match Outline.ofJson? result with
      | some outline => .ok (.outline outline)
      | none => .error (.failed .unreadableSymbols)
  | .close, _ => .ok .done
  | _, .ok _ => .ok .done
  | _, .error stop => .error stop

def params? (processId : Nat) : Step → Option Json
  | .handshake workDir root =>
      ((Path.absolute? workDir root).bind Path.uri?).map (Message.handshakeParams processId)
  | .openDocument _ _ _ | .closeDocument _ | .close => none
  | .format uri => some (Message.formatParams uri)
  | .organizeImports uri content => some (Message.importsParams uri content)
  | .documentSymbols uri => some (Message.documentParams uri)

def notices : Step → List Json
  | .openDocument uri language text =>
      [Message.notification "textDocument/didOpen" (some (Message.openParams uri language text))]
  | .closeDocument uri =>
      [Message.notification "textDocument/didClose" (some (Message.documentParams uri))]
  | _ => []

/-- What a step sends once its request has come to an outcome. -/
def sequel : Step → Except Stop Json → List Json
  | .handshake _ _, .ok _ => [Message.notification "initialized" (some (.object []))]
  | .close, _ => [Message.notification "exit" none]
  | _, _ => []

theorem requests_notices (step : Step) : Message.requests step.notices = [] := by
  cases step with
  | openDocument uri language text => exact Message.requests_notification _ _
  | closeDocument uri => exact Message.requests_notification _ _
  | _ => rfl

theorem requests_sequel (step : Step) (outcome : Except Stop Json) :
    Message.requests (step.sequel outcome) = [] := by
  unfold sequel
  split
  · exact Message.requests_notification _ _
  · exact Message.requests_notification _ _
  · rfl

theorem unasked_ne_waiting (step : Step) : step.unasked ≠ .error .waiting := by
  unfold unasked
  split
  · split <;> nofun
  · nofun

/-- A step waits for ever only if its request does. -/
theorem conclude_ne_waiting (step : Step) {outcome : Except Stop Json}
    (ended : outcome ≠ .error .waiting) : step.conclude outcome ≠ .error .waiting := by
  unfold conclude
  split
  · nofun
  · split <;> nofun
  · nofun
  · nofun
  · nofun
  · split <;> nofun
  · nofun
  · nofun
  · intro same
    cases same
    exact ended rfl

end Step

/-! ## One step -/

namespace Session

theorem bind_apply {α β : Type} (part : Session α) (next : α → Session β) (c : Connection) :
    (part >>= next) c =
      match part c with
      | (.ok value, d) => next value d
      | (.error stop, d) => (.error stop, d) := by
  change ExceptT.bindCont next (part c).1 (part c).2 = _
  cases part c with
  | mk outcome d =>
      cases outcome with
      | ok value => rfl
      | error stop => rfl

/-- Greeting a server whose directory has a URI. -/
theorem handshake_apply {workDir root whole : Path} {uri : String}
    (resolved : Path.absolute? workDir root = some whole) (named : whole.uri? = some uri)
    (c : Connection) :
    handshake workDir root c =
      match call "initialize" (some (Message.handshakeParams c.processId uri)) c with
      | (.ok _, d) => notify "initialized" (some (.object [])) d
      | (.error (.failed error), d) => (.error (.failed (.handshake error)), d)
      | (.error .waiting, d) => (.error .waiting, d) := by
  unfold handshake
  rw [resolved]
  dsimp only
  rw [named]
  dsimp only
  rw [bind_apply]
  change (within .handshake (call "initialize" (some (Message.handshakeParams c.processId uri))) >>=
    fun _ => notify "initialized" (some (.object []))) c = _
  rw [bind_apply]
  unfold within
  cases call "initialize" (some (Message.handshakeParams c.processId uri)) c with
  | mk outcome d =>
      cases outcome with
      | ok result => rfl
      | error stop => cases stop <;> rfl

end Session

/-- A request of a session, the frames read for it, and what came of it. -/
structure Exchange where
  id : Nat
  method : String
  frames : List Arrival
  outcome : Except Stop Json

def Exchange.asked (exchanges : List Exchange) : List (Json × String) :=
  exchanges.map fun exchange => (.integer exchange.id, exchange.method)

namespace Step

variable {step : Step} {method : String} {c : Connection}

structure Quiet (step : Step) (c : Connection) (reached : Except Stop Answer × Connection) :
    Prop where
  outcome : reached.1 = step.unasked
  unread : reached.2.unread = c.unread
  writes : Writes c reached.2 step.notices

theorem Quiet.follows {reached : Except Stop Answer × Connection} (quiet : Quiet step c reached) :
    Follows c reached.2 [] := by
  have follows := quiet.writes.follows
  rw [requests_notices] at follows
  exact follows

theorem quiet_notify (done : step.unasked = .ok .done) (working : c.room = none)
    {params : Option Json} (told : step.notices = [Message.notification method params]) :
    Quiet step c ((Session.notify method params >>= fun _ => pure .done) c) := by
  rw [Session.bind_apply, Session.notify_eq working]
  refine ⟨done.symm, rfl, ?_⟩
  rw [told]
  exact .notification working _ _

theorem quiet_run (quiet : step.method? = none) (working : c.room = none) :
    Quiet step c (step.run c) := by
  cases step with
  | handshake workDir root =>
      have ran : run (.handshake workDir root) c = (unasked (.handshake workDir root), c) := by
        have homeless : (Path.absolute? workDir root).bind Path.uri? = none :=
          Option.map_eq_none_iff.1 quiet
        unfold run unasked
        dsimp only
        rw [Session.bind_apply]
        unfold Session.handshake
        cases found : Path.absolute? workDir root with
        | none => rfl
        | some root =>
            rw [found, Option.bind_some] at homeless
            dsimp only
            rw [homeless]
            rfl
      rw [ran]
      exact ⟨rfl, rfl, .refl working⟩
  | openDocument uri language text => exact quiet_notify rfl working rfl
  | closeDocument uri => exact quiet_notify rfl working rfl
  | _ => cases quiet

/-- A step makes one request under the next id, and brings what its outcome tells. -/
structure Asks (step : Step) (method : String) (c : Connection) (exchange : Exchange)
    (reached : Except Stop Answer × Connection) : Prop where
  id : exchange.id = c.nextId
  method : exchange.method = method
  settles : Settles c.ending exchange.id exchange.method c.unread exchange.frames exchange.outcome
    reached.2.unread
  outcome : reached.1 = step.conclude exchange.outcome
  writes : Writes c reached.2
    (Message.request exchange.id exchange.method (step.params? c.processId) ::
      (replies (exchange.frames.map Arrival.frame) ++ step.sequel exchange.outcome))

theorem Asks.follows {exchange : Exchange} {reached : Except Stop Answer × Connection}
    (asks : Asks step method c exchange reached) :
    Follows c reached.2 [(.integer exchange.id, exchange.method)] := by
  have follows := asks.writes.follows
  rw [← List.singleton_append, Message.requests_append, Message.requests_append,
    Message.requests_request, Message.requests_replies, requests_sequel] at follows
  exact follows

/-- It is enough to follow a step from the outcome of its call on. -/
theorem asks_of_call (working : c.room = none) (params : Option Json)
    (given : step.params? c.processId = params) {reached : Except Stop Answer × Connection}
    (concludes : ∀ outcome d, Session.call method params c = (outcome, d) → d.room = none →
      reached.1 = step.conclude outcome ∧ reached.2.unread = d.unread ∧
        Writes d reached.2 (step.sequel outcome)) :
    ∃ exchange, Asks step method c exchange reached := by
  obtain ⟨frames, settles, writes⟩ := Session.call_settles working method params
  cases called : Session.call method params c with
  | mk outcome d =>
      rw [called] at settles writes
      obtain ⟨concluded, unread, later⟩ := concludes outcome d called writes.room
      refine ⟨⟨c.nextId, method, frames, outcome⟩, rfl, rfl, ?_, concluded, ?_⟩
      · rw [unread]
        exact settles
      · rw [given, ← List.cons_append]
        exact writes.trans later

theorem asks_handshake {workDir root whole : Path} {uri : String}
    (resolved : Path.absolute? workDir root = some whole) (named : whole.uri? = some uri)
    (working : c.room = none) :
    ∃ exchange, Asks (.handshake workDir root) "initialize" c exchange
      (run (.handshake workDir root) c) := by
  have given : params? c.processId (.handshake workDir root) =
      some (Message.handshakeParams c.processId uri) := by
    unfold params?
    dsimp only
    rw [resolved, Option.bind_some, named]
    rfl
  refine asks_of_call working _ given ?_
  intro outcome d called room
  have told := Session.notify_eq room "initialized" (some (.object []))
  unfold run
  dsimp only
  rw [Session.bind_apply, Session.handshake_apply resolved named, called]
  cases outcome with
  | ok result =>
      dsimp only
      rw [told]
      exact ⟨rfl, rfl, .notification room _ _⟩
  | error stop => cases stop <;> exact ⟨rfl, rfl, .refl room⟩

theorem asks_format (uri : String) (working : c.room = none) :
    ∃ exchange, Asks (.format uri) "textDocument/formatting" c exchange (run (.format uri) c) := by
  refine asks_of_call working (some (Message.formatParams uri)) rfl ?_
  intro outcome d called room
  unfold run
  dsimp only
  rw [Session.bind_apply]
  unfold Session.format
  rw [Session.bind_apply, called]
  cases outcome with
  | error stop => exact ⟨rfl, rfl, .refl room⟩
  | ok result =>
      unfold conclude
      dsimp only
      cases Json.optional? (Json.listOf? TextEdit.ofJson?) (some result) with
      | none => exact ⟨rfl, rfl, .refl room⟩
      | some edits => exact ⟨rfl, rfl, .refl room⟩

theorem asks_documentSymbols (uri : String) (working : c.room = none) :
    ∃ exchange, Asks (.documentSymbols uri) "textDocument/documentSymbol" c exchange
      (run (.documentSymbols uri) c) := by
  refine asks_of_call working (some (Message.documentParams uri)) rfl ?_
  intro outcome d called room
  unfold run
  dsimp only
  rw [Session.bind_apply]
  unfold Session.documentSymbols
  rw [Session.bind_apply, called]
  cases outcome with
  | error stop => exact ⟨rfl, rfl, .refl room⟩
  | ok result =>
      unfold conclude
      dsimp only
      cases Outline.ofJson? result with
      | none => exact ⟨rfl, rfl, .refl room⟩
      | some outline => exact ⟨rfl, rfl, .refl room⟩

/-- Asking for imports fails never; what goes wrong is only reported. -/
theorem asks_organizeImports (uri content : String) (working : c.room = none) :
    ∃ exchange, Asks (.organizeImports uri content) "textDocument/codeAction" c exchange
      (run (.organizeImports uri content) c) := by
  refine asks_of_call working (some (Message.importsParams uri content)) rfl ?_
  intro outcome d called room
  unfold run
  dsimp only
  rw [Session.bind_apply]
  unfold Session.organizeImports
  rw [called]
  cases outcome with
  | error stop =>
      cases stop with
      | failed error => exact ⟨rfl, rfl, .of_log room⟩
      | waiting => exact ⟨rfl, rfl, .refl room⟩
  | ok result =>
      cases result with
      | null => exact ⟨rfl, rfl, .refl room⟩
      | array actions => exact ⟨rfl, rfl, .refl room⟩
      | _ => exact ⟨rfl, rfl, .of_log room⟩

/-- Closing tells the server to exit, whatever came of its shutdown. -/
theorem asks_close (working : c.room = none) :
    ∃ exchange, Asks .close "shutdown" c exchange (run .close c) := by
  refine asks_of_call working none rfl ?_
  intro outcome d called room
  have left : (Session.shutDown c).room = none ∧ (Session.shutDown c).unread = d.unread ∧
      Writes d (Session.shutDown c) [] := by
    unfold Session.shutDown
    rw [called]
    cases outcome with
    | ok result => exact ⟨room, rfl, .refl room⟩
    | error stop => cases stop <;> exact ⟨room, rfl, .of_log room⟩
  obtain ⟨stillWorking, unread, silent⟩ := left
  have told := Session.notify_eq stillWorking "exit" none
  unfold run
  dsimp only
  unfold Session.close Session.bidExit
  rw [told]
  exact ⟨rfl, unread, silent.trans (.notification stillWorking _ _)⟩

theorem asks_run (asks : step.method? = some method) (working : c.room = none) :
    ∃ exchange, Asks step method c exchange (step.run c) := by
  cases step with
  | handshake workDir root =>
      obtain ⟨uri, found, rfl⟩ := Option.map_eq_some_iff.1 asks
      obtain ⟨whole, resolved, named⟩ := Option.bind_eq_some_iff.1 found
      exact asks_handshake resolved named working
  | openDocument uri language text => cases asks
  | closeDocument uri => cases asks
  | format uri =>
      cases asks
      exact asks_format uri working
  | organizeImports uri content =>
      cases asks
      exact asks_organizeImports uri content working
  | documentSymbols uri =>
      cases asks
      exact asks_documentSymbols uri working
  | close =>
      cases asks
      exact asks_close working

end Step

/-! ## Many steps -/

/--
What comes of steps that are done one after the other, when the next request has
this id and the server's output is read from this place on: what each step
brings, the requests with all that was read for them, and the place reached.
-/
inductive History (ending : Frame.Ending) :
    Nat → Bytes → List Step → List (Except Stop Answer) → List Exchange → Bytes → Prop
  | nil (id : Nat) (stream : Bytes) : History ending id stream [] [] [] stream
  | quiet {id : Nat} {stream last : Bytes} {step : Step} {steps : List Step}
      {outcomes : List (Except Stop Answer)} {exchanges : List Exchange}
      (quiet : step.method? = none)
      (others : History ending id stream steps outcomes exchanges last) :
      History ending id stream (step :: steps) (step.unasked :: outcomes) exchanges last
  | asks {stream next last : Bytes} {step : Step} {steps : List Step}
      {outcomes : List (Except Stop Answer)} {exchange : Exchange} {exchanges : List Exchange}
      (asks : step.method? = some exchange.method)
      (settles : Settles ending exchange.id exchange.method stream exchange.frames
        exchange.outcome next)
      (others : History ending (exchange.id + 1) next steps outcomes exchanges last) :
      History ending exchange.id stream (step :: steps)
        (step.conclude exchange.outcome :: outcomes) (exchange :: exchanges) last

namespace History

variable {ending : Frame.Ending} {id : Nat} {stream last : Bytes} {steps : List Step}
  {outcomes : List (Except Stop Answer)} {exchanges : List Exchange}

/-- Each step that asks uses up one id. -/
theorem numbered (history : History ending id stream steps outcomes exchanges last) :
    exchanges.map (fun exchange => (exchange.method, exchange.id)) =
      (steps.filterMap Step.method?).zipIdx id := by
  induction history with
  | nil id stream => rfl
  | quiet quiet others ih => rw [List.filterMap_cons, quiet, ih]
  | asks asks settles others ih =>
      rw [List.filterMap_cons, asks, List.map_cons, ih, List.zipIdx_cons]

/-- The frames read in a history stand one after the other. -/
theorem between (history : History ending id stream steps outcomes exchanges last) :
    Between stream (exchanges.flatMap Exchange.frames) last := by
  induction history with
  | nil id stream => exact .nil List.suffix_rfl
  | quiet quiet others ih => exact ih
  | asks asks settles others ih =>
      rw [List.flatMap_cons]
      exact settles.between.append ih

/-- On a stream that ends, every step comes to an end. -/
theorem ne_waiting (history : History .closed id stream steps outcomes exchanges last) :
    ∀ outcome ∈ outcomes, outcome ≠ .error .waiting := by
  induction history with
  | nil id stream => nofun
  | quiet quiet others ih =>
      intro outcome member
      rcases List.mem_cons.1 member with rfl | later
      · exact Step.unasked_ne_waiting _
      · exact ih outcome later
  | asks asks settles others ih =>
      intro outcome member
      rcases List.mem_cons.1 member with rfl | later
      · exact Step.conclude_ne_waiting _ settles.ne_waiting
      · exact ih outcome later

end History

theorem history_runAll (steps : List Step) {c : Connection} (working : c.room = none) :
    ∃ exchanges,
      History c.ending c.nextId c.unread steps ((Step.runAll steps c).1.map Step.Report.outcome)
        exchanges (Step.runAll steps c).2.unread ∧
      Follows c (Step.runAll steps c).2 (Exchange.asked exchanges) := by
  induction steps generalizing c with
  | nil => exact ⟨[], .nil _ _, .refl working⟩
  | cons step steps ih =>
      unfold Step.runAll
      cases ran : step.run c with
      | mk outcome after =>
          cases made : step.method? with
          | none =>
              have done := Step.quiet_run made working
              rw [ran] at done
              have first := done.follows
              obtain ⟨rfl, unread, _⟩ := done
              obtain ⟨exchanges, history, follows⟩ := ih first.room
              refine ⟨exchanges, ?_, first.trans follows⟩
              rw [first.ending, unread, first.nextId] at history
              exact .quiet made history
          | some method =>
              obtain ⟨exchange, done⟩ := Step.asks_run made working
              rw [ran] at done
              have first := done.follows
              obtain ⟨numbered, rfl, settles, rfl, _⟩ := done
              obtain ⟨exchanges, history, follows⟩ := ih first.room
              refine ⟨exchange :: exchanges, ?_, first.trans follows⟩
              rw [first.ending, first.nextId, ← numbered] at history
              rw [← numbered]
              exact .asks made settles history

/--
How the requests of a session and the frames of the server belong together.  The
requests sent are those of the steps, numbered from one; each is settled where
the one before it left the stream; no frame is read for two of them, or twice;
and on a stream that ends, every step comes to an end.
-/
structure Correlated (ending : Frame.Ending) (stream : Bytes) (steps : List Step)
    (reports : List Step.Report) (final : Connection) (exchanges : List Exchange) : Prop where
  numbered : exchanges.map (fun exchange => (exchange.method, exchange.id)) =
    (steps.filterMap Step.method?).zipIdx 1
  requests : Message.requests final.sent = Exchange.asked exchanges
  history : History ending 1 stream steps (reports.map Step.Report.outcome) exchanges final.unread
  once : (exchanges.flatMap Exchange.frames).Pairwise fun first second =>
    first.Before second.stream
  ended : ending = .closed → ∀ report ∈ reports, report.outcome ≠ .error .waiting

/-- Whatever a server writes, requests and answers belong together in every session. -/
theorem runAll_correlated (ending : Frame.Ending) (stream : Bytes) (processId : Nat)
    (steps : List Step) :
    ∃ exchanges,
      Correlated ending stream steps
        (Step.runAll steps { unread := stream, ending, processId }).1
        (Step.runAll steps { unread := stream, ending, processId }).2 exchanges := by
  obtain ⟨exchanges, history, follows⟩ :=
    history_runAll steps (c := { unread := stream, ending, processId }) rfl
  refine ⟨exchanges, history.numbered, ?_, history, history.between.ordered, ?_⟩
  · rw [follows.requests]
    rfl
  · rintro rfl report member
    exact history.ne_waiting _ (List.mem_map_of_mem member)

end DiffDigest
