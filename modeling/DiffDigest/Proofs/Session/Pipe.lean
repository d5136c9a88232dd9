import DiffDigest.Proofs.Session.Dialogue

/-!
# Broken pipes

A pipe that takes only so many frames cuts a session short and changes it in no
other way.  Up to the last frame that the pipe takes, the session is the one of a
pipe that takes all.  From then on nothing is sent, and a step whose request
cannot be written ends at once, without a look at what the server has written.
-/

namespace DiffDigest

namespace Connection

def withRoom (room : Option Nat) (c : Connection) : Connection :=
  { c with room }

theorem send_clock {c d : Connection} {frame : Json} (h : c.send frame = .ok d) :
    d.clock = c.clock := by
  unfold send at h
  split at h <;> cases h
  rfl

theorem send_ending {c d : Connection} {frame : Json} (h : c.send frame = .ok d) :
    d.ending = c.ending := by
  unfold send at h
  split at h <;> cases h
  rfl

/-- A pipe without room takes no frame. -/
theorem send_of_full {c : Connection} (full : c.room = some 0) (frame : Json) :
    c.send frame = .error .brokenPipe := by
  unfold send
  rw [full]
  rfl

end Connection

namespace Session

/-! ## Two connections in step -/

/--
One connection comes from another with this number of requests made in between.
A pipe without any room takes nothing.
-/
structure GoesOn (asked : Nat) (c d : Connection) : Prop where
  grows : c.sent <+: d.sent
  nextId : d.nextId = c.nextId + asked
  working : c.room = none → d.room = none
  full : c.room = some 0 → d.room = some 0 ∧ d.sent = c.sent

namespace GoesOn

theorem refl (c : Connection) : GoesOn 0 c c :=
  ⟨List.prefix_rfl, rfl, fun working => working, fun full => ⟨full, rfl⟩⟩

theorem trans {m n : Nat} {c d e : Connection} (first : GoesOn m c d) (second : GoesOn n d e) :
    GoesOn (m + n) c e := by
  refine ⟨first.grows.trans second.grows, ?_, fun working => second.working (first.working working),
    ?_⟩
  · rw [second.nextId, first.nextId, Nat.add_assoc]
  · intro full
    obtain ⟨stillFull, unsent⟩ := first.full full
    obtain ⟨fullAgain, silent⟩ := second.full stillFull
    exact ⟨fullAgain, silent.trans unsent⟩

theorem of_send {c d : Connection} {frame : Json} (sending : c.send frame = .ok d) :
    GoesOn 0 c d := by
  have sent := Connection.send_sent sending
  unfold Connection.send at sending
  split at sending
  · cases sending
  · rename_i nonzero
    cases sending
    refine ⟨⟨[frame], sent.symm⟩, rfl, ?_, fun full => absurd full nonzero⟩
    intro working
    rw [working]
    rfl

end GoesOn

/--
How a connection keeps up with another when its pipe takes only `limit` frames in
all.  Its frames are the first ones of the other, and while there is room for all
of them there is no further difference.
-/
structure KeepsUp (limit : Nat) (whole cut : Connection) : Prop where
  working : whole.room = none
  room : cut.room = some (limit - whole.sent.length)
  sent : cut.sent = whole.sent.take limit
  same : whole.sent.length ≤ limit → cut = whole.withRoom (some (limit - whole.sent.length))

namespace KeepsUp

variable {limit : Nat} {whole cut : Connection}

/-- With room for all that was sent, only the room tells the connections apart. -/
theorem of_le (working : whole.room = none) (within : whole.sent.length ≤ limit) :
    KeepsUp limit whole (whole.withRoom (some (limit - whole.sent.length))) :=
  ⟨working, rfl, (List.take_of_length_le within).symm, fun _ => rfl⟩

/-- Once the pipe is broken, the one connection stays where it is. -/
theorem beyond {m n : Nat} {later still : Connection} (keeps : KeepsUp limit whole cut)
    (spent : limit < whole.sent.length) (ahead : GoesOn m whole later)
    (behind : GoesOn n cut still) : KeepsUp limit later still := by
  have full : cut.room = some 0 := by
    rw [keeps.room, Nat.sub_eq_zero_of_le (Nat.le_of_lt spent)]
  obtain ⟨stillFull, unsent⟩ := behind.full full
  obtain ⟨more, grown⟩ := ahead.grows
  have longer : limit < later.sent.length := Nat.lt_of_lt_of_le spent ahead.grows.length_le
  refine ⟨ahead.working keeps.working, ?_, ?_, fun within => absurd within (Nat.not_le.2 longer)⟩
  · rw [stillFull, Nat.sub_eq_zero_of_le (Nat.le_of_lt longer)]
  · rw [unsent, keeps.sent, ← grown, List.take_append_of_le_length (Nat.le_of_lt spent)]

/-- Two connections in step both send a frame, or the pipe of the one breaks. -/
theorem send (keeps : KeepsUp limit whole cut) (frame : Json) :
    (whole.sent.length < limit ∧
      cut.send frame = .ok ({ whole with sent := whole.sent ++ [frame] }.withRoom
        (some (limit - (whole.sent ++ [frame]).length)))) ∨
    (limit ≤ whole.sent.length ∧ cut.send frame = .error .brokenPipe ∧
      KeepsUp limit { whole with sent := whole.sent ++ [frame] } cut) := by
  have length : (whole.sent ++ [frame]).length = whole.sent.length + 1 := List.length_append
  rcases Nat.lt_or_ge whole.sent.length limit with early | spent
  · obtain ⟨more, room⟩ : ∃ more, limit - whole.sent.length = more + 1 :=
      ⟨limit - whole.sent.length - 1, by omega⟩
    have left : limit - (whole.sent ++ [frame]).length = more := by
      rw [length]
      omega
    refine .inl ⟨early, ?_⟩
    rw [left, keeps.same (Nat.le_of_lt early), room]
    rfl
  · have full : cut.room = some 0 := by
      rw [keeps.room, Nat.sub_eq_zero_of_le spent]
    refine .inr ⟨spent, Connection.send_of_full full frame, keeps.working, ?_, ?_, ?_⟩
    · rw [full, length, Nat.sub_eq_zero_of_le (Nat.le_succ_of_le spent)]
    · rw [keeps.sent, List.take_append_of_le_length spent]
    · intro within
      rw [length] at within
      omega

end KeepsUp

/-- What a part of a session brings on two connections: the same, unless the pipe of the one broke. -/
structure InStep {α : Type} (limit : Nat) (whole cut : Except Stop α × Connection) : Prop where
  keepsUp : KeepsUp limit whole.2 cut.2
  agrees : whole.2.sent.length ≤ limit → cut.1 = whole.1

/-! ## Parts of a session -/

/-- A part of a session that makes this number of requests, and that a broken pipe cuts short. -/
structure CutShort {α : Type} (asked : Nat) (part : Session α) : Prop where
  goesOn : ∀ c, GoesOn asked c (part c).2
  inStep : ∀ {limit whole cut}, KeepsUp limit whole cut → InStep limit (part whole) (part cut)

section Parts

variable {α β : Type} {m n : Nat}

/-- It is enough to look at a connection while its pipe has room for all that was sent. -/
theorem cutShort_of_within {part : Session α} (goesOn : ∀ c, GoesOn m c (part c).2)
    (inStep : ∀ {limit whole}, whole.room = none → whole.sent.length ≤ limit →
      InStep limit (part whole) (part (whole.withRoom (some (limit - whole.sent.length))))) :
    CutShort m part := by
  refine ⟨goesOn, ?_⟩
  intro limit whole cut keeps
  rcases Nat.lt_or_ge limit whole.sent.length with spent | within
  · refine ⟨keeps.beyond spent (goesOn whole) (goesOn cut), ?_⟩
    intro within
    have longer := (goesOn whole).grows.length_le
    omega
  · rw [keeps.same within]
    exact inStep keeps.working within

/-- What is done after a part, whatever came of it, is cut short as well. -/
theorem CutShort.andThen {part : Session α} {next : Except Stop α → Session β}
    (first : CutShort m part) (later : ∀ outcome, CutShort n (next outcome)) :
    CutShort (m + n) fun c => next (part c).1 (part c).2 := by
  refine ⟨fun c => (first.goesOn c).trans ((later _).goesOn _), ?_⟩
  intro limit whole cut keeps
  obtain ⟨reached, agrees⟩ := first.inStep keeps
  rcases Nat.lt_or_ge limit (part whole).2.sent.length with spent | within
  · refine ⟨reached.beyond spent ((later _).goesOn _) ((later _).goesOn _), ?_⟩
    intro within
    have longer := ((later (part whole).1).goesOn (part whole).2).grows.length_le
    omega
  · rw [agrees within]
    exact (later _).inStep reached

/-- What is changed without sending anything has nothing to do with the pipe. -/
theorem cutShort_aside (outcome : Except Stop α) {change : Connection → Connection}
    (goesOn : ∀ c, GoesOn m c (change c)) (sent : ∀ c, (change c).sent = c.sent)
    (same : ∀ c room, change (c.withRoom room) = (change c).withRoom room) :
    CutShort m (fun c => (outcome, change c) : Session α) := by
  refine cutShort_of_within goesOn ?_
  intro limit whole working within
  refine ⟨?_, fun _ => rfl⟩
  dsimp only
  rw [same, ← sent]
  exact .of_le ((goesOn whole).working working) (sent whole ▸ within)

theorem cutShort_stop (outcome : Except Stop α) :
    CutShort 0 (fun c => (outcome, c) : Session α) :=
  cutShort_aside outcome .refl (fun _ => rfl) fun _ _ => rfl

def goOn (next : α → Session β) : Except Stop α → Session β
  | .ok value => next value
  | .error stop => fun c => (.error stop, c)

theorem CutShort.bind {part : Session α} {next : α → Session β} (first : CutShort m part)
    (later : ∀ value, CutShort 0 (next value)) : CutShort m (part >>= next) := by
  have same : part >>= next = fun c => goOn next (part c).1 (part c).2 := by
    funext c
    rw [bind_apply]
    cases part c with
    | mk outcome d => cases outcome <;> rfl
  rw [same]
  refine first.andThen (n := 0) ?_
  intro outcome
  cases outcome with
  | ok value => exact later value
  | error stop => exact cutShort_stop _

/-- A part may depend on a number of the connection that has nothing to do with the pipe. -/
theorem cutShort_reads {part : Nat → Session α} (number : Connection → Nat)
    (same : ∀ c room, number (c.withRoom room) = number c)
    (each : ∀ value, CutShort m (part value)) : CutShort m fun c => part (number c) c := by
  refine cutShort_of_within (fun c => (each _).goesOn c) ?_
  intro limit whole working within
  rw [same]
  exact (each (number whole)).inStep (.of_le working within)

end Parts

/-- Neither the stream nor the clock nor the log matters to what is sent. -/
theorem GoesOn.aside (c : Connection) {stream : Bytes} {clock : Nat} {log : List (Nat × Event)} :
    GoesOn 0 c { c with unread := stream, clock, log } :=
  ⟨List.prefix_rfl, rfl, fun working => working, fun full => ⟨full, rfl⟩⟩

theorem cutShort_post (context : FrameError → SessionError) (frame : Json) :
    CutShort 0 (post context frame) := by
  constructor
  · intro c
    unfold post
    cases sending : c.send frame with
    | error error => exact .refl c
    | ok d => exact .of_send sending
  · intro limit whole cut keeps
    unfold post
    rw [send_of_working keeps.working]
    rcases keeps.send frame with ⟨early, sending⟩ | ⟨spent, sending, broken⟩
    · rw [sending]
      refine ⟨.of_le keeps.working ?_, fun _ => rfl⟩
      rw [List.length_append]
      exact early
    · rw [sending]
      refine ⟨broken, ?_⟩
      intro within
      rw [List.length_append, List.length_singleton] at within
      omega

/-! ## Waiting on any pipe -/

/-- Waiting for an answer, one frame after the other. -/
theorem await_eq (method : String) (id : Nat) (c : Connection) :
    await method id c =
      match Frame.read c.ending c.unread with
      | .waiting => (.error .waiting, { c with unread := [] })
      | .finished => (.error (.failed (.closedBefore method)), c)
      | .failed error rest => (.error (.failed (.reading method error)), { c with unread := rest })
      | .frame frame rest =>
          let c := { c with unread := rest }
          match Message.incoming frame with
          | .response got body =>
              if got = id then
                match Message.outcome body with
                | .ok result => (.ok result, c)
                | .error error => (.error (.failed (.refused error)), c)
              else await method id (c.record (.responseDiscarded got id))
          | .request theirs asked =>
              let c := c.record (.requestRefused asked)
              match c.send (Message.refusal theirs asked) with
              | .ok c => await method id c
              | .error error => (.error (.failed (.replying asked error)), c)
          | .notification note => await method id (c.record (.notificationIgnored note))
          | .malformed => await method id (c.record .frameIgnored) := by
  rw [await.eq_def]
  split
  · rename_i reading
    rw [reading]
  · rename_i reading
    rw [reading]
  · rename_i reading
    rw [reading]
  · rename_i reading
    rw [reading]
    dsimp only
    cases Message.incoming _ with
    | request theirs asked =>
        dsimp only
        split
        · rename_i sending
          rw [sending]
        · rename_i sending
          rw [sending]
    | _ => rfl

theorem goesOn_await (method : String) (id : Nat) (c : Connection) :
    GoesOn 0 c (await method id c).2 := by
  fun_induction await method id c with
  | case2 c _ => exact .refl c
  | case6 c _ _ _ _ _ _ _ _ ih => exact GoesOn.trans (.aside c) ih
  | case7 c _ _ _ _ _ _ _ _ _ sending ih =>
      exact GoesOn.trans (GoesOn.trans (.aside c) (.of_send sending)) ih
  | case9 c _ _ _ _ _ _ ih => exact GoesOn.trans (.aside c) ih
  | case10 c _ _ _ _ _ ih => exact GoesOn.trans (.aside c) ih
  | _ => exact .aside _

/-- Time passes only when a client has waited in vain. -/
theorem clock_await (method : String) (id : Nat) (c : Connection) :
    (await method id c).2.clock = c.clock := by
  fun_induction await method id c with
  | case7 c _ _ _ _ _ _ _ _ _ sending ih => exact ih.trans ((Connection.send_clock sending).trans rfl)
  | case6 _ _ _ _ _ _ _ _ _ ih => exact ih
  | case9 _ _ _ _ _ _ _ ih => exact ih
  | case10 _ _ _ _ _ _ ih => exact ih
  | _ => rfl

theorem cutShort_await (method : String) (id : Nat) : CutShort 0 (await method id) := by
  refine cutShort_of_within (goesOn_await method id) ?_
  intro limit whole working within
  have reads {c : Connection} {reading : Frame.Reading} (room : Option Nat)
      (read : Frame.read c.ending c.unread = reading) :
      Frame.read (c.withRoom room).ending (c.withRoom room).unread = reading := read
  -- Both connections read the same frames; only a refusal can fail on the one alone.
  fun_induction await method id whole with
  | case1 c reading =>
      rw [await_eq, reads _ reading]
      exact ⟨.of_le working within, fun _ => rfl⟩
  | case2 c reading =>
      rw [await_eq, reads _ reading]
      exact ⟨.of_le working within, fun _ => rfl⟩
  | case3 c error rest reading =>
      rw [await_eq, reads _ reading]
      exact ⟨.of_le working within, fun _ => rfl⟩
  | case4 c frame rest reading after body result outcome sorted =>
      rw [await_eq, reads _ reading]
      dsimp only
      rw [sorted]
      dsimp only
      rw [if_pos rfl, outcome]
      exact ⟨.of_le working within, fun _ => rfl⟩
  | case5 c frame rest reading after body error outcome sorted =>
      rw [await_eq, reads _ reading]
      dsimp only
      rw [sorted]
      dsimp only
      rw [if_pos rfl, outcome]
      exact ⟨.of_le working within, fun _ => rfl⟩
  | case6 c frame rest reading after got body sorted unequal ih =>
      rw [await_eq method id (c.withRoom _), reads _ reading]
      dsimp only
      rw [sorted]
      dsimp only
      rw [if_neg unequal]
      exact ih working within
  | case7 c frame rest reading _ theirs asked sorted after d sending ih =>
      rw [await_eq method id (c.withRoom _), reads _ reading]
      dsimp only
      rw [sorted]
      have keeps : KeepsUp limit after (after.withRoom (some (limit - after.sent.length))) :=
        .of_le working within
      rw [send_of_working (c := after) working] at sending
      cases sending
      change InStep limit _
        (match (after.withRoom (some (limit - after.sent.length))).send
            (Message.refusal theirs asked) with
        | .ok c => await method id c
        | .error error => (.error (.failed (.replying asked error)),
            after.withRoom (some (limit - after.sent.length))))
      rcases keeps.send (Message.refusal theirs asked) with
        ⟨early, sending⟩ | ⟨spent, sending, broken⟩
      · rw [sending]
        refine ih working ?_
        rw [List.length_append]
        exact early
      · rw [sending]
        have longer : limit < (after.sent ++ [Message.refusal theirs asked]).length := by
          rw [List.length_append]
          exact Nat.lt_succ_of_le spent
        have ahead := goesOn_await method id
          { after with sent := after.sent ++ [Message.refusal theirs asked] }
        refine ⟨broken.beyond longer ahead (.refl _), ?_⟩
        intro within
        have grown := ahead.grows.length_le
        dsimp only at grown
        omega
  | case8 c frame rest reading _ theirs asked sorted after error sending =>
      rw [send_of_working (c := after) working] at sending
      cases sending
  | case9 c frame rest reading after note sorted ih =>
      rw [await_eq method id (c.withRoom _), reads _ reading]
      dsimp only
      rw [sorted]
      exact ih working within
  | case10 c frame rest reading after sorted ih =>
      rw [await_eq method id (c.withRoom _), reads _ reading]
      dsimp only
      rw [sorted]
      exact ih working within

/-! ## Calls and steps on any pipe -/

def takeId : Session Unit := fun c =>
  (.ok (), { c with nextId := c.nextId + 1 })

def ask (method : String) (params : Option Json) (id : Nat) : Session Json := do
  takeId
  post (.sending method) (Message.request id method params)
  await method id

theorem call_eq (method : String) (params : Option Json) :
    call method params = fun c => ask method params c.nextId c := by
  funext c
  unfold ask takeId
  rw [bind_apply]
  dsimp only
  rw [bind_apply]
  unfold call post
  dsimp only
  cases Connection.send _ _ <;> rfl

theorem cutShort_call (method : String) (params : Option Json) :
    CutShort 1 (call method params) := by
  rw [call_eq]
  refine cutShort_reads Connection.nextId (fun _ _ => rfl) ?_
  intro id
  refine CutShort.bind ?_ fun _ => (cutShort_post _ _).bind fun _ => cutShort_await method id
  refine cutShort_aside _ ?_ (fun _ => rfl) fun _ _ => rfl
  exact fun c => ⟨List.prefix_rfl, rfl, fun working => working, fun full => ⟨full, rfl⟩⟩

/-- A request that cannot be written uses up its id and reads nothing. -/
theorem call_of_full {c : Connection} (full : c.room = some 0) (method : String)
    (params : Option Json) :
    call method params c =
      (.error (.failed (.sending method .brokenPipe)), { c with nextId := c.nextId + 1 }) := by
  have stillFull : { c with nextId := c.nextId + 1 }.room = some 0 := full
  unfold call
  dsimp only
  rw [Connection.send_of_full stillFull]

theorem clock_call (method : String) (params : Option Json) (c : Connection) :
    (call method params c).2.clock = c.clock := by
  unfold call
  dsimp only
  split
  · rename_i sending
    exact (clock_await _ _ _).trans ((Connection.send_clock sending).trans rfl)
  · rfl

/-- A request and what is made of its outcome. -/
theorem cutShort_afterCall {α : Type} (method : String) (params : Option Json) {part : Session α}
    (later : Except Stop Json → Session α)
    (same : ∀ c, part c = later (call method params c).1 (call method params c).2)
    (each : ∀ outcome, CutShort 0 (later outcome)) : CutShort 1 part := by
  have whole : part = fun c => later (call method params c).1 (call method params c).2 :=
    funext same
  rw [whole]
  exact (cutShort_call method params).andThen each

theorem cutShort_record {α : Type} (outcome : Except Stop α) (event : Event) :
    CutShort 0 (fun c => (outcome, c.record event) : Session α) :=
  cutShort_aside outcome (fun c => .aside c) (fun _ => rfl) fun _ _ => rfl

def welcome : Except Stop Json → Session Unit
  | .ok _ => notify "initialized" (some (.object []))
  | .error (.failed error) => fun c => (.error (.failed (.handshake error)), c)
  | .error .waiting => fun c => (.error .waiting, c)

def greet (uri : String) (processId : Nat) : Session Unit := fun c =>
  let reached := call "initialize" (some (Message.handshakeParams processId uri)) c
  welcome reached.1 reached.2

/-- Greeting a server whose directory has a URI. -/
theorem cutShort_greeting {workDir root whole : Path} {uri : String}
    (resolved : Path.absolute? workDir root = some whole) (named : whole.uri? = some uri) :
    CutShort 1 (handshake workDir root) := by
  have same : handshake workDir root = fun c => greet uri c.processId c := by
    funext c
    rw [handshake_apply resolved named]
    unfold greet
    dsimp only
    rcases call "initialize" (some (Message.handshakeParams c.processId uri)) c with
      ⟨(_ | _) | _, d⟩ <;> rfl
  rw [same]
  refine cutShort_reads Connection.processId (fun _ _ => rfl) ?_
  intro processId
  refine cutShort_afterCall _ _ welcome (fun c => rfl) ?_
  rintro ((_ | _) | _)
  · exact cutShort_stop _
  · exact cutShort_stop _
  · exact cutShort_post _ _

def imports (uri : String) : Except Stop Json → Session (List TextEdit)
  | .error (.failed error) => fun c => (.ok [], c.record (.importsFailed uri error))
  | .error .waiting => fun c => (.error .waiting, c)
  | .ok (.array actions) => fun c => (.ok (CodeAction.firstImports uri actions), c)
  | .ok .null => fun c => (.ok [], c)
  | .ok result => fun c => (.ok [], c.record (.importsUnexpected uri result))

theorem organizeImports_apply (uri content : String) (c : Connection) :
    organizeImports uri content c =
      let reached := call "textDocument/codeAction" (some (Message.importsParams uri content)) c
      imports uri reached.1 reached.2 := by
  unfold organizeImports
  rcases call "textDocument/codeAction" (some (Message.importsParams uri content)) c with
    ⟨(_ | _) | (_ | _ | _ | _ | _ | _ | _), d⟩ <;> rfl

theorem cutShort_organizeImports (uri content : String) :
    CutShort 1 (organizeImports uri content) := by
  refine cutShort_afterCall _ _ (imports uri) (organizeImports_apply uri content) ?_
  rintro ((error | _) | (_ | _ | _ | _ | _ | _ | _))
  all_goals first
    | exact cutShort_stop _
    | exact cutShort_record _ _

theorem cutShort_format (uri : String) : CutShort 1 (format uri) := by
  refine (cutShort_call _ _).bind ?_
  intro result
  split
  · exact cutShort_stop _
  · exact cutShort_stop _

theorem cutShort_documentSymbols (uri : String) : CutShort 1 (documentSymbols uri) := by
  refine (cutShort_call _ _).bind ?_
  intro result
  split
  · exact cutShort_stop _
  · exact cutShort_stop _

def farewell : Except Stop Json → Session Unit
  | .ok _ => fun c => (.ok (), c)
  | .error (.failed error) => fun c => (.ok (), c.record (.shutdownFailed error))
  | .error .waiting => fun c => (.ok (), (c.wait patience).record .shutdownTimedOut)

theorem cutShort_shutDown : CutShort 1 (fun c => (.ok (), shutDown c) : Session Unit) := by
  refine cutShort_afterCall "shutdown" none farewell ?_ ?_
  · intro c
    unfold shutDown
    rcases call "shutdown" none c with ⟨(_ | _) | _, d⟩ <;> rfl
  · rintro ((error | _) | result)
    · exact cutShort_record _ _
    · exact cutShort_aside _ (fun c => .aside c) (fun _ => rfl) fun _ _ => rfl
    · exact cutShort_stop _

/-- A server that cannot be told to exit is only reported. -/
def departure {α : Type} (outcome : Except Stop α) : Except Stop Unit → Session α
  | .error (.failed error) => fun c => (outcome, c.record (.exitFailed error))
  | _ => fun c => (outcome, c)

theorem cutShort_bidExit {α : Type} (outcome : Except Stop α) :
    CutShort 0 (fun c => (outcome, bidExit c) : Session α) := by
  have same : (fun c => (outcome, bidExit c) : Session α) =
      fun c => departure outcome (notify "exit" none c).1 (notify "exit" none c).2 := by
    funext c
    unfold bidExit
    rcases notify "exit" none c with ⟨(_ | _) | _, d⟩ <;> rfl
  rw [same]
  refine (cutShort_post _ _).andThen (n := 0) ?_
  rintro ((error | _) | result)
  · exact cutShort_record _ _
  · exact cutShort_stop _
  · exact cutShort_stop _

end Session

namespace Step

open Session

def requestCount (step : Step) : Nat :=
  step.method?.toList.length

theorem cutShort_handshake (workDir root : Path) :
    CutShort (requestCount (.handshake workDir root)) (Session.handshake workDir root) := by
  unfold requestCount method?
  dsimp only
  cases resolved : Path.absolute? workDir root with
  | none =>
      unfold Session.handshake
      rw [resolved]
      exact cutShort_stop _
  | some whole =>
      rw [Option.bind_some]
      cases named : whole.uri? with
      | none =>
          unfold Session.handshake
          rw [resolved]
          dsimp only
          rw [named]
          exact cutShort_stop _
      | some uri => exact cutShort_greeting resolved named

/-- Every step makes its one request at its beginning, if any, and is cut short by a broken pipe. -/
theorem cutShort_run (step : Step) : CutShort step.requestCount step.run := by
  cases step with
  | handshake workDir root => exact (cutShort_handshake workDir root).bind fun _ => cutShort_stop _
  | openDocument uri language text => exact (cutShort_post _ _).bind fun _ => cutShort_stop _
  | closeDocument uri => exact (cutShort_post _ _).bind fun _ => cutShort_stop _
  | format uri => exact (cutShort_format uri).bind fun _ => cutShort_stop _
  | organizeImports uri content =>
      exact (cutShort_organizeImports uri content).bind fun _ => cutShort_stop _
  | documentSymbols uri => exact (cutShort_documentSymbols uri).bind fun _ => cutShort_stop _
  | close => exact cutShort_shutDown.andThen fun _ => cutShort_bidExit _

end Step

end DiffDigest
