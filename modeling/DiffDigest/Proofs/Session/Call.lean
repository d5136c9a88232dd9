import DiffDigest.Proofs.Frame
import DiffDigest.Proofs.Session.Message
import DiffDigest.Session.Connection

/-!
# Calls

A call is settled by the first frame that answers it.  The frames before that
one are passed over, whatever they are; among them are answers to other requests.
-/

namespace DiffDigest

open DiffDigest.Frame (Arrival Reads Between)
open Message (Answers Brings Demands requests replies)

namespace Session

/-! ## How requests are settled -/

/--
How the request with an id ends at a place of the stream where nothing more is
passed over: the frames read there, what comes of the request, and the place
reached.
-/
inductive Ends (ending : Frame.Ending) (id : Nat) (method : String) (here : Bytes) :
    List Arrival → Except Stop Json → Bytes → Prop
  | answered {rest : Bytes} {frame result : Json}
      (reading : Frame.read ending here = .frame frame rest) (answers : Answers id frame)
      (brings : Brings frame (.ok result)) :
      Ends ending id method here [⟨here, frame⟩] (.ok result) rest
  | refused {rest : Bytes} {frame : Json} {error : Message.RpcError}
      (reading : Frame.read ending here = .frame frame rest) (answers : Answers id frame)
      (brings : Brings frame (.error error)) :
      Ends ending id method here [⟨here, frame⟩] (.error (.failed (.refused error))) rest
  | unreadable {rest : Bytes} {error : FrameError}
      (reading : Frame.read ending here = .failed error rest) :
      Ends ending id method here [] (.error (.failed (.reading method error))) rest
  | closed (reading : Frame.read ending here = .finished) :
      Ends ending id method here [] (.error (.failed (.closedBefore method))) here
  | abandoned (reading : Frame.read ending here = .waiting) :
      Ends ending id method here [] (.error .waiting) []

/--
How the request with an id is settled by what a server writes from a place of
its stream on.  The frames that are passed over do not answer it.
-/
inductive Settles (ending : Frame.Ending) (id : Nat) (method : String) (stream : Bytes) :
    List Arrival → Except Stop Json → Bytes → Prop
  | intro {passed final : List Arrival} {here last : Bytes} {outcome : Except Stop Json}
      (reads : Reads ending stream passed here)
      (others : ∀ arrival ∈ passed, ¬ Answers id arrival.frame)
      (ends : Ends ending id method here final outcome last) :
      Settles ending id method stream (passed ++ final) outcome last

variable {ending : Frame.Ending} {id : Nat} {method : String} {stream last : Bytes}
  {frames : List Arrival} {outcome : Except Stop Json}

theorem Ends.settles (ends : Ends ending id method stream frames outcome last) :
    Settles ending id method stream frames outcome last :=
  .intro (.nil stream) nofun ends

/-- A frame that does not answer a request changes nothing. -/
theorem Settles.pass {before : Bytes} {frame : Json}
    (reading : Frame.read ending before = .frame frame stream) (other : ¬ Answers id frame)
    (settles : Settles ending id method stream frames outcome last) :
    Settles ending id method before (⟨before, frame⟩ :: frames) outcome last := by
  obtain ⟨reads, others, ends⟩ := settles
  refine .intro (.cons reading reads) ?_ ends
  intro arrival member
  rcases List.mem_cons.1 member with rfl | later
  · exact other
  · exact others arrival later

theorem Ends.between (ends : Ends ending id method stream frames outcome last) :
    Between stream frames last := by
  cases ends with
  | answered reading _ _ => exact .single reading
  | refused reading _ _ => exact .single reading
  | unreadable reading =>
      have suffix := Frame.read_suffix ending stream
      rw [reading] at suffix
      exact .nil suffix
  | closed _ => exact .nil List.suffix_rfl
  | abandoned _ => exact .nil List.nil_suffix

/-- The frames read for a request lie between the places where it is made and settled. -/
theorem Settles.between (settles : Settles ending id method stream frames outcome last) :
    Between stream frames last := by
  obtain ⟨reads, _, ends⟩ := settles
  exact reads.between.append ends.between

/-- A frame that a request ends with answers it. -/
theorem Ends.answers (ends : Ends ending id method stream frames outcome last) :
    ∀ arrival ∈ frames, Answers id arrival.frame := by
  intro arrival member
  cases ends with
  | answered _ answers _ | refused _ answers _ =>
      cases List.mem_singleton.1 member
      exact answers
  | _ => cases member

/-- After a frame that is no answer, a request is settled by what comes later. -/
theorem Settles.goesOn (settles : Settles ending id method stream frames outcome last)
    {before later : List Arrival} {arrival : Arrival}
    (read : frames = before ++ arrival :: later) (other : ¬ Answers id arrival.frame) :
    ∃ rest, Frame.read ending arrival.stream = .frame arrival.frame rest ∧
      Settles ending id method rest later outcome last := by
  obtain ⟨reads, others, ends⟩ := settles
  induction reads generalizing before with
  | nil stream =>
      have member : arrival ∈ before ++ arrival :: later :=
        List.mem_append_right before List.mem_cons_self
      rw [← read] at member
      exact absurd (ends.answers arrival member) other
  | cons reading reads ih =>
      have laterOthers := (List.forall_mem_cons.1 others).2
      cases before with
      | nil =>
          cases read
          exact ⟨_, reading, .intro reads laterOthers ends⟩
      | cons first before =>
          rw [List.cons_append, List.cons_append, List.cons.injEq] at read
          exact ih laterOthers read.2 ends

/-- On a stream that ends, no request waits for ever. -/
theorem Settles.ne_waiting (settles : Settles .closed id method stream frames outcome last) :
    outcome ≠ .error .waiting := by
  obtain ⟨_, _, ends⟩ := settles
  cases ends with
  | abandoned reading => cases Frame.silent_of_read reading
  | _ => nofun

/-! ## What a part of a session leaves -/

/-- One connection comes from another, with these requests made in between. -/
structure Follows (c d : Connection) (asked : List (Json × String)) : Prop where
  ending : d.ending = c.ending
  room : d.room = none
  nextId : d.nextId = c.nextId + asked.length
  requests : requests d.sent = requests c.sent ++ asked

namespace Follows

variable {c d e : Connection} {asked : List (Json × String)}

theorem refl (working : c.room = none) : Follows c c [] :=
  ⟨rfl, working, rfl, (List.append_nil _).symm⟩

theorem trans {more : List (Json × String)} (first : Follows c d asked)
    (second : Follows d e more) : Follows c e (asked ++ more) := by
  refine ⟨second.ending.trans first.ending, second.room, ?_, ?_⟩
  · rw [second.nextId, first.nextId, List.length_append, Nat.add_assoc]
  · rw [second.requests, first.requests, List.append_assoc]

end Follows

structure Writes (c d : Connection) (frames : List Json) : Prop where
  ending : d.ending = c.ending
  room : d.room = none
  processId : d.processId = c.processId
  nextId : d.nextId = c.nextId + (requests frames).length
  sent : d.sent = c.sent ++ frames

namespace Writes

variable {c d e : Connection} {frames : List Json}

theorem refl (working : c.room = none) : Writes c c [] :=
  ⟨rfl, working, rfl, rfl, (List.append_nil _).symm⟩

/-- Neither the log nor the clock nor the stream matters to what is sent. -/
theorem of_log (working : c.room = none) {stream : Bytes} {clock : Nat}
    {log : List (Nat × Event)} :
    Writes c { c with unread := stream, clock, log } [] :=
  ⟨rfl, working, rfl, rfl, (List.append_nil _).symm⟩

theorem trans {more : List Json} (first : Writes c d frames) (second : Writes d e more) :
    Writes c e (frames ++ more) := by
  refine ⟨second.ending.trans first.ending, second.room,
    second.processId.trans first.processId, ?_, ?_⟩
  · rw [second.nextId, first.nextId, Message.requests_append, List.length_append, Nat.add_assoc]
  · rw [second.sent, first.sent, List.append_assoc]

theorem follows (writes : Writes c d frames) : Follows c d (requests frames) := by
  refine ⟨writes.ending, writes.room, writes.nextId, ?_⟩
  rw [writes.sent, Message.requests_append]

end Writes

/-- A pipe with room takes every frame. -/
theorem send_of_working {c : Connection} (working : c.room = none) (frame : Json) :
    c.send frame = .ok { c with sent := c.sent ++ [frame] } := by
  unfold Connection.send
  rw [working]
  cases c
  cases working
  rfl

theorem notify_eq {c : Connection} (working : c.room = none) (method : String)
    (params : Option Json) :
    notify method params c =
      (.ok (), { c with sent := c.sent ++ [Message.notification method params] }) := by
  unfold notify post
  rw [send_of_working working]

theorem Writes.notification {c : Connection} (working : c.room = none) (method : String)
    (params : Option Json) :
    Writes c { c with sent := c.sent ++ [Message.notification method params] }
      [Message.notification method params] := by
  refine ⟨rfl, working, rfl, ?_, rfl⟩
  rw [Message.requests_notification]
  rfl

/-! ## Waiting for an answer -/

/--
One connection comes from another by waiting for an answer.  Nothing is sent
meanwhile but the refusals of the requests that are read.
-/
inductive Awaits (method : String) (id : Nat) (c : Connection)
    (reached : Except Stop Json × Connection) : Prop
  | intro {frames : List Arrival}
      (settles : Settles c.ending id method c.unread frames reached.1 reached.2.unread)
      (writes : Writes c reached.2 (replies (frames.map Arrival.frame))) :
      Awaits method id c reached

namespace Awaits

variable {c d : Connection} {reached : Except Stop Json × Connection}

theorem of_ends (working : c.room = none)
    (ends : Ends c.ending id method c.unread frames outcome stream) :
    Awaits method id c (outcome, { c with unread := stream }) := by
  refine .intro ends.settles ?_
  have silent : replies (frames.map Arrival.frame) = [] := by
    have unasking : requests (frames.map Arrival.frame) = [] := by
      cases ends with
      | answered _ answers _ | refused _ answers _ =>
          apply Message.requests_of_silent
          intro theirs asked demands
          exact demands.not_answers id answers
      | _ => rfl
    unfold replies
    rw [unasking]
    rfl
  rw [silent]
  exact .of_log working

/-- Waiting goes on after a frame that is no answer. -/
theorem pass {frame : Json} (reading : Frame.read c.ending c.unread = .frame frame d.unread)
    (sorted : ∀ body, Message.incoming frame ≠ .response id body)
    (writes : Writes c d (replies [frame])) (awaits : Awaits method id d reached) :
    Awaits method id c reached := by
  have other : ¬ Answers id frame := by
    intro answers
    exact sorted frame ((Message.incoming_eq_response_iff frame frame id).2 ⟨rfl, answers⟩)
  obtain ⟨settles, later⟩ := awaits
  rw [writes.ending] at settles
  refine .intro (settles.pass reading other) ?_
  rw [List.map_cons, ← List.singleton_append, Message.replies_append]
  exact writes.trans later

end Awaits

/-- Nothing is sent for a frame that is no request. -/
theorem Writes.of_unasking {c : Connection} (working : c.room = none) {frame : Json}
    (sorted : ∀ theirs asked, Message.incoming frame ≠ .request theirs asked)
    {stream : Bytes} {clock : Nat} {log : List (Nat × Event)} :
    Writes c { c with unread := stream, clock, log } (replies [frame]) := by
  have unasking : requests [frame] = [] := by
    apply Message.requests_of_silent
    intro theirs asked demands
    exact sorted _ _ ((Message.incoming_eq_request_iff _ _ _).2 demands)
  unfold replies
  rw [unasking]
  exact .of_log working

theorem awaits_await (method : String) (id : Nat) {c : Connection} (working : c.room = none) :
    Awaits method id c (await method id c) := by
  -- Each frame shortens the stream; only an answer, a fault or the end stops the waiting.
  fun_induction await method id c with
  | case1 c reading => exact .of_ends working (.abandoned reading)
  | case2 c reading => exact .of_ends working (.closed reading)
  | case3 c error rest reading => exact .of_ends working (.unreadable reading)
  | case4 c frame rest reading _ body result outcome sorted =>
      obtain ⟨rfl, answers⟩ := (Message.incoming_eq_response_iff frame body id).1 sorted
      have brings := Message.brings_outcome body
      rw [outcome] at brings
      exact .of_ends working (.answered reading answers brings)
  | case5 c frame rest reading _ body error outcome sorted =>
      obtain ⟨rfl, answers⟩ := (Message.incoming_eq_response_iff frame body id).1 sorted
      have brings := Message.brings_outcome body
      rw [outcome] at brings
      exact .of_ends working (.refused reading answers brings)
  | case6 c frame rest reading after got body sorted unequal ih =>
      refine .pass reading ?_ (.of_unasking working ?_) (ih working)
      · intro other same
        rw [sorted] at same
        cases same
        exact unequal rfl
      · rw [sorted]
        nofun
  | case7 c frame rest reading _ theirs asked sorted after d sending ih =>
      have stillWorking : after.room = none := working
      rw [send_of_working stillWorking] at sending
      cases sending
      refine .pass reading ?_ ?_ (ih working)
      · rw [sorted]
        nofun
      · have refused : replies [frame] = [Message.refusal theirs asked] := by
          unfold replies
          rw [Message.requests_of_demands ((Message.incoming_eq_request_iff _ _ _).1 sorted)]
          rfl
        rw [refused]
        refine ⟨rfl, working, rfl, ?_, rfl⟩
        rw [Message.requests_refusal]
        rfl
  | case8 c frame rest reading _ theirs asked sorted after error sending =>
      -- The pipe takes every frame, so a refusal never fails.
      have stillWorking : after.room = none := working
      rw [send_of_working stillWorking] at sending
      cases sending
  | case9 c frame rest reading after note sorted ih =>
      refine .pass reading ?_ (.of_unasking working ?_) (ih working)
      all_goals
        rw [sorted]
        nofun
  | case10 c frame rest reading after sorted ih =>
      refine .pass reading ?_ (.of_unasking working ?_) (ih working)
      all_goals
        rw [sorted]
        nofun

/-! ## Calls -/

/--
A call makes a request under the next id and waits for its answer, refusing what
the server requests meanwhile.
-/
theorem call_settles {c : Connection} (working : c.room = none) (method : String)
    (params : Option Json) :
    ∃ frames,
      Settles c.ending c.nextId method c.unread frames (call method params c).1
        (call method params c).2.unread ∧
      Writes c (call method params c).2
        (Message.request c.nextId method params :: replies (frames.map Arrival.frame)) := by
  have asked : call method params c =
      await method c.nextId
        { c with
          nextId := c.nextId + 1
          sent := c.sent ++ [Message.request c.nextId method params] } := by
    have stillWorking : { c with nextId := c.nextId + 1 }.room = none := working
    unfold call
    dsimp only
    rw [send_of_working stillWorking]
  have first : Writes c
      { c with
        nextId := c.nextId + 1
        sent := c.sent ++ [Message.request c.nextId method params] }
      [Message.request c.nextId method params] :=
    ⟨rfl, working, rfl, rfl, rfl⟩
  obtain ⟨settles, later⟩ := awaits_await method c.nextId first.room
  rw [asked]
  exact ⟨_, settles, first.trans later⟩

end Session

end DiffDigest
