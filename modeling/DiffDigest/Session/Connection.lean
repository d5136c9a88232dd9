import DiffDigest.Event

/-!
# Connections

A connection is what a client holds while it talks to one server: the bytes not
read yet, the room left in the pipe to the server, the next request id, and the
record of what was sent and reported.  Reading and writing happen on this value
alone, so a session is a function of the server's whole output.
-/

namespace DiffDigest

/-- A client's end of the pipes to one server. -/
structure Connection where
  /-- What the server has written and nobody has read. -/
  unread : Bytes
  /-- What comes after that. -/
  ending : Frame.Ending
  /-- How many more frames the pipe to the server takes; no number means any. -/
  room : Option Nat := none
  processId : Nat := 0
  /--
  The id of the next request.  It is not bounded; a counter of 64 bits would begin again
  only after as many calls as it has values, which no session makes.
  -/
  nextId : Nat := 1
  /-- Milliseconds waited so far. -/
  clock : Nat := 0
  /-- The frames sent, oldest first. -/
  sent : List Json := []
  /-- The events reported, with their times. -/
  log : List (Nat × Event) := []

namespace Connection

def record (event : Event) (c : Connection) : Connection :=
  { c with log := c.log ++ [(c.clock, event)] }

def wait (milliseconds : Nat) (c : Connection) : Connection :=
  { c with clock := c.clock + milliseconds }

def send (frame : Json) (c : Connection) : Except FrameError Connection :=
  match c.room with
  | some 0 => .error .brokenPipe
  | room => .ok { c with room := room.map (· - 1), sent := c.sent ++ [frame] }

theorem send_unread {frame : Json} {c d : Connection} (h : c.send frame = .ok d) :
    d.unread = c.unread := by
  unfold send at h
  split at h <;> cases h
  rfl

/-- With room left, sending appends the frame. -/
theorem send_sent {frame : Json} {c d : Connection} (h : c.send frame = .ok d) :
    d.sent = c.sent ++ [frame] := by
  unfold send at h
  split at h <;> cases h
  rfl

end Connection

/-- Why a step of a session has no result: it failed, or it waits for ever. -/
inductive Stop where
  | failed (error : SessionError)
  | waiting

/-- A part of a session; the connection goes on also after a failure. -/
abbrev Session (α : Type) : Type :=
  ExceptT Stop (StateM Connection) α

namespace Session

def post (context : FrameError → SessionError) (frame : Json) : Session Unit := fun c =>
  match c.send frame with
  | .ok c => (.ok (), c)
  | .error error => (.error (.failed (context error)), c)

def notify (method : String) (params : Option Json) : Session Unit :=
  post (.sending method) (Message.notification method params)

/--
Read frames until the response with the given id comes.  Requests of the server
are refused on the way, everything else is passed over.
-/
def await (method : String) (id : Nat) (c : Connection) : Except Stop Json × Connection :=
  match _reading : Frame.read c.ending c.unread with
  | .waiting => (.error .waiting, { c with unread := [] })
  | .finished => (.error (.failed (.closedBefore method)), c)
  | .failed error rest => (.error (.failed (.reading method error)), { c with unread := rest })
  | .frame frame rest =>
      let c := { c with unread := rest }
      match Message.incoming frame with
      | .response got body =>
          if got = id then
            match Message.outcome body with
            | .ok result => (.ok result, c)
            | .error error => (.error (.failed (.refused error)), c)
          else await method id (c.record (.responseDiscarded got id))
      | .request theirs asked =>
          let c := c.record (.requestRefused asked)
          match _sending : c.send (Message.refusal theirs asked) with
          | .ok c => await method id c
          | .error error => (.error (.failed (.replying asked error)), c)
      | .notification note => await method id (c.record (.notificationIgnored note))
      | .malformed => await method id (c.record .frameIgnored)
termination_by c.unread.length
decreasing_by
  · exact Frame.read_length_lt _reading
  · rw [Connection.send_unread _sending]
    exact Frame.read_length_lt _reading
  · exact Frame.read_length_lt _reading
  · exact Frame.read_length_lt _reading

def call (method : String) (params : Option Json) : Session Json := fun c =>
  let id := c.nextId
  let c := { c with nextId := id + 1 }
  match c.send (Message.request id method params) with
  | .ok c => await method id c
  | .error error => (.error (.failed (.sending method error)), c)

def within {α : Type} (context : SessionError → SessionError) (part : Session α) :
    Session α := fun c =>
  match part c with
  | (.error (.failed error), c) => (.error (.failed (context error)), c)
  | outcome => outcome

def fail {α : Type} (error : SessionError) : Session α :=
  throw (.failed error)

end Session

end DiffDigest
