import DiffDigest.Proofs.Path
import DiffDigest.Proofs.Session.Dialogue
import DiffDigest.ServerSymbols

/-!
# Consultations of servers

A server that is asked for the symbols of a file gets one of two transcripts.
If it does not accept the greeting, it is sent away.  Otherwise the document is
opened, asked about and closed, and then the server is sent away, whatever came
of the question.
-/

namespace DiffDigest

open DiffDigest.Frame (Arrival)
open Diff (FileDiff)
open Message (Conveys Introduces Presents RefersTo Replies)
open Session (Writes)

/-! ## Frames of the client's own -/

namespace Message

/-- The frames among some that are requests or notifications, and no replies. -/
def own (frames : List Json) : List Json :=
  frames.filter fun frame => (frame.get? "method").isSome

theorem own_append (first second : List Json) : own (first ++ second) = own first ++ own second :=
  List.filter_append _ _

theorem own_cons_request (id : Nat) (method : String) (params : Option Json) (frames : List Json) :
    own (request id method params :: frames) = request id method params :: own frames :=
  List.filter_cons_of_pos rfl

theorem own_cons_notification (method : String) (params : Option Json) (frames : List Json) :
    own (notification method params :: frames) = notification method params :: own frames := by
  cases params with
  | none => exact List.filter_cons_of_pos rfl
  | some params => exact List.filter_cons_of_pos rfl

/-- A reply is none of the client's own frames. -/
theorem Replies.own_eq_nil {frames replies : List Json} (replied : Replies frames replies) :
    own replies = [] := by
  induction replied with
  | nil => rfl
  | answers demands refuses others ih =>
      unfold own
      rw [List.filter_cons_of_neg]
      · exact ih
      · rw [refuses.unnamed]
        nofun
  | passes silent others ih => exact ih

end Message

namespace ServerSymbols

/-! ## What is asked -/

/-- What a server is asked about a file, and that it has been started. -/
structure Suits (s : ServerSymbols) (file : FileDiff) (inquiry : Inquiry) : Prop where
  path : Path.absolute? s.machine.workDir
    ((s.workDir.map fun dir => Path.join dir (Path.ofString file.newPath)).getD
      (Path.ofString file.newPath)) = some inquiry.path
  language : s.registry.detect inquiry.path = some inquiry.language
  text : s.machine.files.readText inquiry.path = .ok inquiry.text
  uri : inquiry.path.uri? = some inquiry.uri
  started : s.machine.launch inquiry.language.command inquiry.language.args =
    .started inquiry.server

theorem prepare_eq_ok_iff (s : ServerSymbols) (file : FileDiff) (inquiry : Inquiry) :
    s.prepare file = .ok inquiry ↔ Suits s file inquiry := by
  unfold prepare
  dsimp only
  constructor
  · intro prepared
    split at prepared
    · rename_i path resolved
      split at prepared
      · rename_i language detected
        cases launched : s.machine.launch language.command language.args with
        | missing =>
            rw [launched] at prepared
            cases prepared
        | failed cause =>
            -- The text and the URI come first, but without a server neither helps.
            cases text : s.machine.files.readText path <;> cases named : path.uri? <;>
              rw [launched, text, named] at prepared <;> cases prepared
        | started server =>
            cases text : s.machine.files.readText path with
            | error cause =>
                rw [launched, text] at prepared
                cases prepared
            | ok content =>
                cases named : path.uri? with
                | none =>
                    rw [launched, text, named] at prepared
                    cases prepared
                | some uri =>
                    rw [launched, text, named] at prepared
                    cases prepared
                    exact ⟨resolved, detected, text, named, launched⟩
      · cases prepared
    · cases prepared
  · rintro ⟨resolved, detected, text, named, launched⟩
    rw [resolved]
    dsimp only
    rw [detected]
    dsimp only
    rw [launched, text, named]
    rfl

namespace Inquiry

/-- What the client's own frames convey to a server that does not accept the greeting. -/
def shortTranscript (processId : Nat) (rootUri : String) : List (Json → Prop) :=
  [Conveys (some 1) "initialize" (Introduces processId rootUri),
    Conveys (some 2) "shutdown" (· = none),
    Conveys none "exit" (· = none)]

/-- What the client's own frames convey to a server that accepts the greeting. -/
def longTranscript (inquiry : Inquiry) (processId : Nat) (rootUri : String) :
    List (Json → Prop) :=
  [Conveys (some 1) "initialize" (Introduces processId rootUri),
    Conveys none "initialized" (· = some (.object [])),
    Conveys none "textDocument/didOpen"
      (Presents inquiry.uri inquiry.language.name inquiry.text),
    Conveys (some 2) "textDocument/documentSymbol" (RefersTo inquiry.uri),
    Conveys none "textDocument/didClose" (RefersTo inquiry.uri),
    Conveys (some 3) "shutdown" (· = none),
    Conveys none "exit" (· = none)]

theorem spells_shortTranscript (processId : Nat) (rootUri : String) :
    Message.Spells (shortTranscript processId rootUri)
      [Message.request 1 "initialize" (some (Message.handshakeParams processId rootUri)),
        Message.request 2 "shutdown" none,
        Message.notification "exit" none] := by
  have greets := Message.introduces_handshakeParams processId rootUri
  exact .cons (Message.conveys_request 1 _ greets)
    (.cons (Message.conveys_request 2 _ rfl) (.cons (Message.conveys_notification _ rfl) .nil))

theorem spells_longTranscript (inquiry : Inquiry) (processId : Nat) (rootUri : String) :
    Message.Spells (inquiry.longTranscript processId rootUri)
      [Message.request 1 "initialize" (some (Message.handshakeParams processId rootUri)),
        Message.notification "initialized" (some (.object [])),
        Message.notification "textDocument/didOpen"
          (some (Message.openParams inquiry.uri inquiry.language.name inquiry.text)),
        Message.request 2 "textDocument/documentSymbol"
          (some (Message.documentParams inquiry.uri)),
        Message.notification "textDocument/didClose"
          (some (Message.documentParams inquiry.uri)),
        Message.request 3 "shutdown" none,
        Message.notification "exit" none] := by
  have greets := Message.introduces_handshakeParams processId rootUri
  have opens := Message.presents_openParams inquiry.uri inquiry.language.name inquiry.text
  have refers := Message.refersTo_documentParams inquiry.uri
  unfold longTranscript
  refine .cons (Message.conveys_request 1 _ greets) ?_
  refine .cons (Message.conveys_notification _ rfl) ?_
  refine .cons (Message.conveys_notification _ opens) ?_
  refine .cons (Message.conveys_request 2 _ refers) ?_
  refine .cons (Message.conveys_notification _ refers) ?_
  refine .cons (Message.conveys_request 3 _ rfl) ?_
  exact .cons (Message.conveys_notification _ rfl) .nil

def outlineOf : Except Stop Json → Outline
  | .ok result => (Outline.ofJson? result).getD []
  | .error _ => []

end Inquiry

/--
A consultation that comes to an end: what became of each request, in which order
all frames were sent, which of them were the client's own, and the outline.
-/
inductive Consults (processId : Nat) (inquiry : Inquiry) (rootUri : String)
    (sent : List Json) : Outline → Prop
  | unwelcome {greeted parted : List Arrival} {first last : List Json} {here there : Bytes}
      {error : SessionError} {parting : Except Stop Json}
      (greets : Attends inquiry.server.ending inquiry.server.output
        ⟨1, "initialize", greeted, .error (.failed error)⟩ first here)
      (parts : Attends inquiry.server.ending here ⟨2, "shutdown", parted, parting⟩ last there)
      (whole : sent =
        Message.request 1 "initialize" (some (Message.handshakeParams processId rootUri)) :: first ++
        Message.request 2 "shutdown" none :: last ++
        [Message.notification "exit" none])
      (own : Message.Spells (Inquiry.shortTranscript processId rootUri) (Message.own sent)) :
      Consults processId inquiry rootUri sent []
  | welcome {greeted asked parted : List Arrival} {first second last : List Json}
      {here there away : Bytes} {capabilities : Json} {outcome parting : Except Stop Json}
      (greets : Attends inquiry.server.ending inquiry.server.output
        ⟨1, "initialize", greeted, .ok capabilities⟩ first here)
      (asks : Attends inquiry.server.ending here
        ⟨2, "textDocument/documentSymbol", asked, outcome⟩ second there)
      (ended : outcome ≠ .error .waiting)
      (parts : Attends inquiry.server.ending there ⟨3, "shutdown", parted, parting⟩ last away)
      (whole : sent =
        Message.request 1 "initialize" (some (Message.handshakeParams processId rootUri)) :: first ++
        Message.notification "initialized" (some (.object [])) ::
        Message.notification "textDocument/didOpen"
          (some (Message.openParams inquiry.uri inquiry.language.name inquiry.text)) ::
        Message.request 2 "textDocument/documentSymbol"
          (some (Message.documentParams inquiry.uri)) :: second ++
        Message.notification "textDocument/didClose" (some (Message.documentParams inquiry.uri)) ::
        Message.request 3 "shutdown" none :: last ++
        [Message.notification "exit" none])
      (own : Message.Spells (inquiry.longTranscript processId rootUri) (Message.own sent)) :
      Consults processId inquiry rootUri sent (Inquiry.outlineOf outcome)

/-! ## Opening a document and asking about it -/

inductive Tells : Except Stop Outline → Outline → Prop
  | found (outline : Outline) : Tells (.ok outline) outline
  | failed (cause : SessionError) : Tells (.error (.failed cause)) []

theorem Tells.ne_waiting {result : Except Stop Outline} {outline : Outline}
    (tells : Tells result outline) : result ≠ .error .waiting := by
  cases tells with
  | found => nofun
  | failed => nofun

theorem Tells.unique {result : Except Stop Outline} {outline other : Outline}
    (tells : Tells result outline) (tellsOther : Tells result other) : outline = other := by
  cases tells with
  | found => cases tellsOther with
    | found => rfl
  | failed => cases tellsOther with
    | failed => rfl

theorem tells_of_concludes {uri : String} {result : Except Stop Outline}
    {outcome : Except Stop Json}
    (concluded : result.map Answer.outline = (Step.documentSymbols uri).conclude outcome)
    (ended : outcome ≠ .error .waiting) : Tells result (Inquiry.outlineOf outcome) := by
  unfold Step.conclude at concluded
  unfold Inquiry.outlineOf
  cases outcome with
  | error stop =>
      cases stop with
      | waiting => exact absurd rfl ended
      | failed error =>
          cases result with
          | ok outline => cases concluded
          | error stop =>
              cases concluded
              exact .failed error
  | ok value =>
      dsimp only at concluded ⊢
      cases read : Outline.ofJson? value with
      | none =>
          rw [read] at concluded
          cases result with
          | ok outline => cases concluded
          | error stop =>
              cases concluded
              exact .failed _
      | some outline =>
          rw [read] at concluded
          cases result with
          | ok outline =>
              cases concluded
              exact .found outline
          | error stop => cases concluded

end ServerSymbols

namespace Session

def inspect (uri language text : String) : Session Outline := do
  openDocument uri language text
  fun c =>
    match documentSymbols uri c with
    | (.error .waiting, c) => (.error .waiting, c)
    | (outcome, c) =>
        match closeDocument uri c with
        | (.error (.failed cause), c) => (outcome, c.record (.didCloseFailed cause))
        | (_, c) => (outcome, c)

theorem query_eq (workDir root : Path) (uri language text : String) :
    query workDir root uri language text =
      handshake workDir root >>= fun _ => inspect uri language text :=
  rfl

theorem bind_pure_apply {α β : Type} (part : Session α) (f : α → β) (c : Connection) :
    (part >>= fun value => pure (f value)) c = ((part c).1.map f, (part c).2) := by
  rw [bind_apply]
  cases part c with
  | mk outcome d => cases outcome <;> rfl

/-- Once opened and asked about, a document is closed again. -/
theorem inspect_apply {c d : Connection} (working : c.room = none) {uri : String}
    (language text : String) {result : Except Stop Outline}
    (asked : documentSymbols uri
      { c with
        sent := c.sent ++
          [Message.notification "textDocument/didOpen"
            (some (Message.openParams uri language text))] } = (result, d))
    (stillWorking : d.room = none) (ended : result ≠ .error .waiting) :
    inspect uri language text c =
      (result,
        { d with
          sent := d.sent ++
            [Message.notification "textDocument/didClose"
              (some (Message.documentParams uri))] }) := by
  have opened := notify_eq working "textDocument/didOpen"
    (some (Message.openParams uri language text))
  have closed := notify_eq stillWorking "textDocument/didClose"
    (some (Message.documentParams uri))
  unfold inspect openDocument closeDocument
  rw [bind_apply, opened]
  dsimp only
  rw [asked]
  split
  · rename_i same
    cases same
    exact absurd rfl ended
  · rename_i same
    cases same
    rw [closed]

/-- A question that is never answered leaves the document open. -/
theorem inspect_apply_of_waiting {c d : Connection} (working : c.room = none) {uri : String}
    (language text : String)
    (asked : documentSymbols uri
      { c with
        sent := c.sent ++
          [Message.notification "textDocument/didOpen"
            (some (Message.openParams uri language text))] } = (.error .waiting, d)) :
    inspect uri language text c = (.error .waiting, d) := by
  have opened := notify_eq working "textDocument/didOpen"
    (some (Message.openParams uri language text))
  unfold inspect openDocument
  rw [bind_apply, opened]
  dsimp only
  rw [asked]

end Session

namespace ServerSymbols

theorem silent_of_waits {ending : Frame.Ending} {stream here : Bytes} {frames : List Arrival}
    {replies : List Json} {id : Nat} {method : String}
    (attends : Attends ending stream ⟨id, method, frames, .error .waiting⟩ replies here) :
    ending = .silent := by
  cases ending with
  | silent => rfl
  | closed => exact absurd rfl attends.settles.ne_waiting

inductive Inspects (uri language text : String) (c : Connection) :
    Except Stop Outline × Connection → Prop
  | closes {asked : List Arrival} {outcome : Except Stop Json} {replies : List Json}
      {result : Except Stop Outline} {d : Connection}
      (asks : Attends c.ending c.unread ⟨c.nextId, "textDocument/documentSymbol", asked, outcome⟩
        replies d.unread)
      (ended : outcome ≠ .error .waiting)
      (tells : Tells result (Inquiry.outlineOf outcome))
      (writes : Writes c d
        (Message.notification "textDocument/didOpen"
          (some (Message.openParams uri language text)) ::
        Message.request c.nextId "textDocument/documentSymbol"
          (some (Message.documentParams uri)) :: replies ++
        [Message.notification "textDocument/didClose" (some (Message.documentParams uri))]))
      (numbered : d.nextId = c.nextId + 1) :
      Inspects uri language text c (result, d)
  | waits {d : Connection} (silent : c.ending = .silent) :
      Inspects uri language text c (.error .waiting, d)

theorem inspects_inspect (uri language text : String) {c : Connection}
    (working : c.room = none) :
    Inspects uri language text c (Session.inspect uri language text c) := by
  have opened := Writes.notification working "textDocument/didOpen"
    (some (Message.openParams uri language text))
  obtain ⟨exchange, asks⟩ := Step.asks_documentSymbols uri opened.room
  obtain ⟨asked, outcome, replies, attends, concluded, writes, numbered⟩ := asks.attends
  cases found : Session.documentSymbols uri
      { c with
        sent := c.sent ++
          [Message.notification "textDocument/didOpen"
            (some (Message.openParams uri language text))] } with
  | mk result d =>
      have ran := Session.bind_pure_apply (Session.documentSymbols uri) Answer.outline
        { c with
          sent := c.sent ++
            [Message.notification "textDocument/didOpen"
              (some (Message.openParams uri language text))] }
      unfold Step.run at attends concluded writes numbered
      dsimp only at attends concluded writes numbered
      rw [ran, found] at attends concluded writes numbered
      by_cases waiting : outcome = .error .waiting
      · subst waiting
        have waits : result = .error .waiting := by
          cases result with
          | ok outline => cases concluded
          | error stop =>
              cases concluded
              rfl
        subst waits
        rw [Session.inspect_apply_of_waiting working language text found]
        exact .waits (silent_of_waits attends)
      · have tells := tells_of_concludes concluded waiting
        rw [Session.inspect_apply working language text found writes.room tells.ne_waiting]
        have unmoved : (Step.documentSymbols uri).sequel outcome = [] := by
          cases outcome <;> rfl
        rw [unmoved, List.append_nil] at writes
        refine .closes attends waiting tells ?_ numbered
        exact (opened.trans writes).trans (.notification writes.room _ _)

/-! ## The course of a consultation -/

/-- What comes of greeting a server that has just been started. -/
inductive Greets (processId : Nat) (inquiry : Inquiry) (rootUri : String) :
    Except Stop Unit × Connection → Prop
  | refused {greeted : List Arrival} {replies : List Json} {error cause : SessionError}
      {d : Connection}
      (greets : Attends inquiry.server.ending inquiry.server.output
        ⟨1, "initialize", greeted, .error (.failed error)⟩ replies d.unread)
      (writes : Writes (inquiry.connection processId none) d
        (Message.request 1 "initialize" (some (Message.handshakeParams processId rootUri)) ::
          replies))
      (numbered : d.nextId = 2) :
      Greets processId inquiry rootUri (.error (.failed cause), d)
  | accepted {greeted : List Arrival} {replies : List Json} {capabilities : Json}
      {d : Connection}
      (greets : Attends inquiry.server.ending inquiry.server.output
        ⟨1, "initialize", greeted, .ok capabilities⟩ replies d.unread)
      (writes : Writes (inquiry.connection processId none) d
        (Message.request 1 "initialize" (some (Message.handshakeParams processId rootUri)) ::
          replies ++ [Message.notification "initialized" (some (.object []))]))
      (numbered : d.nextId = 2) :
      Greets processId inquiry rootUri (.ok (), d)
  | waits {d : Connection} (silent : inquiry.server.ending = .silent) :
      Greets processId inquiry rootUri (.error .waiting, d)

theorem greets_handshake (processId : Nat) (inquiry : Inquiry) {rootUri : String}
    (root : inquiry.path.parent.uri? = some rootUri) :
    Greets processId inquiry rootUri
      (Session.handshake inquiry.path inquiry.path.parent
        (inquiry.connection processId none)) := by
  have resolved := Path.absolute?_parent inquiry.path inquiry.path
  have working : (inquiry.connection processId none).room = none := rfl
  obtain ⟨exchange, greeting⟩ := Step.asks_handshake resolved root working
  obtain ⟨greeted, outcome, replies, greets, concluded, writes, numbered⟩ := greeting.attends
  cases shaken : Session.handshake inquiry.path inquiry.path.parent
      (inquiry.connection processId none) with
  | mk result d =>
      -- What is known of the step of greeting holds of the greeting in it.
      have ran := Session.bind_pure_apply
        (Session.handshake inquiry.path inquiry.path.parent) (fun _ => Answer.done)
        (inquiry.connection processId none)
      have given : Step.params? processId (.handshake inquiry.path inquiry.path.parent) =
          some (Message.handshakeParams processId rootUri) := by
        unfold Step.params?
        dsimp only
        rw [resolved, Option.bind_some, root]
        rfl
      unfold Step.run at greets concluded writes numbered
      dsimp only at greets concluded writes numbered
      rw [ran, shaken] at greets concluded writes numbered
      change Writes _ d (Message.request 1 _ (Step.params? processId _) :: _) at writes
      rw [given] at writes
      cases outcome with
      | ok capabilities =>
          cases result with
          | error stop => cases concluded
          | ok _ => exact .accepted greets writes numbered
      | error stop =>
          change Writes _ d (_ :: (replies ++ [])) at writes
          rw [List.append_nil] at writes
          cases result with
          | ok _ => cases stop <;> cases concluded
          | error ended =>
              cases stop with
              | failed error =>
                  cases concluded
                  exact .refused greets writes numbered
              | waiting =>
                  cases concluded
                  exact .waits (silent_of_waits greets)

/-- What the question to a server comes to, before the server is sent away. -/
inductive Questions (processId : Nat) (inquiry : Inquiry) (rootUri : String) :
    Except Stop Outline × Connection → Prop
  | unwelcome {greeted : List Arrival} {replies : List Json} {error cause : SessionError}
      {d : Connection}
      (greets : Attends inquiry.server.ending inquiry.server.output
        ⟨1, "initialize", greeted, .error (.failed error)⟩ replies d.unread)
      (writes : Writes (inquiry.connection processId none) d
        (Message.request 1 "initialize" (some (Message.handshakeParams processId rootUri)) :: replies))
      (numbered : d.nextId = 2) :
      Questions processId inquiry rootUri (.error (.failed cause), d)
  | welcome {greeted asked : List Arrival} {first second : List Json} {here : Bytes}
      {capabilities : Json} {outcome : Except Stop Json} {result : Except Stop Outline}
      {d : Connection}
      (greets : Attends inquiry.server.ending inquiry.server.output
        ⟨1, "initialize", greeted, .ok capabilities⟩ first here)
      (asks : Attends inquiry.server.ending here
        ⟨2, "textDocument/documentSymbol", asked, outcome⟩ second d.unread)
      (ended : outcome ≠ .error .waiting)
      (tells : Tells result (Inquiry.outlineOf outcome))
      (writes : Writes (inquiry.connection processId none) d
        (Message.request 1 "initialize" (some (Message.handshakeParams processId rootUri)) :: first ++
        Message.notification "initialized" (some (.object [])) ::
        Message.notification "textDocument/didOpen"
          (some (Message.openParams inquiry.uri inquiry.language.name inquiry.text)) ::
        Message.request 2 "textDocument/documentSymbol"
          (some (Message.documentParams inquiry.uri)) :: second ++
        [Message.notification "textDocument/didClose"
          (some (Message.documentParams inquiry.uri))]))
      (numbered : d.nextId = 3) :
      Questions processId inquiry rootUri (result, d)
  | waits {d : Connection} (silent : inquiry.server.ending = .silent) :
      Questions processId inquiry rootUri (.error .waiting, d)

theorem questions_query (processId : Nat) (inquiry : Inquiry) {rootUri : String}
    (root : inquiry.path.parent.uri? = some rootUri) :
    Questions processId inquiry rootUri
      (Session.query inquiry.path inquiry.path.parent inquiry.uri inquiry.language.name
        inquiry.text (inquiry.connection processId none)) := by
  have greeting := greets_handshake processId inquiry root
  rw [Session.query_eq, Session.bind_apply]
  generalize Session.handshake inquiry.path inquiry.path.parent
    (inquiry.connection processId none) = shaken at greeting ⊢
  cases greeting with
  | refused greets writes numbered => exact .unwelcome greets writes numbered
  | waits silent => exact .waits silent
  | @accepted _ _ _ d greets writes numbered =>
      dsimp only
      have inspects :=
        inspects_inspect inquiry.uri inquiry.language.name inquiry.text writes.room
      have ending : d.ending = inquiry.server.ending := writes.ending
      generalize Session.inspect inquiry.uri inquiry.language.name inquiry.text d = reached
        at inspects ⊢
      cases inspects with
      | closes asks ended tells later next =>
          rw [ending, numbered] at asks
          rw [numbered] at later next
          refine .welcome greets asks ended tells ?_ next
          have whole := writes.trans later
          simpa only [List.append_assoc, List.cons_append, List.nil_append] using whole
      | waits silent =>
          rw [ending] at silent
          exact .waits silent

/-! ## Sending the server away -/

/-- However a server takes it, it is asked to shut down and told to exit. -/
theorem close_sent {d : Connection} (working : d.room = none) :
    ∃ parted parting last there,
      Attends d.ending d.unread ⟨d.nextId, "shutdown", parted, parting⟩ last there ∧
      (Session.close true d).sent =
        d.sent ++ Message.request d.nextId "shutdown" none :: last ++
          [Message.notification "exit" none] := by
  obtain ⟨exchange, asks⟩ := Step.asks_close working
  obtain ⟨parted, parting, last, parts, _, writes, _⟩ := asks.attends
  refine ⟨parted, parting, last, _, parts, ?_⟩
  have reaped : (Session.close true d).sent = (Session.close false d).sent := by
    unfold Session.close Session.reap
    dsimp only
    rw [if_pos rfl]
    split <;> rfl
  have sent : (Session.close false d).sent = _ := writes.sent
  rw [reaped, sent]
  simp only [List.append_assoc, List.cons_append]
  rfl

/-- A question that comes to an end makes a consultation, once the server is sent away. -/
theorem Questions.consults {processId : Nat} {inquiry : Inquiry} {rootUri : String}
    {result : Except Stop Outline} {outline : Outline} {d : Connection}
    (questions : Questions processId inquiry rootUri (result, d)) (tells : Tells result outline) :
    Consults processId inquiry rootUri (Session.close true d).sent outline := by
  cases questions with
  | unwelcome greets writes numbered =>
      obtain ⟨parted, parting, last, there, parts, sent⟩ := close_sent writes.room
      rw [writes.ending, numbered] at parts
      rw [writes.sent, numbered] at sent
      cases tells with
      | failed cause =>
          refine .unwelcome greets parts sent ?_
          rw [sent]
          simp only [Message.own_append, Message.own_cons_request, Message.own_cons_notification,
            greets.replies.own_eq_nil, parts.replies.own_eq_nil]
          exact Inquiry.spells_shortTranscript processId rootUri
  | welcome greets asks ended found writes numbered =>
      obtain ⟨parted, parting, last, there, parts, sent⟩ := close_sent writes.room
      rw [writes.ending, numbered] at parts
      rw [writes.sent, numbered] at sent
      cases tells.unique found
      refine .welcome greets asks ended parts ?_ ?_
      · rw [sent]
        simp only [List.append_assoc, List.cons_append, List.nil_append]
        rfl
      · rw [sent]
        simp only [Message.own_append, Message.own_cons_request, Message.own_cons_notification,
          greets.replies.own_eq_nil, asks.replies.own_eq_nil, parts.replies.own_eq_nil]
        exact inquiry.spells_longTranscript processId rootUri
  | waits silent => cases tells

/-- What a lookup reports of a consultation that comes to an end, and that most do. -/
theorem askThrough_consults (processId : Nat) (newPath : String) (inquiry : Inquiry)
    {rootUri : String} (root : inquiry.path.parent.uri? = some rootUri) :
    ∃ c, (askThrough processId none newPath inquiry).connection = some c ∧
      (inquiry.server.ending = .closed →
        (askThrough processId none newPath inquiry).answer ≠ none) ∧
      ∀ taken outline, (askThrough processId none newPath inquiry).answer = some (taken, outline) →
        Consults processId inquiry rootUri c.sent outline := by
  have questions := questions_query processId inquiry root
  unfold askThrough
  dsimp only
  generalize Session.query inquiry.path inquiry.path.parent inquiry.uri inquiry.language.name
    inquiry.text (inquiry.connection processId none) = reached at questions ⊢
  obtain ⟨result, d⟩ := reached
  cases result with
  | ok found =>
      refine ⟨_, rfl, nofun, ?_⟩
      intro taken outline same
      cases same
      exact questions.consults (.found found)
  | error stop =>
      cases stop with
      | failed cause =>
          refine ⟨_, rfl, nofun, ?_⟩
          intro taken outline same
          cases same
          exact questions.consults (.failed cause)
      | waiting =>
          -- Only a silent server keeps a lookup waiting.
          refine ⟨d, rfl, ?_, nofun⟩
          intro closed
          cases questions with
          | welcome _ _ _ tells _ _ => exact absurd rfl tells.ne_waiting
          | waits silent =>
              rw [closed] at silent
              cases silent

/--
How the symbols of a file are looked up.  When a server is started for it, the
lookup has a connection, and each lookup that comes to an end is a consultation
of that server.  Otherwise it has none, and nothing is found.
-/
structure LooksUp (s : ServerSymbols) (file : FileDiff) : Prop where
  spared : file.isBinary = true ∨ file.isDeleted = true →
    s.source file = { answer := some (0, []), log := [], connection := none }
  unasked : (∀ inquiry, ¬ Suits s file inquiry) →
    (s.source file).answer = some (0, []) ∧ (s.source file).connection = none
  asked : file.isBinary = false → file.isDeleted = false → ∀ inquiry, Suits s file inquiry →
    ∃ c, (s.source file).connection = some c ∧
      (inquiry.server.ending = .closed → (s.source file).answer ≠ none) ∧
      ∀ taken outline, (s.source file).answer = some (taken, outline) →
        ∃ rootUri, inquiry.path.parent.uri? = some rootUri ∧
          Consults s.machine.processId inquiry rootUri c.sent outline

theorem source_looksUp (s : ServerSymbols) (file : FileDiff) : LooksUp s file := by
  constructor
  · intro spared
    have skipped : (file.isBinary || file.isDeleted) = true := by
      rw [Bool.or_eq_true]
      exact spared
    unfold source lookUp
    rw [if_pos skipped]
  · intro unsuited
    unfold source lookUp
    split
    · exact ⟨rfl, rfl⟩
    · cases prepared : s.prepare file with
      | ok inquiry =>
          have suits := (prepare_eq_ok_iff s file inquiry).1 prepared
          exact absurd suits (unsuited inquiry)
      | error cause => exact ⟨rfl, rfl⟩
  · intro text kept inquiry suits
    have consulted :
        s.source file = askThrough s.machine.processId none file.newPath inquiry := by
      unfold source lookUp
      rw [text, kept, (prepare_eq_ok_iff s file inquiry).2 suits]
      rfl
    obtain ⟨rootUri, root⟩ := Path.exists_uri?_parent inquiry.path
    obtain ⟨c, connected, ended, consults⟩ :=
      askThrough_consults s.machine.processId file.newPath inquiry root
    rw [consulted]
    refine ⟨c, connected, ended, ?_⟩
    intro taken outline answered
    exact ⟨rootUri, root, consults taken outline answered⟩

/-- A machine that finds a server by its name alone; the server ends without a word. -/
def onPath : ServerSymbols where
  registry := Registry.builtin
  machine :=
    { files := ⟨[(Path.segments (Path.ofString "/work/main.go"),
        .file (Utf8.encode "package main\n") false)]⟩
      workDir := Path.ofString "/work"
      behaviour := fun _ _ => {}
      locate := fun command =>
        if command = "gopls" then some (Path.ofString "/usr/bin/gopls") else none
      loads := fun _ => .ok ()
      processId := 4711 }

def mainFile : FileDiff :=
  { oldPath := "main.go", newPath := "main.go" }

/-- The server that is found by its name is consulted about the file. -/
theorem source_looksUp_onPath :
    ∃ inquiry c taken outline, Suits onPath mainFile inquiry ∧
      inquiry.uri = "file:///work/main.go" ∧ inquiry.text = "package main\n" ∧
      (onPath.source mainFile).connection = some c ∧
      (onPath.source mainFile).answer = some (taken, outline) ∧
      Consults 4711 inquiry "file:///work" c.sent outline := by
  let inquiry : Inquiry :=
    { path := Path.ofString "/work/main.go"
      uri := "file:///work/main.go"
      text := "package main\n"
      language := { name := "go", extensions := [".go"], command := "gopls" }
      server := {} }
  have suits : Suits onPath mainFile inquiry := ⟨rfl, rfl, rfl, rfl, rfl⟩
  obtain ⟨c, connected, ends, consults⟩ :=
    (source_looksUp onPath mainFile).asked rfl rfl inquiry suits
  obtain ⟨⟨taken, outline⟩, answered⟩ := Option.ne_none_iff_exists'.1 (ends rfl)
  obtain ⟨rootUri, root, consulted⟩ := consults taken outline answered
  cases (show some "file:///work" = some rootUri from root)
  exact ⟨inquiry, c, taken, outline, suits, rfl, rfl, connected, answered, consulted⟩

end ServerSymbols

end DiffDigest
