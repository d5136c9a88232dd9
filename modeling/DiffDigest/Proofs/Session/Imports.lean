import DiffDigest.Proofs.CodeAction.First
import DiffDigest.Proofs.Frame.RoundTrip
import DiffDigest.Proofs.Session.Pipe

/-!
# Organizing imports

A client that asks a server to organize the imports of a document gets edits as
soon as the server has answered or has failed to.  If the answer is a list, the
edits are those of the first action in it that has any, and otherwise there are
none.
-/

namespace DiffDigest

/-! ## Answers in order -/

theorem Frame.ordered_of_read {ending : Ending} {bytes rest : Bytes} {body : Json}
    (reading : read ending bytes = .frame body rest) : body.Ordered := by
  obtain ⟨text, -, -, read⟩ := (read_eq_frame_iff ending bytes rest body).1 reading
  exact Json.ordered_of_readBytes? read

theorem Message.ordered_of_outcome {body result : Json} (ordered : body.Ordered)
    (brings : outcome body = .ok result) : result.Ordered := by
  unfold outcome at brings
  split at brings <;> cases brings
  cases found : body.get? "result" with
  | none => exact .null
  | some value =>
      cases body with
      | object fields => exact ordered.of_lookup found
      | _ => cases found

namespace Session

/-- A result is read from the stream, so its fields are in order. -/
theorem ordered_of_await {method : String} {id : Nat} {c : Connection} {result : Json}
    (answered : (await method id c).1 = .ok result) : result.Ordered := by
  fun_induction await method id c with
  | case4 c frame rest reading _ body value outcome sorted =>
      cases answered
      obtain ⟨rfl, -⟩ := (Message.incoming_eq_response_iff frame body id).1 sorted
      exact Message.ordered_of_outcome (Frame.ordered_of_read reading) outcome
  | case6 _ _ _ _ _ _ _ _ _ ih => exact ih answered
  | case7 _ _ _ _ _ _ _ _ _ _ _ ih => exact ih answered
  | case9 _ _ _ _ _ _ _ ih => exact ih answered
  | case10 _ _ _ _ _ _ ih => exact ih answered
  | _ => cases answered

/-- A client waits for ever only for a silent server. -/
theorem silent_of_await {method : String} {id : Nat} {c : Connection}
    (waits : (await method id c).1 = .error .waiting) : c.ending = .silent := by
  fun_induction await method id c with
  | case1 c reading => exact Frame.silent_of_read reading
  | case6 _ _ _ _ _ _ _ _ _ ih => exact ih waits
  | case7 _ _ _ _ _ _ _ _ _ _ sending ih =>
      exact (Connection.send_ending sending).symm.trans (ih waits)
  | case9 _ _ _ _ _ _ _ ih => exact ih waits
  | case10 _ _ _ _ _ _ ih => exact ih waits
  | _ => cases waits

def askImports (uri content : String) : Session Json :=
  call "textDocument/codeAction" (some (Message.importsParams uri content))

variable {uri content : String} {c : Connection}

theorem ordered_of_askImports {result : Json}
    (answered : (askImports uri content c).1 = .ok result) : result.Ordered := by
  unfold askImports call at answered
  dsimp only at answered
  split at answered
  · exact ordered_of_await answered
  · cases answered

theorem silent_of_askImports (waits : (askImports uri content c).1 = .error .waiting) :
    c.ending = .silent := by
  unfold askImports call at waits
  dsimp only at waits
  split at waits
  · rename_i sending
    exact (Connection.send_ending sending).symm.trans (silent_of_await waits)
  · cases waits

def listResponse (id : Nat) (items : List Json) : Json :=
  .object [("id", .integer id), ("jsonrpc", .string "2.0"), ("result", .array items)]

/-- A server that answers with a list is understood. -/
theorem askImports_of_listResponse {actions : List Json} {rest : Bytes} (room : c.room ≠ some 0)
    (word : c.nextId < Word.size64) (legible : (listResponse c.nextId actions).Legible)
    (small : (Utf8.encode (listResponse c.nextId actions).write).length ≤ Frame.maxLength)
    (stream : c.unread = Frame.encode (listResponse c.nextId actions) ++ rest) :
    (askImports uri content c).1 = .ok (.array actions) := by
  have answers : Message.Answers c.nextId (listResponse c.nextId actions) :=
    ⟨rfl, word, nofun, .inl nofun⟩
  unfold askImports call
  dsimp only
  cases sending : Connection.send _ { c with nextId := c.nextId + 1 } with
  | error error =>
      unfold Connection.send at sending
      split at sending
      · rename_i full
        exact absurd full room
      · cases sending
  | ok d =>
      have reading : Frame.read d.ending d.unread =
          .frame (listResponse c.nextId actions) rest := by
        rw [Connection.send_unread sending]
        exact stream ▸ Frame.read_encode _ rest small legible
      dsimp only
      rw [await_eq, reading]
      dsimp only
      rw [(Message.incoming_eq_response_iff _ _ _).2 ⟨rfl, answers⟩]
      dsimp only
      rw [if_pos rfl]
      rfl

/-! ## What a client gets -/

theorem organizeImports_fst (uri content : String) (c : Connection) :
    (organizeImports uri content c).1 =
      (imports uri (askImports uri content c).1 (askImports uri content c).2).1 := by
  rw [organizeImports_apply]
  rfl

/-- The edits that a client gets once it is known what came of its request. -/
inductive Yields (uri : String) : Except Stop Json → List TextEdit → Prop
  | failed (error : SessionError) : Yields uri (.error (.failed error)) []
  | unlisted {result : Json} (other : ∀ actions, result ≠ .array actions) :
      Yields uri (.ok result) []
  | listed {actions : List Json} {edits : List TextEdit}
      (picks : CodeAction.Picks uri actions edits) : Yields uri (.ok (.array actions)) edits

theorem imports_eq_iff {outcome : Except Stop Json}
    (ordered : ∀ result, outcome = .ok result → result.Ordered) {edits : List TextEdit} :
    (imports uri outcome c).1 = .ok edits ↔ Yields uri outcome edits := by
  constructor
  · intro found
    cases outcome with
    | error stop =>
        cases stop with
        | failed error =>
            cases found
            exact .failed error
        | waiting => cases found
    | ok result =>
        cases result with
        | array actions =>
            cases found
            exact .listed (CodeAction.picks_firstImports (ordered _ rfl).of_array)
        | _ =>
            cases found
            exact .unlisted nofun
  · intro yields
    cases yields with
    | failed error => rfl
    | @unlisted result other =>
        cases result with
        | array actions => exact absurd rfl (other actions)
        | _ => rfl
    | listed picks =>
        exact congrArg Except.ok (picks.firstImports_eq (ordered _ rfl).of_array)

theorem imports_ends (uri : String) (outcome : Except Stop Json) (c : Connection) :
    (∃ edits, (imports uri outcome c).1 = .ok edits) ∨
      (imports uri outcome c).1 = .error .waiting ∧ outcome = .error .waiting := by
  cases outcome with
  | error stop =>
      cases stop with
      | failed error => exact .inl ⟨[], rfl⟩
      | waiting => exact .inr ⟨rfl, rfl⟩
  | ok result =>
      left
      cases result with
      | array actions => exact ⟨CodeAction.firstImports uri actions, rfl⟩
      | _ => exact ⟨[], rfl⟩

theorem organizeImports_eq_iff (uri content : String) (c : Connection) (edits : List TextEdit) :
    (organizeImports uri content c).1 = .ok edits ↔
      Yields uri (askImports uri content c).1 edits := by
  rw [organizeImports_fst]
  exact imports_eq_iff fun result answered => ordered_of_askImports answered

/--
Organizing the imports of a document comes to an end as soon as it is known what
came of the request, and never fails.  Without room in the pipe the request is not
written; in a pipe with room for all, it is settled by what the server writes, and
any list that the server answers with is understood.  Actions are read however they
are written.  Those that do not organize the imports make no difference, wherever in
a list they stand.
-/
structure OrganizesImports (uri content : String) : Prop where
  ends : ∀ c, (∃ edits, (organizeImports uri content c).1 = .ok edits) ∨
    (organizeImports uri content c).1 = .error .waiting ∧
      (askImports uri content c).1 = .error .waiting ∧ c.ending = .silent
  yields : ∀ c edits, (organizeImports uri content c).1 = .ok edits ↔
    Yields uri (askImports uri content c).1 edits
  unwritten : ∀ c, c.room = some 0 → (askImports uri content c).1 =
    .error (.failed (.sending "textDocument/codeAction" .brokenPipe))
  settles : ∀ c, c.room = none → ∃ frames,
    Settles c.ending c.nextId "textDocument/codeAction" c.unread frames
      (askImports uri content c).1 (askImports uri content c).2.unread
  understood : ∀ c actions rest, c.room ≠ some 0 → c.nextId < Word.size64 →
    (listResponse c.nextId actions).Legible →
    (Utf8.encode (listResponse c.nextId actions).write).length ≤ Frame.maxLength →
    c.unread = Frame.encode (listResponse c.nextId actions) ++ rest →
      (askImports uri content c).1 = .ok (.array actions)
  decodes : ∀ action json, CodeAction.Written action json →
    CodeAction.ofJson? json = some action
  padded : ∀ c d few many, (askImports uri content c).1 = .ok (.array few) →
    (askImports uri content d).1 = .ok (.array many) → CodeAction.Pads uri few many →
      (organizeImports uri content d).1 = (organizeImports uri content c).1
  idle : ∀ json, CodeAction.Idle json → ∀ edits, ¬ CodeAction.Organizes uri json edits

theorem organizeImports_organizes (uri content : String) : OrganizesImports uri content where
  ends := by
    intro c
    rw [organizeImports_fst]
    refine (imports_ends uri _ _).imp_right ?_
    rintro ⟨waits, asking⟩
    exact ⟨waits, asking, silent_of_askImports asking⟩
  yields := organizeImports_eq_iff uri content
  unwritten := by
    intro c full
    unfold askImports
    rw [call_of_full full]
  settles := by
    intro c working
    obtain ⟨frames, settles, -⟩ := call_settles working "textDocument/codeAction"
      (some (Message.importsParams uri content))
    exact ⟨frames, settles⟩
  understood := fun _ _ _ room word legible small stream =>
    askImports_of_listResponse room word legible small stream
  decodes := CodeAction.reads
  padded := by
    intro c d few many first second pads
    have same := pads.firstImports_eq (ordered_of_askImports second).of_array
    rw [organizeImports_fst, organizeImports_fst, first, second]
    exact congrArg Except.ok same
  idle := fun json idle edits => idle.not_organizes edits

/-- A list with a command, an action of another kind, an empty one, and one with edits. -/
def sampleActions : List Json :=
  [.object [("command", .string "go.test"), ("title", .string "Run tests")],
    .object [("edit", .object [("changes", .object [("file:///a.go", .array [])])]),
      ("kind", .string "quickfix")],
    .null,
    .object [("edit", .object [("changes", .null)]), ("kind", .string "source.organizeImports")],
    .object
      [("edit", .object [("changes", .object
          [("file:///a.go", .array [(TextEdit.mk ⟨⟨2, 0⟩, ⟨5, 0⟩⟩ "import \"fmt\"\n").toJson]),
            ("file:///b.go", .array [])])]),
        ("kind", .string "source.organizeImports")]]

example : CodeAction.firstImports "file:///a.go" sampleActions =
    [⟨⟨⟨2, 0⟩, ⟨5, 0⟩⟩, "import \"fmt\"\n"⟩] := by
  decide +kernel

end Session

end DiffDigest
