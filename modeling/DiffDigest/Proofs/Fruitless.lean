import DiffDigest.Proofs.Lookup
import DiffDigest.Proofs.ServerSymbols

/-!
# Fruitless lookups

Why the server of a file gives no symbols.  Whatever the reason is, the lookup
comes to the empty outline; and where there is no reason, it comes to the outline
in the server's answer.
-/

namespace DiffDigest

open Diff (FileDiff)

theorem Machine.launch_eq_missing_iff {machine : Machine} {command : String}
    {args : List String} :
    machine.launch command args = .missing ↔ machine.locate command = none := by
  unfold Machine.launch
  cases machine.locate command with
  | none => exact iff_of_true rfl rfl
  | some program =>
      refine iff_of_false ?_ nofun
      dsimp only
      split
      · nofun
      · split
        · nofun
        · nofun

/-! ## Asking for an outline -/

namespace Session

theorem documentSymbols_of_stop {uri : String} {c d : Connection} {stop : Stop}
    (asks : call "textDocument/documentSymbol" (some (Message.documentParams uri)) c =
      (.error stop, d)) :
    documentSymbols uri c = (.error stop, d) := by
  unfold documentSymbols
  rw [bind_apply, asks]

theorem documentSymbols_of_result {uri : String} {c d : Connection} {result : Json}
    (asks : call "textDocument/documentSymbol" (some (Message.documentParams uri)) c =
      (.ok result, d)) :
    documentSymbols uri c =
      ((Outline.ofJson? result).elim (.error (.failed .unreadableSymbols)) .ok, d) := by
  unfold documentSymbols
  rw [bind_apply, asks]
  dsimp only
  cases Outline.ofJson? result with
  | none => rfl
  | some outline => rfl

/-- Whether a document can be closed again makes no difference to its outline. -/
theorem inspect_of_documentSymbols {uri language text : String} {c d e : Connection}
    {result : Except Stop Outline} (opens : openDocument uri language text c = (.ok (), d))
    (asked : documentSymbols uri d = (result, e)) :
    ∃ f, inspect uri language text c = (result, f) := by
  unfold inspect
  rw [bind_apply, opens]
  dsimp only
  rw [asked]
  split
  · rename_i same
    cases same
    exact ⟨e, rfl⟩
  · rename_i same
    cases same
    split
    · exact ⟨_, rfl⟩
    · exact ⟨_, rfl⟩

end Session

namespace ServerSymbols

namespace Inquiry

def Opened (inquiry : Inquiry) (c e : Connection) : Prop :=
  ∃ d, Session.handshake inquiry.path inquiry.path.parent c = (.ok (), d) ∧
    Session.openDocument inquiry.uri inquiry.language.name inquiry.text d = (.ok (), e)

/-- Why a server tells no outline: on the way to the question, or in answer to it. -/
inductive Unanswered (inquiry : Inquiry) (c : Connection) : Prop
  | unwelcome {d : Connection} {stop : Stop}
      (greets : Session.handshake inquiry.path inquiry.path.parent c = (.error stop, d))
  | unopened {d e : Connection} {stop : Stop}
      (greets : Session.handshake inquiry.path inquiry.path.parent c = (.ok (), d))
      (opens : Session.openDocument inquiry.uri inquiry.language.name inquiry.text d =
        (.error stop, e))
  | refused {e f : Connection} {stop : Stop} (opened : inquiry.Opened c e)
      (asks : Session.call "textDocument/documentSymbol"
        (some (Message.documentParams inquiry.uri)) e = (.error stop, f))
  | garbled {e f : Connection} {result : Json} (opened : inquiry.Opened c e)
      (asks : Session.call "textDocument/documentSymbol"
        (some (Message.documentParams inquiry.uri)) e = (.ok result, f))
      (unreadable : Outline.ofJson? result = none)

inductive Answered (inquiry : Inquiry) (c : Connection) (outline : Outline) : Prop
  | intro {e f : Connection} {result : Json} (opened : inquiry.Opened c e)
      (asks : Session.call "textDocument/documentSymbol"
        (some (Message.documentParams inquiry.uri)) e = (.ok result, f))
      (reads : Outline.ofJson? result = some outline)

variable {inquiry : Inquiry} {c : Connection}

theorem unanswered_or_answered (inquiry : Inquiry) (c : Connection) :
    inquiry.Unanswered c ∨ ∃ outline, inquiry.Answered c outline := by
  rcases greets : Session.handshake inquiry.path inquiry.path.parent c with ⟨stop | _, d⟩
  · exact .inl (.unwelcome greets)
  · rcases opens : Session.openDocument inquiry.uri inquiry.language.name inquiry.text d with
      ⟨stop | _, e⟩
    · exact .inl (.unopened greets opens)
    · have opened : inquiry.Opened c e := ⟨d, greets, opens⟩
      rcases asks : Session.call "textDocument/documentSymbol"
          (some (Message.documentParams inquiry.uri)) e with ⟨stop | result, f⟩
      · exact .inl (.refused opened asks)
      · cases reads : Outline.ofJson? result with
        | none => exact .inl (.garbled opened asks reads)
        | some outline => exact .inr ⟨outline, .intro opened asks reads⟩

def query (inquiry : Inquiry) (c : Connection) : Except Stop Outline × Connection :=
  Session.query inquiry.path inquiry.path.parent inquiry.uri inquiry.language.name inquiry.text c

theorem Opened.query {e f : Connection} {result : Except Stop Outline}
    (opened : inquiry.Opened c e)
    (asked : Session.documentSymbols inquiry.uri e = (result, f)) :
    ∃ d, inquiry.query c = (result, d) := by
  obtain ⟨d, greets, opens⟩ := opened
  unfold Inquiry.query
  rw [Session.query_eq, Session.bind_apply, greets]
  exact Session.inspect_of_documentSymbols opens asked

theorem Unanswered.query (unanswered : inquiry.Unanswered c) :
    ∃ stop d, inquiry.query c = (.error stop, d) := by
  cases unanswered with
  | unwelcome greets =>
      unfold Inquiry.query
      rw [Session.query_eq, Session.bind_apply, greets]
      exact ⟨_, _, rfl⟩
  | unopened greets opens =>
      unfold Inquiry.query
      rw [Session.query_eq, Session.bind_apply, greets]
      dsimp only
      unfold Session.inspect
      rw [Session.bind_apply, opens]
      exact ⟨_, _, rfl⟩
  | refused opened asks => exact ⟨_, opened.query (Session.documentSymbols_of_stop asks)⟩
  | garbled opened asks unreadable =>
      have asked := Session.documentSymbols_of_result asks
      rw [unreadable] at asked
      exact ⟨_, opened.query asked⟩

theorem Answered.query {outline : Outline} (answered : inquiry.Answered c outline) :
    ∃ d, inquiry.query c = (.ok outline, d) := by
  obtain ⟨opened, asks, reads⟩ := answered
  have asked := Session.documentSymbols_of_result asks
  rw [reads] at asked
  exact opened.query asked

end Inquiry

/-- A lookup comes to what the server tells, or to nothing. -/
theorem outline_askThrough (processId : Nat) (room : Option Nat) (newPath : String)
    (inquiry : Inquiry) :
    (askThrough processId room newPath inquiry).outline =
      (inquiry.query (inquiry.connection processId room)).1.toOption.getD [] := by
  unfold askThrough Inquiry.query
  dsimp only
  rcases Session.query inquiry.path inquiry.path.parent inquiry.uri inquiry.language.name
    inquiry.text (inquiry.connection processId room) with ⟨(cause | _) | outline, d⟩
  · rfl
  · rfl
  · rfl

/-! ## Reasons -/

def target? (s : ServerSymbols) (file : FileDiff) : Option Path :=
  Path.absolute? s.machine.workDir
    ((s.workDir.map fun dir => Path.join dir (Path.ofString file.newPath)).getD
      (Path.ofString file.newPath))

/-- Why the server of a file, which reads so many frames, gives no symbols for it. -/
inductive Fruitless (s : ServerSymbols) (room : Option Nat) (file : FileDiff) : Prop
  | binary (unread : file.isBinary = true)
  | deleted (gone : file.isDeleted = true)
  | nowhere (homeless : s.target? file = none)
  | unregistered {path : Path} (target : s.target? file = some path)
      (unknown : s.registry.detect path = none)
  | unavailable {path : Path} {language : Language} (target : s.target? file = some path)
      (known : s.registry.detect path = some language)
      (missing : s.machine.locate language.command = none)
  | unreadable {path : Path} {cause : FileError} (target : s.target? file = some path)
      (unread : s.machine.files.readText path = .error cause)
  | unnamed {path : Path} (target : s.target? file = some path) (nameless : path.uri? = none)
  | unstarted {path : Path} {language : Language} {cause : FileError}
      (target : s.target? file = some path) (known : s.registry.detect path = some language)
      (failed : s.machine.launch language.command language.args = .failed cause)
  | unanswered {inquiry : Inquiry} (suits : Suits s file inquiry)
      (silent : inquiry.Unanswered (inquiry.connection s.machine.processId room))

/-- A file whose server, which reads so many frames, tells an outline of it. -/
inductive Fruitful (s : ServerSymbols) (room : Option Nat) (file : FileDiff) (outline : Outline) :
    Prop
  | intro {inquiry : Inquiry} (text : file.isBinary = false) (kept : file.isDeleted = false)
      (suits : Suits s file inquiry)
      (answered : inquiry.Answered (inquiry.connection s.machine.processId room) outline)

variable {s : ServerSymbols} {room : Option Nat} {file : FileDiff}

theorem lookUp_of_suits {inquiry : Inquiry} (text : file.isBinary = false)
    (kept : file.isDeleted = false) (suits : Suits s file inquiry) :
    s.lookUp room file = askThrough s.machine.processId room file.newPath inquiry := by
  unfold lookUp
  rw [text, kept, (prepare_eq_ok_iff s file inquiry).2 suits]
  rfl

theorem lookUp_of_spared (spared : file.isBinary = true ∨ file.isDeleted = true) :
    s.lookUp room file = {} := by
  unfold lookUp
  rw [if_pos]
  rw [Bool.or_eq_true]
  exact spared

/-- Without a server that is started for it, a file has no symbols. -/
theorem outline_lookUp_of_unsuited (unsuited : ∀ inquiry, ¬ Suits s file inquiry) :
    (s.lookUp room file).outline = [] := by
  unfold lookUp
  split
  · rfl
  · cases prepared : s.prepare file with
    | ok inquiry => exact absurd ((prepare_eq_ok_iff s file inquiry).1 prepared) (unsuited inquiry)
    | error cause => rfl

/-- Whatever the reason is, nothing is found. -/
theorem Fruitless.outline (fruitless : Fruitless s room file) :
    (s.lookUp room file).outline = [] := by
  -- All reasons but the last keep the server from being started.
  cases fruitless with
  | binary unread =>
      rw [lookUp_of_spared (.inl unread)]
      rfl
  | deleted gone =>
      rw [lookUp_of_spared (.inr gone)]
      rfl
  | nowhere homeless =>
      apply outline_lookUp_of_unsuited
      intro inquiry suits
      cases homeless.symm.trans suits.path
  | unregistered target unknown =>
      apply outline_lookUp_of_unsuited
      intro inquiry suits
      cases target.symm.trans suits.path
      cases unknown.symm.trans suits.language
  | unavailable target known missing =>
      apply outline_lookUp_of_unsuited
      intro inquiry suits
      cases target.symm.trans suits.path
      cases known.symm.trans suits.language
      cases (Machine.launch_eq_missing_iff.2 missing).symm.trans suits.started
  | unreadable target unread =>
      apply outline_lookUp_of_unsuited
      intro inquiry suits
      cases target.symm.trans suits.path
      cases unread.symm.trans suits.text
  | unnamed target nameless =>
      apply outline_lookUp_of_unsuited
      intro inquiry suits
      cases target.symm.trans suits.path
      cases nameless.symm.trans suits.uri
  | unstarted target known failed =>
      apply outline_lookUp_of_unsuited
      intro inquiry suits
      cases target.symm.trans suits.path
      cases known.symm.trans suits.language
      cases failed.symm.trans suits.started
  | unanswered suits silent =>
      by_cases spared : file.isBinary = true ∨ file.isDeleted = true
      · rw [lookUp_of_spared spared]
        rfl
      · rw [not_or, Bool.not_eq_true, Bool.not_eq_true] at spared
        obtain ⟨stop, d, asked⟩ := silent.query
        rw [lookUp_of_suits spared.1 spared.2 suits, outline_askThrough, asked]
        rfl

theorem Fruitful.outline {outline : Outline} (fruitful : Fruitful s room file outline) :
    (s.lookUp room file).outline = outline := by
  obtain ⟨text, kept, suits, answered⟩ := fruitful
  obtain ⟨d, asked⟩ := answered.query
  rw [lookUp_of_suits text kept suits, outline_askThrough, asked]
  rfl

theorem fruitless_or_fruitful (s : ServerSymbols) (room : Option Nat) (file : FileDiff) :
    Fruitless s room file ∨ ∃ outline, Fruitful s room file outline := by
  cases text : file.isBinary with
  | true => exact .inl (.binary text)
  | false =>
  cases kept : file.isDeleted with
  | true => exact .inl (.deleted kept)
  | false =>
  cases target : s.target? file with
  | none => exact .inl (.nowhere target)
  | some path =>
  cases known : s.registry.detect path with
  | none => exact .inl (.unregistered target known)
  | some language =>
  cases content : s.machine.files.readText path with
  | error cause => exact .inl (.unreadable target content)
  | ok content' =>
  cases named : path.uri? with
  | none => exact .inl (.unnamed target named)
  | some uri =>
  cases launched : s.machine.launch language.command language.args with
  | missing => exact .inl (.unavailable target known (Machine.launch_eq_missing_iff.1 launched))
  | failed cause => exact .inl (.unstarted target known launched)
  | started server =>
      let inquiry : Inquiry := ⟨path, uri, content', language, server⟩
      have suits : Suits s file inquiry := ⟨target, known, content, named, launched⟩
      rcases inquiry.unanswered_or_answered (inquiry.connection s.machine.processId room) with
        silent | ⟨outline, answered⟩
      · exact .inl (.unanswered suits silent)
      · exact .inr ⟨outline, .intro text kept suits answered⟩

/--
What the lookup of a file comes to, when its server reads so many frames: there is
a reason why nothing is found, or an outline that the server tells.
-/
structure Reveals (s : ServerSymbols) (room : Option Nat) (file : FileDiff) : Prop where
  either : Fruitless s room file ∨ ∃ outline, Fruitful s room file outline
  fruitless : Fruitless s room file → (s.lookUp room file).outline = []
  fruitful : ∀ outline, Fruitful s room file outline → (s.lookUp room file).outline = outline
  /-- Without languages no file is looked up. -/
  unlearned : s.registry = [] → Fruitless s room file

theorem reveals_lookUp (s : ServerSymbols) (room : Option Nat) (file : FileDiff) :
    Reveals s room file := by
  refine ⟨fruitless_or_fruitful s room file, Fruitless.outline, fun _ => Fruitful.outline, ?_⟩
  intro unlearned
  cases target : s.target? file with
  | none => exact .nowhere target
  | some path => exact .unregistered target (unlearned ▸ Registry.detect_nil path)

end ServerSymbols

end DiffDigest
