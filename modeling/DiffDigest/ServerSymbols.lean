import DiffDigest.Language
import DiffDigest.Lookup
import DiffDigest.Server
import DiffDigest.Session.Step

/-!
# Symbols from servers

The symbols of a file come from the server of its language, which is started for
this one question and then sent away.  Whatever goes wrong, the file has no
symbols, and the reason is reported.
-/

namespace DiffDigest

open Diff (FileDiff)

namespace Session

/-- Ask for the outline of one document; once opened, the document is closed again. -/
def query (workDir root : Path) (uri language text : String) : Session Outline := do
  handshake workDir root
  openDocument uri language text
  fun c =>
    match documentSymbols uri c with
    | (.error .waiting, c) => (.error .waiting, c)
    | (outcome, c) =>
        match closeDocument uri c with
        | (.error (.failed cause), c) => (outcome, c.record (.didCloseFailed cause))
        | (_, c) => (outcome, c)

end Session

structure ServerSymbols where
  registry : Registry
  machine : Machine
  /-- The directory that the paths of a diff start from, if not the machine's own. -/
  workDir : Option Path := none

namespace ServerSymbols

/-- What is needed to ask for the symbols of a file. -/
structure Inquiry where
  path : Path
  uri : String
  text : String
  language : Language
  server : Server

def prepare (s : ServerSymbols) (file : FileDiff) : Except LookupError Inquiry := do
  let relative := Path.ofString file.newPath
  let given := (s.workDir.map fun dir => Path.join dir relative).getD relative
  let some path := Path.absolute? s.machine.workDir given | throw .emptyPath
  let some language := s.registry.detect path | throw .unregistered
  -- That a command is missing is told before the file is read, its other faults after that.
  let launch := s.machine.launch language.command language.args
  if let .missing := launch then throw (.unavailable language.command)
  let text ← match s.machine.files.readText path with
    | .ok text => pure text
    | .error cause => throw (.unreadable path cause)
  let some uri := path.uri? | throw (.session (.noUri path))
  match launch with
  | .missing => throw (.unavailable language.command)
  | .failed cause => throw (.spawning language.command cause)
  | .started server => pure { path, uri, text, language, server }

def Inquiry.connection (inquiry : Inquiry) (processId : Nat) (room : Option Nat) : Connection :=
  { unread := inquiry.server.output, ending := inquiry.server.ending, room, processId }

def askThrough (processId : Nat) (room : Option Nat) (newPath : String) (inquiry : Inquiry) :
    Lookup :=
  let query := Session.query inquiry.path inquiry.path.parent inquiry.uri
    inquiry.language.name inquiry.text
  match query (inquiry.connection processId room) with
  | (.error .waiting, c) => { answer := none, log := c.log, connection := some c }
  | (.ok outline, c) =>
      let c := (Session.close true c).record (.symbolsFetched newPath outline.length)
      { answer := some (c.clock, outline), log := c.log, connection := some c }
  | (.error (.failed cause), c) =>
      let c := (Session.close true c).record (.noSymbols newPath (.session cause))
      { answer := some (c.clock, []), log := c.log, connection := some c }

/--
Look up the symbols of a file from a server that reads so many frames, if it does
not read all; binary and deleted files have no symbols.
-/
def lookUp (s : ServerSymbols) (room : Option Nat) (file : FileDiff) : Lookup :=
  if file.isBinary || file.isDeleted then {}
  else match s.prepare file with
    | .ok inquiry => askThrough s.machine.processId room file.newPath inquiry
    | .error cause => { log := [(0, .noSymbols file.newPath cause)] }

def source (s : ServerSymbols) : SymbolSource :=
  s.lookUp none

end ServerSymbols

end DiffDigest
