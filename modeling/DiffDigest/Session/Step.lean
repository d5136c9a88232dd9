import DiffDigest.Session.Connection

/-!
# Steps of a session

What a client can do with a server: greet it, open and close documents, ask for
edits and symbols, and say good-bye.  Closing always comes to an end, for it
waits only a fixed time for a server that does not answer or does not exit.
-/

namespace DiffDigest

namespace Session

/-- How long a server may take to answer the shutdown request, and then to exit. -/
def patience : Nat :=
  2000

def handshake (workDir root : Path) : Session Unit := do
  match Path.absolute? workDir root with
  | none => fail .emptyRoot
  | some root =>
      match root.uri? with
      | none => fail (.noUri root)
      | some uri =>
          let params := Message.handshakeParams (← get).processId uri
          let _ ← within .handshake (call "initialize" (some params))
          notify "initialized" (some (.object []))

def openDocument (uri language text : String) : Session Unit :=
  notify "textDocument/didOpen" (some (Message.openParams uri language text))

def closeDocument (uri : String) : Session Unit :=
  notify "textDocument/didClose" (some (Message.documentParams uri))

def format (uri : String) : Session (List TextEdit) := do
  let result ← call "textDocument/formatting" (some (Message.formatParams uri))
  match Json.optional? (Json.listOf? TextEdit.ofJson?) (some result) with
  | some edits => pure (edits.getD [])
  | none => fail .unreadableEdits

/-- The edits that organize the imports of a document; whatever goes wrong, there are none. -/
def organizeImports (uri content : String) : Session (List TextEdit) := fun c =>
  match call "textDocument/codeAction" (some (Message.importsParams uri content)) c with
  | (.error (.failed error), c) => (.ok [], c.record (.importsFailed uri error))
  | (.error .waiting, c) => (.error .waiting, c)
  | (.ok (.array actions), c) => (.ok (CodeAction.firstImports uri actions), c)
  | (.ok .null, c) => (.ok [], c)
  | (.ok result, c) => (.ok [], c.record (.importsUnexpected uri result))

def documentSymbols (uri : String) : Session Outline := do
  let result ← call "textDocument/documentSymbol" (some (Message.documentParams uri))
  match Outline.ofJson? result with
  | some outline => pure outline
  | none => fail .unreadableSymbols

def shutDown (c : Connection) : Connection :=
  match call "shutdown" none c with
  | (.ok _, c) => c
  | (.error (.failed error), c) => c.record (.shutdownFailed error)
  | (.error .waiting, c) => (c.wait patience).record .shutdownTimedOut

def bidExit (c : Connection) : Connection :=
  match notify "exit" none c with
  | (.error (.failed error), c) => c.record (.exitFailed error)
  | (_, c) => c

/-- Wait a while for a server process to exit; a silent one has to be killed. -/
def reap (c : Connection) : Connection :=
  if c.ending = .silent then (c.wait patience).record .serverKilled else c

/-- End a session; `attached` tells whether a process stands behind the connection. -/
def close (attached : Bool) (c : Connection) : Connection :=
  let c := bidExit (shutDown c)
  if attached then reap c else c

end Session

/-- A thing that a client is asked to do. -/
inductive Step where
  | handshake (workDir root : Path)
  | openDocument (uri language text : String)
  | closeDocument (uri : String)
  | format (uri : String)
  | organizeImports (uri content : String)
  | documentSymbols (uri : String)
  | close

/-- What a step brings. -/
inductive Answer where
  | done
  | edits (edits : List TextEdit)
  | outline (outline : Outline)

namespace Step

def run : Step → Session Answer
  | .handshake workDir root => do
      Session.handshake workDir root
      pure .done
  | .openDocument uri language text => do
      Session.openDocument uri language text
      pure .done
  | .closeDocument uri => do
      Session.closeDocument uri
      pure .done
  | .format uri => do
      pure (.edits (← Session.format uri))
  | .organizeImports uri content => do
      pure (.edits (← Session.organizeImports uri content))
  | .documentSymbols uri => do
      pure (.outline (← Session.documentSymbols uri))
  | .close => fun c => (.ok .done, Session.close false c)

/-- What came of a step, what was sent for it, and what it reported. -/
structure Report where
  outcome : Except Stop Answer
  sent : List Json
  log : List Event

def runAll : List Step → Connection → List Report × Connection
  | [], c => ([], c)
  | step :: rest, c =>
      let (outcome, after) := step.run c
      let report : Report :=
        { outcome
          sent := after.sent.drop c.sent.length
          log := (after.log.drop c.log.length).map Prod.snd }
      let (reports, final) := runAll rest after
      (report :: reports, final)

end Step

end DiffDigest
