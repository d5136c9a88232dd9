import DiffDigest.Session.Fault

/-!
# Events

What the program reports while it works.  An event has a level, a message and,
for some, fields with names.
-/

namespace DiffDigest

inductive Level where
  | trace
  | debug
  | info
  | warn
deriving DecidableEq, Repr

def Level.name : Level → String
  | .trace => "trace"
  | .debug => "debug"
  | .info => "info"
  | .warn => "warn"

/-- The figures of one selection of hunks. -/
structure SelectionReport where
  files : Nat
  accepted : Nat
  rejected : Nat
  lines : Nat
  budget : Nat
deriving DecidableEq, Repr

inductive Event where
  | notificationIgnored (method : String)
  | frameIgnored
  | responseDiscarded (got awaited : Nat)
  | requestRefused (method : String)
  | importsFailed (uri : String) (cause : SessionError)
  | importsUnexpected (uri : String) (result : Json)
  | shutdownFailed (cause : SessionError)
  | shutdownTimedOut
  | exitFailed (cause : SessionError)
  | serverKilled
  | didCloseFailed (cause : SessionError)
  | symbolsFetched (path : String) (count : Nat)
  | noSymbols (path : String) (cause : LookupError)
  | deadlinePassed (path : String)
  | deadlineHit (path : String)
  | prioritized (report : SelectionReport)

namespace Event

def level : Event → Level
  | .notificationIgnored _ | .frameIgnored | .responseDiscarded _ _ | .exitFailed _
  | .didCloseFailed _ => .trace
  | .prioritized _ => .info
  | _ => .debug

def message : Event → String
  | .notificationIgnored method => "Ignoring notification: " ++ method
  | .frameIgnored => "Ignoring malformed JSON-RPC frame"
  | .responseDiscarded got awaited =>
      "Discarding response for id " ++ toString got ++ " while waiting for " ++ toString awaited
  | .requestRefused method => "LSP sent request: " ++ method ++ ", replying method not found"
  | .importsFailed _ cause => "organize imports request failed: " ++ cause.chain
  | .importsUnexpected _ result => "unexpected codeAction result: " ++ result.write
  | .shutdownFailed cause => "LSP shutdown failed: " ++ cause.chain
  | .shutdownTimedOut => "LSP shutdown timed out"
  | .exitFailed cause => "LSP exit notification failed: " ++ cause.chain
  | .serverKilled => "LSP server didn't exit in time, killing"
  | .didCloseFailed cause => "didClose failed: " ++ cause.chain
  | .symbolsFetched _ _ => "Fetched symbols"
  | .noSymbols _ cause => "No symbols: " ++ cause.chain
  | .deadlinePassed _ => "Symbol deadline passed, skipping lookup"
  | .deadlineHit _ => "Symbol lookup hit the deadline"
  | .prioritized _ => "Prioritized diff"

def fields : Event → List (String × Json)
  | .importsFailed uri _ | .importsUnexpected uri _ => [("uri", .string uri)]
  | .symbolsFetched path count => [("path", .string path), ("count", .integer count)]
  | .noSymbols path _ | .deadlinePassed path | .deadlineHit path => [("path", .string path)]
  | .prioritized report =>
      [("files", .integer report.files), ("accepted", .integer report.accepted),
        ("rejected", .integer report.rejected), ("lines", .integer report.lines),
        ("budget", .integer report.budget)]
  | _ => []

end Event

end DiffDigest
