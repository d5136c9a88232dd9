import DiffDigest.Files
import DiffDigest.Frame
import DiffDigest.Session.Message

/-!
# Faults of sessions and lookups

Why a step of a session fails, and why a file gets no symbols.  A message lists
the causes from the outermost to the innermost.
-/

namespace DiffDigest

/-- Why a step of a session fails. -/
inductive SessionError where
  | sending (method : String) (cause : FrameError)
  | reading (method : String) (cause : FrameError)
  | replying (method : String) (cause : FrameError)
  | closedBefore (method : String)
  | refused (error : Message.RpcError)
  | unreadableSymbols
  | unreadableEdits
  | emptyRoot
  | noUri (path : Path)
  | handshake (cause : SessionError)
deriving Repr

/-- Why a file gets no symbols. -/
inductive LookupError where
  | emptyPath
  | unregistered
  | unavailable (command : String)
  | unreadable (path : Path) (cause : FileError)
  | spawning (command : String) (cause : FileError)
  | session (cause : SessionError)
deriving Repr

def emptyPathText : String :=
  "cannot make an empty path absolute"

namespace SessionError

def chain : SessionError → String
  | .sending method cause => "sending " ++ method ++ ": " ++ cause.chain
  | .reading method cause => "reading response to " ++ method ++ ": " ++ cause.chain
  | .replying method cause => "replying to " ++ method ++ ": " ++ cause.chain
  | .closedBefore method => "language server closed stdout before answering " ++ method
  | .refused error => "LSP error " ++ toString error.code ++ ": " ++ error.text
  | .unreadableSymbols => "unparseable document symbols"
  | .unreadableEdits => "parsing formatting result"
  | .emptyRoot => "resolving workspace root : " ++ emptyPathText
  | .noUri path => "cannot convert path to file URI: " ++ path.shown
  | .handshake cause => "LSP initialize failed: " ++ chain cause

def root : SessionError → SessionError
  | .handshake cause => root cause
  | error => error

end SessionError

namespace LookupError

def chain : LookupError → String
  | .emptyPath => "resolving : " ++ emptyPathText
  | .unregistered => "no language server registered for this extension"
  | .unavailable command => command ++ " not found in PATH"
  | .unreadable path cause => "reading " ++ path.shown ++ ": " ++ cause.message
  | .spawning command cause => "spawning " ++ command ++ ": " ++ cause.message
  | .session cause => cause.chain

end LookupError

end DiffDigest
