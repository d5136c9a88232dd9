import DiffDigest.Files
import DiffDigest.Settings

/-!
# Configuration files

The configuration is in a file in the home directory, or in another file that
an environment variable names.
-/

namespace DiffDigest.ConfigFile

def variableName : String :=
  "HUNKRANK_CONFIG"

/-- Where the configuration is; an empty name does not count. -/
def location (named : Option Path) (home : Path) : Path :=
  match named with
  | some (byte :: rest) => byte :: rest
  | _ => Path.push (Path.push home (Path.ofString ".hunkrank")) (Path.ofString "config.toml")

inductive Fault where
  | unreadable (cause : FileError)
  | malformed
deriving DecidableEq, Repr

structure Error where
  path : Path
  fault : Fault
deriving DecidableEq, Repr

def Error.message (error : Error) : String :=
  match error.fault with
  | .unreadable cause =>
      "failed to read config at " ++ error.path.shown ++ ": " ++ cause.message
  | .malformed => "failed to parse config at " ++ error.path.shown

def load (files : Files) (workDir path : Path) : Except Error Settings :=
  match files.readText (Path.join workDir path) with
  | .error cause => .error ⟨path, .unreadable cause⟩
  | .ok text =>
      match Settings.ofText? text with
      | some settings => .ok settings
      | none => .error ⟨path, .malformed⟩

def loadIfPresent (files : Files) (workDir path : Path) : Except Error (Option Settings) :=
  if files.exists? (Path.join workDir path) then (load files workDir path).map some
  else .ok none

end DiffDigest.ConfigFile
