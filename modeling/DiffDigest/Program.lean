import DiffDigest.CommandLine
import DiffDigest.ConfigFile
import DiffDigest.ServerSymbols

/-!
# The program

The program reads a diff from a file or from its standard input and prints its
digest.  A configuration that the command line names has to be usable, the one
at the usual place is left aside when it is not.  Options on the command line
come before the settings, and the settings before the defaults.  All that a run
takes from the world, its files and variables and what the servers do, is handed
to it in one value.
-/

namespace DiffDigest

/-- What a run of the program depends on besides its command line. -/
structure Surroundings where
  machine : Machine
  environment : Environment := []
  /-- The home directory, if there is one. -/
  home : Option Path
  input : Bytes := []

/-- What a run of the program comes to. -/
inductive Outcome where
  | printed (text : String) (stats : Option String)
  | failed (message : String)
  | misused
deriving DecidableEq, Repr

namespace Outcome

def output : Outcome → String
  | printed text _ => text
  | failed _ | misused => ""

end Outcome

namespace Program

def versionText : String :=
  "hunkrank 0.0.0\n"

def diffFile? (invocation : Invocation) : Option Path :=
  invocation.diff.filter (· ≠ Path.ofString "-")

def readDiff (s : Surroundings) (invocation : Invocation) : Except String String :=
  match diffFile? invocation with
  | some path =>
      match s.machine.files.readText (Path.join s.machine.workDir path) with
      | .ok text => .ok text
      | .error _ => .error ("Failed to read diff from " ++ path.shown)
  | none =>
      match Utf8.decode? s.input with
      | some text => .ok text
      | none => .error "Failed to read diff from stdin"

/--
Where the settings are if the command line does not say it.  Without a home directory
only the environment can tell.
-/
def usualConfig (s : Surroundings) : Option Path :=
  let named := s.environment.lookup ConfigFile.variableName
  match s.home with
  | some home => some (ConfigFile.location named home)
  | none => named.filter (· ≠ [])

def readSettings (s : Surroundings) (invocation : Invocation) : Except String Settings :=
  match invocation.config with
  | some path =>
      match ConfigFile.load s.machine.files s.machine.workDir path with
      | .ok settings => .ok settings
      | .error _ => .error ("Failed to load config " ++ path.shown)
  | none =>
      match usualConfig s with
      | some path =>
          match ConfigFile.loadIfPresent s.machine.files s.machine.workDir path with
          | .ok settings => .ok (settings.getD {})
          -- Nobody has named these settings, so their faults are passed over.
          | .error _ => .ok {}
      | none => .ok {}

def options (invocation : Invocation) (settings : Settings) : Options :=
  let configured := settings.options
  { maxLines := invocation.maxLines.getD configured.maxLines
    includeSummary := configured.includeSummary && !invocation.noSummary
    timeout := invocation.timeout.getD configured.timeout }

def symbols (s : Surroundings) (invocation : Invocation) (settings : Settings) : SymbolSource :=
  if invocation.noServers || !settings.serversEnabled then SymbolSource.none
  else
    ServerSymbols.source
      { registry := settings.registry s.environment
        machine := s.machine
        workDir := invocation.workDir }

def digest (s : Surroundings) (invocation : Invocation) : Except String Digest := do
  let text ← readDiff s invocation
  let settings ← readSettings s invocation
  let run := Digest.run (symbols s invocation settings) (options invocation settings) text
  pure run.digest

def perform (s : Surroundings) : Option Command → Outcome
  | none => .misused
  | some .version => .printed versionText none
  | some (.digest invocation) =>
      match digest s invocation with
      | .error message => .failed message
      | .ok digest =>
          .printed digest.prompt (if invocation.stats then some digest.stats.text else none)

def run (s : Surroundings) (args : List Bytes) : Outcome :=
  perform s (CommandLine.parse? args)

end Program

end DiffDigest
