import DiffDigest.Digest
import DiffDigest.Language
import DiffDigest.Placeholder
import DiffDigest.Toml.Reader
import DiffDigest.Toml.Record

/-!
# Settings

Settings change the options of a digest and add servers for languages.  What
they leave open keeps its default.  The commands of servers may hold
placeholders.
-/

namespace DiffDigest

/-- What a configuration says. -/
structure Settings where
  maxLines : Option Nat := none
  includeSummary : Option Bool := none
  timeout : Option Nat := none
  serversEnabled : Bool := true
  servers : List Language := []
deriving DecidableEq, Repr, Inhabited

namespace Settings

open Toml (Value)

def language? (value : Value) : Option Language := do
  let names := [⟨"name", false⟩, ⟨"extensions", true⟩, ⟨"command", false⟩, ⟨"args", true⟩]
  match ← Toml.record? names value with
  | [name, extensions, command, args] =>
      let texts := Toml.optional? (Toml.listOf? Value.string?)
      pure
        { name := ← name.bind Value.string?
          extensions := (← texts extensions).getD []
          command := ← command.bind Value.string?
          args := (← texts args).getD [] }
  | _ => none

def withPriorities? (settings : Settings) (value : Value) : Option Settings := do
  let names :=
    [⟨"max_high_priority_lines", false⟩, ⟨"include_summary", false⟩, ⟨"lsp_timeout_ms", false⟩]
  match ← Toml.record? names value with
  | [lines, summary, timeout] =>
      pure
        { settings with
          maxLines := ← Toml.optional? Value.unsigned64? lines
          includeSummary := ← Toml.optional? Value.boolean? summary
          timeout := ← Toml.optional? Value.unsigned64? timeout }
  | _ => none

def withServers? (settings : Settings) (value : Value) : Option Settings := do
  match ← Toml.record? [⟨"enabled", true⟩, ⟨"servers", true⟩] value with
  | [enabled, servers] =>
      pure
        { settings with
          serversEnabled := (← Toml.optional? Value.boolean? enabled).getD true
          servers := (← Toml.optional? (Toml.listOf? language?) servers).getD [] }
  | _ => none

def ofFields? (fields : Toml.Fields) : Option Settings := do
  match ← Toml.record? [⟨"prioritize", true⟩, ⟨"lsp", true⟩] (.table .header fields) with
  | [priorities, servers] =>
      let settings ← match priorities with
        | some part => withPriorities? {} part
        | none => some {}
      match servers with
      | some part => withServers? settings part
      | none => pure settings
  | _ => none

def ofText? (text : String) : Option Settings := do
  ofFields? (← Toml.read? text)

def options (settings : Settings) : Options :=
  let default : Options := {}
  { maxLines := settings.maxLines.getD default.maxLines
    includeSummary := settings.includeSummary.getD default.includeSummary
    timeout := settings.timeout.getD default.timeout }

def filled (environment : Environment) (language : Language) : Language :=
  { language with
    command := Placeholder.expand environment language.command
    args := language.args.map (Placeholder.expand environment) }

/-- The known languages: none if servers are switched off. -/
def registry (settings : Settings) (environment : Environment) : Registry :=
  if settings.serversEnabled then
    Registry.withOverrides (settings.servers.map (filled environment))
  else []

/-- Without servers no language is known, so none is detected. -/
theorem registry_of_disabled {settings : Settings} (disabled : settings.serversEnabled = false)
    (environment : Environment) : settings.registry environment = [] := by
  simp [registry, disabled]

end Settings

end DiffDigest
