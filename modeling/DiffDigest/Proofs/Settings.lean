import DiffDigest.Proofs.Language
import DiffDigest.Settings
import Mathlib.Data.List.Forall2

/-!
# Configured servers

A file gets the first configured server that is for its extension, and only if there
is none a builtin one.  How an extension is spelled makes no difference, and neither
do servers for other extensions.
-/

namespace DiffDigest

/-- Lists that only differ in what a function does not see are the same to it. -/
theorem map_eq_of_forall₂ {α β : Type} {related : α → α → Prop} {view : α → β}
    (blind : ∀ first second, related first second → view second = view first)
    {items others : List α} (pairs : List.Forall₂ related items others) :
    others.map view = items.map view := by
  induction pairs with
  | nil => rfl
  | cons pair _ ih => rw [List.map_cons, List.map_cons, blind _ _ pair, ih]

namespace Language

/-- The extension of a file in the form in which servers list theirs. -/
def dotted (extension : String) : String :=
  String.ofList ('.' :: lowercase extension.toList)

/-- A server is for files with an extension if it lists it in some spelling. -/
def Serves (server : Language) (extension : String) : Prop :=
  ∃ listed ∈ server.extensions, Normalizes listed (dotted extension)

def lists (extension : String) (server : Language) : Bool :=
  server.normal.extensions.contains (dotted extension)

structure IsReady (environment : Environment) (server found : Language) : Prop where
  name : found.name = server.name
  extensions : List.Forall₂ Normalizes server.extensions found.extensions
  command : found.command = Placeholder.expand environment server.command
  args : found.args = server.args.map (Placeholder.expand environment)

/-- Two servers are the same except for the spelling of their extensions. -/
structure Respelled (server other : Language) : Prop where
  name : other.name = server.name
  extensions : List.Forall₂ Respells server.extensions other.extensions
  command : other.command = server.command
  args : other.args = server.args

variable {server other : Language} {extension : String}

theorem lists_iff : lists extension server = true ↔ server.Serves extension := by
  rw [lists, List.contains_iff_mem, normal, List.mem_map]
  exact exists_congr fun listed => and_congr_right fun _ => normalizes_iff.symm

theorem isReady_normal_filled (environment : Environment) (server : Language) :
    IsReady environment server (Settings.filled environment server).normal where
  name := rfl
  extensions := List.forall₂_map_right_iff.2 (List.forall₂_same.2 fun _ _ => normalizes_iff.2 rfl)
  command := rfl
  args := rfl

theorem Respelled.normal_filled_eq (respelled : Respelled server other)
    (environment : Environment) :
    (Settings.filled environment other).normal = (Settings.filled environment server).normal := by
  obtain ⟨name, extensions, command, args⟩ := respelled
  have same : other.extensions.map (fun text => String.ofList (normalExtension text.toList)) =
      server.extensions.map fun text => String.ofList (normalExtension text.toList) := by
    refine map_eq_of_forall₂ ?_ extensions
    intro first second respells
    rw [respells.normalExtension_eq]
  unfold normal Settings.filled
  rw [same, name, command, args]

end Language

namespace Registry

theorem detect_of_extension {path : Path} {extension : String}
    (ends : path.extension? = some (Utf8.encode extension)) (registry : Registry) :
    registry.detect path =
      registry.find? fun language => language.extensions.contains (Language.dotted extension) := by
  unfold detect Language.extensionOf?
  rw [ends, Option.bind_eq_bind, Option.bind_eq_bind, Option.bind_some, Utf8.decode?_encode]
  rfl

end Registry

namespace Settings

open DiffDigest.Language (Serves IsReady Respelled)

variable {settings : Settings} {environment : Environment} {path : Path} {extension : String}

theorem detect_registry (enabled : settings.serversEnabled = true)
    (ends : path.extension? = some (Utf8.encode extension)) :
    (settings.registry environment).detect path =
      ((settings.servers.find? (Language.lists extension)).map
        fun server => (filled environment server).normal).or (Registry.builtin.detect path) := by
  rw [Registry.detect_of_extension ends, Registry.detect_of_extension ends, registry,
    if_pos enabled, Registry.withOverrides, List.find?_append, List.map_map, List.find?_map]
  rfl

/-- What is detected for a file with an extension: the first server for it, or a builtin one. -/
inductive Detects (environment : Environment) (servers : List Language) (path : Path)
    (extension : String) : Option Language → Prop
  | configured {before after : List Language} {server found : Language}
      (split : servers = before ++ server :: after)
      (others : ∀ other ∈ before, ¬ other.Serves extension) (serves : server.Serves extension)
      (ready : IsReady environment server found) :
      Detects environment servers path extension (some found)
  | builtin (others : ∀ server ∈ servers, ¬ server.Serves extension) :
      Detects environment servers path extension (Registry.builtin.detect path)

theorem detects_detect (enabled : settings.serversEnabled = true)
    (ends : path.extension? = some (Utf8.encode extension)) :
    Detects environment settings.servers path extension
      ((settings.registry environment).detect path) := by
  rw [detect_registry enabled ends]
  cases found : settings.servers.find? (Language.lists extension) with
  | none =>
      refine .builtin ?_
      intro server member serves
      exact List.find?_eq_none.1 found server member (Language.lists_iff.2 serves)
  | some server =>
      obtain ⟨serves, before, after, split, others⟩ := List.find?_eq_some_iff_append.1 found
      refine .configured split ?_ (Language.lists_iff.1 serves)
        (Language.isReady_normal_filled environment server)
      intro other member serves
      have unserved := others other member
      rw [Language.lists_iff.2 serves] at unserved
      cases unserved

/-- Servers that are spelled differently make the same registry. -/
theorem registry_respelled {servers : List Language}
    (respelled : List.Forall₂ Respelled settings.servers servers) :
    registry { settings with servers } environment = settings.registry environment := by
  have same : servers.map (fun server => (filled environment server).normal) =
      settings.servers.map fun server => (filled environment server).normal :=
    map_eq_of_forall₂ (fun _ _ pair => pair.normal_filled_eq environment) respelled
  unfold registry Registry.withOverrides
  rw [List.map_map, List.map_map]
  exact congrArg (fun ready => if settings.serversEnabled then ready ++ Registry.builtin else []) same

/-- A server for other extensions makes no difference, wherever it stands. -/
theorem detect_inserted {before after : List Language} {server : Language}
    (ends : path.extension? = some (Utf8.encode extension))
    (split : settings.servers = before ++ after) (idle : ¬ server.Serves extension) :
    (registry { settings with servers := before ++ server :: after } environment).detect path =
      (settings.registry environment).detect path := by
  generalize longer : { settings with servers := before ++ server :: after } = more
  have switch : more.serversEnabled = settings.serversEnabled := by rw [← longer]
  have listed : more.servers = before ++ server :: after := by rw [← longer]
  have unlisted : ¬ Language.lists extension server = true :=
    mt Language.lists_iff.1 idle
  cases enabled : settings.serversEnabled with
  | true =>
      rw [detect_registry (switch.trans enabled) ends, detect_registry enabled ends, listed, split,
        List.find?_append, List.find?_append, List.find?_cons_of_neg unlisted]
  | false => rw [registry_of_disabled (switch.trans enabled), registry_of_disabled enabled]

/--
Configured servers come first.  Each extension has one normal form, which is its own.
Without servers nothing is detected; with them, the first server for the extension of a
file is, or what is builtin if there is none.  Neither the spelling of extensions nor
the case of a file's own makes a difference, and neither do servers for other extensions.
-/
structure PrefersConfigured (settings : Settings) (environment : Environment) (path : Path)
    (found : Option Language) : Prop where
  normal : ∀ text, ∃ normal, (∀ other, Language.Normalizes text other ↔ other = normal) ∧
    Language.Normalizes normal normal
  disabled : settings.serversEnabled = false → found = none
  detects : settings.serversEnabled = true → ∀ extension,
    path.extension? = some (Utf8.encode extension) →
    Detects environment settings.servers path extension found
  respelled : ∀ servers, List.Forall₂ Respelled settings.servers servers →
    (registry { settings with servers } environment).detect path = found
  caseless : ∀ other extension otherExtension,
    path.extension? = some (Utf8.encode extension) →
    other.extension? = some (Utf8.encode otherExtension) →
    Language.lowercase extension.toList = Language.lowercase otherExtension.toList →
    (settings.registry environment).detect other = found
  inserted : ∀ extension before server after,
    path.extension? = some (Utf8.encode extension) → settings.servers = before ++ after →
    ¬ server.Serves extension →
    (registry { settings with servers := before ++ server :: after } environment).detect path =
      found

/-- Configured servers come before the builtin ones, however their extensions are spelled. -/
theorem detect_prefersConfigured (settings : Settings) (environment : Environment) (path : Path) :
    PrefersConfigured settings environment path ((settings.registry environment).detect path) where
  normal := by
    intro text
    have normalizes := Language.normalizes_iff.2 (Eq.refl (String.ofList
      (Language.normalExtension text.toList)))
    refine ⟨_, ?_, normalizes.idem⟩
    exact fun other => Language.normalizes_iff.trans eq_comm
  disabled := by
    intro disabled
    rw [registry_of_disabled disabled]
    exact Registry.detect_nil path
  detects := fun enabled _ ends => detects_detect enabled ends
  respelled := fun _ respelled => by rw [registry_respelled respelled]
  caseless := by
    intro other extension otherExtension ends otherEnds same
    rw [Registry.detect_of_extension ends, Registry.detect_of_extension otherEnds]
    unfold Language.dotted
    rw [same]
  inserted := fun _ _ _ _ ends split idle => detect_inserted ends split idle

end Settings

end DiffDigest
