import DiffDigest.Path
import DiffDigest.Text.Blank

/-!
# Languages

A language is known by the extensions of its files and has a server that is
started by a command.  Of several languages with the same extension the first
one in the registry has it.
-/

namespace DiffDigest

structure Language where
  name : String
  /-- Extensions with their dot, in lower case. -/
  extensions : List String := []
  command : String
  args : List String := []
deriving DecidableEq, Repr, Inhabited

namespace Language

def lowercase (text : List Char) : List Char :=
  text.map Char.toLower

/-- An extension without surrounding blanks, in lower case, with its dot. -/
def normalExtension (text : List Char) : List Char :=
  match lowercase (Text.trim text) with
  | '.' :: rest => '.' :: rest
  | rest => '.' :: rest

def normal (language : Language) : Language :=
  { language with
    extensions := language.extensions.map fun text =>
      String.ofList (normalExtension text.toList) }

/-- The extension by which languages are found for a path; it has to be valid text. -/
def extensionOf? (path : Path) : Option String := do
  let text ← Utf8.decode? (← path.extension?)
  pure (String.ofList ('.' :: lowercase text.toList))

end Language

abbrev Registry :=
  List Language

namespace Registry

def builtin : Registry :=
  [ { name := "go", extensions := [".go"], command := "gopls" },
    { name := "python", extensions := [".py"], command := "pyright-langserver",
      args := ["--stdio"] },
    { name := "rust", extensions := [".rs"], command := "rust-analyzer" },
    { name := "csharp", extensions := [".cs"], command := "OmniSharp",
      args := ["--languageserver"] },
    { name := "typescript", extensions := [".ts", ".tsx", ".js", ".jsx"],
      command := "typescript-language-server", args := ["--stdio"] },
    { name := "html", extensions := [".html", ".htm"],
      command := "vscode-html-language-server", args := ["--stdio"] },
    { name := "json", extensions := [".json"], command := "vscode-json-language-server",
      args := ["--stdio"] },
    { name := "yaml", extensions := [".yaml", ".yml"], command := "yaml-language-server",
      args := ["--stdio"] },
    { name := "nix", extensions := [".nix"], command := "nil" },
    { name := "lua", extensions := [".lua"], command := "lua-language-server" } ]

def withOverrides (languages : List Language) : Registry :=
  languages.map Language.normal ++ builtin

def detect (registry : Registry) (path : Path) : Option Language := do
  let extension ← Language.extensionOf? path
  registry.find? fun language => language.extensions.contains extension

/-- Without languages nothing is detected. -/
theorem detect_nil (path : Path) : detect [] path = none := by
  unfold detect
  cases Language.extensionOf? path <;> rfl

end Registry

end DiffDigest
