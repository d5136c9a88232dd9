import DiffDigest.Text.Split

/-!
# File categories

The kind of a file is judged by its path alone: by the directories it lies in
and by its base name.  The first category in a fixed order that claims the path
has it.
-/

namespace DiffDigest

inductive Category where
  | source
  | test
  | config
  | doc
  | generated
  | unknown
deriving DecidableEq, Repr, Inhabited

namespace Category

def label : Category → String
  | source => "source"
  | test => "test"
  | config => "config"
  | doc => "doc"
  | generated => "generated"
  | unknown => "unknown"

def multiplier : Category → Float
  | source => 1.0
  | test => 0.6
  | config => 0.4
  | doc => 0.2
  | generated => 0.1
  | unknown => 0.5

def summaryOrder : List Category :=
  [test, config, doc, generated, source, unknown]

def vendorDirs : List String :=
  ["vendor", "node_modules"]

def testDirs : List String :=
  ["test", "tests", "__tests__"]

def generatedEndings : List String :=
  ["_gen.go", ".gen.go", ".generated.go", ".pb.go"]

def testEndings : List String :=
  ["_test.go", ".test.ts", ".test.js", ".spec.ts", ".spec.js"]

def docExtensions : List String :=
  [".md", ".txt", ".rst"]

def docNames : List String :=
  ["README", "CHANGELOG", "LICENSE"]

def configExtensions : List String :=
  [".json", ".yaml", ".yml", ".toml", ".xml", ".ini"]

def sourceExtensions : List String :=
  [".go", ".py", ".rs", ".ts", ".tsx", ".js", ".jsx", ".cs", ".java", ".rb", ".php", ".swift",
    ".kt", ".scala", ".c", ".cpp", ".h", ".hpp", ".lua", ".nix", ".zig", ".odin"]

def isOneOf (names : List String) (text : List Char) : Bool :=
  names.any fun name => name.toList = text

def endsInOneOf (endings : List String) (text : List Char) : Bool :=
  endings.any fun ending => ending.toList.isSuffixOf text

def parts (path : List Char) : List (List Char) × List Char :=
  let (dir?, base) := Text.splitLast '/' path
  (Text.splitOn '/' (dir?.getD []), base)

def extension (base : List Char) : List Char :=
  match Text.splitLast '.' base with
  | (none, _) => []
  | (some _, ending) => '.' :: ending

def ofBase (base : List Char) : Category :=
  if endsInOneOf generatedEndings base then generated
  else if endsInOneOf testEndings base || "test_".toList.isPrefixOf base then test
  else if isOneOf docExtensions (extension base) || isOneOf docNames base then doc
  else if isOneOf configExtensions (extension base) || base.head? = some '.' then config
  else if isOneOf sourceExtensions (extension base) then source
  else unknown

/-- The category that directories give to a file which has another by its base name. -/
def inDirs (dirs : List (List Char)) (category : Category) : Category :=
  if dirs.any (isOneOf vendorDirs) then generated
  else if category = generated then generated
  else if dirs.any (isOneOf testDirs) then test
  else category

def ofChars (path : List Char) : Category :=
  let (dirs, base) := parts path
  inDirs dirs (ofBase base)

def ofPath (path : String) : Category :=
  ofChars path.toList

end Category

def baseName (path : String) : String :=
  String.ofList (Text.splitLast '/' path.toList).2

end DiffDigest
