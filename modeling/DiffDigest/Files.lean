import DiffDigest.Path

/-!
# Files

A set of files as a value: what stands at each path.  Directories need no
entries of their own, a file's path is enough.
-/

namespace DiffDigest

inductive FileError where
  | notFound
  | notDirectory
  | isDirectory
  | notExecutable
  | nameTooLong
  | denied
  | notUtf8
  | nulInPath
  | nulInArgument
deriving DecidableEq, Repr

namespace FileError

def message : FileError → String
  | .notFound => "No such file or directory (os error 2)"
  | .notDirectory => "Not a directory (os error 20)"
  | .isDirectory => "Is a directory (os error 21)"
  | .notExecutable => "Exec format error (os error 8)"
  | .denied => "Permission denied (os error 13)"
  | .nameTooLong => "File name too long (os error 36)"
  | .notUtf8 => "stream did not contain valid UTF-8"
  | .nulInPath => "file name contained an unexpected NUL byte"
  | .nulInArgument => "nul byte found in provided data"

end FileError

inductive FileNode where
  | file (content : Bytes) (executable : Bool)
  | directory
deriving DecidableEq, Repr

/-- Files by the segments of their absolute paths. -/
structure Files where
  entries : List (List Bytes × FileNode)

namespace Files

/-- What stands at a place without upward segments. -/
def node? (files : Files) (place : List Bytes) : Option FileNode :=
  match files.entries.lookup place with
  | some node => some node
  | none =>
      if place = [] || files.entries.any (fun entry => place.isPrefixOf entry.1) then
        some .directory
      else none

def maxName : Nat :=
  255

/-- Follow one segment; only a directory can be passed. -/
def follow (files : Files) (place : List Bytes) (segment : Bytes) :
    Except FileError (List Bytes) :=
  match files.node? place with
  | none => .error .notFound
  | some (.file _ _) => .error .notDirectory
  | some .directory =>
      if maxName < segment.length then .error .nameTooLong
      else .ok (if segment = [Path.dot, Path.dot] then place.dropLast else place ++ [segment])

def find (files : Files) (path : Path) : Except FileError FileNode := do
  if path.contains 0 then throw .nulInPath
  let place ← (Path.segments path).foldlM files.follow []
  match files.node? place with
  | none => throw .notFound
  | some (.file content executable) =>
      if Path.namesDirectory path then throw .notDirectory
      else pure (.file content executable)
  | some .directory => pure .directory

def readText (files : Files) (path : Path) : Except FileError String := do
  match ← files.find path with
  | .directory => throw .isDirectory
  | .file content _ =>
      match Utf8.decode? content with
      | some text => pure text
      | none => throw .notUtf8

def exists? (files : Files) (path : Path) : Bool :=
  (files.find path).isOk

end Files

end DiffDigest
