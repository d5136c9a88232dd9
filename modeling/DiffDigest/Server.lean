import DiffDigest.Files
import DiffDigest.Frame

/-!
# Servers

A server is a program that is started by a command.  To the client it is the
bytes that it writes and the way in which they end.
-/

namespace DiffDigest

/-- A running server. -/
structure Server where
  output : Bytes := []
  ending : Frame.Ending := .closed

inductive Launch where
  | missing
  | failed (cause : FileError)
  | started (server : Server)

namespace Machine

def nativeMark : Bytes :=
  0x7F :: Utf8.encode "ELF"

def scriptMark : Bytes :=
  Utf8.encode "#!"

def interpreter? (content : Bytes) : Option Path :=
  if scriptMark.isPrefixOf content then
    let isGap (byte : UInt8) : Bool := byte = 0x20 || byte = 0x09
    let line := ((content.drop 2).takeWhile (· ≠ 0x0A)).dropWhile isGap
    match line.takeWhile fun byte => !isGap byte with
    | [] => none
    | path => some path
  else none

end Machine

namespace Files

def isExecutable (files : Files) (path : Path) : Bool :=
  match files.find path with
  | .ok (.file _ executable) => executable
  | _ => false

/-- The program at the path that a command spells; a bare name spells none. -/
def programAt? (files : Files) (dir : Path) (command : String) : Option Path :=
  let path := Path.ofString command
  let parts := (Path.segments path).length
  let inFront := Path.isAbsolute path || (Text.splitOn Path.slash path).head? = some [Path.dot]
  if 1 < parts || (parts = 1 && inFront) then
    some (Path.join dir path) |>.filter files.isExecutable
  else none

/-- Whether a program can be run at all; a script can be if its interpreter can. -/
def loadable (files : Files) (dir program : Path) : Except FileError Unit := do
  match ← files.find program with
  | .directory => throw .denied
  | .file content _ =>
      if Machine.nativeMark.isPrefixOf content then pure ()
      else match Machine.interpreter? content with
        | none => throw .notExecutable
        | some interpreter =>
            match ← files.find (Path.join dir interpreter) with
            | .file _ true => pure ()
            | _ => throw .denied

end Files

/--
The machine that the program and its servers run on.  How it finds the program of a
command and which programs it can load are functions of its own.  Where they are left
out, a command has to be the path of a program.
-/
structure Machine where
  files : Files
  workDir : Path
  /-- What the program at a path does when it is started with some arguments. -/
  behaviour : Path → List String → Server
  /-- The program that a command names. -/
  locate : String → Option Path := files.programAt? workDir
  /-- Whether the program at a path can be run. -/
  loads : Path → Except FileError Unit := files.loadable workDir
  /-- The number of the program's own process. -/
  processId : Nat := 0

namespace Machine

def launch (machine : Machine) (command : String) (args : List String) : Launch :=
  match machine.locate command with
  | none => .missing
  | some program =>
      if args.any fun arg => arg.toList.contains '\x00' then .failed .nulInArgument
      else match machine.loads program with
        | .error cause => .failed cause
        | .ok () => .started (machine.behaviour program args)

end Machine

end DiffDigest
