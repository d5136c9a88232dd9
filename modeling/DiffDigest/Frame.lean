import DiffDigest.Json.Reader
import DiffDigest.Json.Writer
import DiffDigest.Text.Blank
import DiffDigest.Text.Quoted
import DiffDigest.Word

/-!
# Frames

A frame is a header block and a JSON body.  The header `Content-Length` gives
the number of body bytes; a blank line ends the block.  Reading takes one frame
from the front of a byte stream and says where the stream then stands, also
after a fault, so that reading can go on.
-/

namespace DiffDigest

/-- What is wrong with a frame, or with the pipe that carries it. -/
inductive FrameError where
  | missingLength
  | zeroLength
  | invalidLength (value : String)
  | oversized (length : Nat)
  | truncatedHeaders
  | invalidUtf8
  | earlyEnd
  | brokenPipe
  | invalidJson
deriving DecidableEq, Repr

namespace Frame

def maxLength : Nat :=
  4194304

/-- What comes after the last byte of a stream: its end, or nothing at all for ever. -/
inductive Ending where
  | closed
  | silent
deriving DecidableEq, Repr

end Frame

namespace FrameError

def pipeFault? : FrameError → Option String
  | .invalidUtf8 => some "invalid utf-8"
  | .earlyEnd => some "early eof"
  | .brokenPipe => some "pipe closed"
  | _ => none

def message (error : FrameError) : String :=
  match error with
  | .missingLength => "missing Content-Length header"
  | .zeroLength => "Content-Length of zero"
  | .invalidLength value => "invalid Content-Length value " ++ Text.quoted value
  | .oversized length =>
      "Content-Length " ++ toString length ++ " exceeds maximum " ++ toString Frame.maxLength
  | .truncatedHeaders => "unexpected EOF while reading headers"
  | .invalidJson => "invalid JSON in frame"
  | _ => "frame I/O failed: " ++ error.pipeFault?.getD ""

/-- The message with its causes; a fault of the pipe is its own cause. -/
def chain (error : FrameError) : String :=
  match error.pipeFault? with
  | some fault => error.message ++ ": " ++ fault
  | none => error.message

end FrameError

namespace Frame

/-! ## Writing -/

def encode (body : Json) : Bytes :=
  let bytes := Utf8.encode body.write
  Utf8.encode ("Content-Length: " ++ toString bytes.length ++ "\r\n\r\n") ++ bytes

/-! ## Reading -/

/-- What a header line says. -/
inductive Header where
  | blank
  | length (value : List Char)
  | other
deriving DecidableEq, Repr

/-- The meaning of a header line; the name is compared without regard to case. -/
def header (line : List Char) : Header :=
  let line := Text.trim line
  if line.isEmpty then .blank
  else
    let name := Text.trim (line.takeWhile (· ≠ ':'))
    match line.dropWhile (· ≠ ':') with
    | [] => .other
    | _ :: value =>
        if name.map Char.toLower = "content-length".toList then .length (Text.trim value)
        else .other

inductive Headers where
  | length (value : Nat) (rest : Bytes)
  | failed (error : FrameError) (rest : Bytes)
  | finished
  | waiting

def line (bytes : Bytes) : Bytes :=
  bytes.takeWhile (· ≠ 10)

def afterLine (bytes : Bytes) : Bytes :=
  (bytes.dropWhile (· ≠ 10)).tail

theorem afterLine_length_lt {bytes : Bytes} (nonempty : bytes ≠ []) :
    (afterLine bytes).length < bytes.length := by
  have bound := (List.dropWhile_sublist (l := bytes) (· ≠ 10)).length_le
  have positive := List.length_pos_iff.2 nonempty
  simp only [afterLine, List.length_tail]
  omega

/--
Read a header block.  `length?` is the length seen so far, and `begun` tells
whether a line has been read.  Of several lengths the last counts, but a faulty
one ends the reading at once.  At the end of the stream the last line needs no
newline; on a silent stream it is awaited.
-/
def readHeaders (ending : Ending) (length? : Option Nat) (begun : Bool) (bytes : Bytes) :
    Headers :=
  if _empty : bytes = [] then
    match ending with
    | .silent => .waiting
    | .closed => if begun then .failed .truncatedHeaders [] else .finished
  else if ending = .silent && !bytes.contains 10 then .waiting
  else
    match Utf8.decode? (line bytes) with
    | none => .failed .invalidUtf8 (afterLine bytes)
    | some text =>
        match header text.toList with
        | .blank =>
            match length? with
            | none => .failed .missingLength (afterLine bytes)
            | some length => .length length (afterLine bytes)
        | .other => readHeaders ending length? true (afterLine bytes)
        | .length value =>
            match Text.boundedDecimal? Word.size64 value with
            | none => .failed (.invalidLength (String.ofList value)) (afterLine bytes)
            | some length => readHeaders ending (some length) true (afterLine bytes)
termination_by bytes.length
decreasing_by all_goals exact afterLine_length_lt _empty

/-- The outcome of reading one frame. -/
inductive Reading where
  | frame (body : Json) (rest : Bytes)
  | failed (error : FrameError) (rest : Bytes)
  | finished
  | waiting

def readBody (ending : Ending) (length : Nat) (bytes : Bytes) : Reading :=
  if length = 0 then .failed .zeroLength bytes
  else if maxLength < length then .failed (.oversized length) bytes
  else
    let body := bytes.take length
    if body.length < length then
      match ending with
      | .silent => .waiting
      | .closed => .failed .earlyEnd []
    else
      match Json.readBytes? body with
      | some value => .frame value (bytes.drop length)
      | none => .failed .invalidJson (bytes.drop length)

def read (ending : Ending) (bytes : Bytes) : Reading :=
  match readHeaders ending none false bytes with
  | .length length rest => readBody ending length rest
  | .failed error rest => .failed error rest
  | .finished => .finished
  | .waiting => .waiting

/-- A header block that ends well leaves less than there was. -/
theorem readHeaders_length_lt {ending : Ending} {length? : Option Nat} {begun : Bool}
    {bytes rest : Bytes} {length : Nat}
    (h : readHeaders ending length? begun bytes = .length length rest) :
    rest.length < bytes.length := by
  induction bytes using WellFounded.induction (measure List.length).wf
    generalizing length? begun with
  | _ bytes ih =>
      rw [readHeaders.eq_def] at h
      split at h
      · split at h
        · cases h
        · split at h <;> cases h
      · rename_i nonempty
        have shorter := afterLine_length_lt nonempty
        split at h
        · cases h
        · split at h
          · cases h
          · split at h
            · split at h <;> cases h
              exact shorter
            · exact Nat.lt_trans (ih _ shorter h) shorter
            · split at h
              · cases h
              · exact Nat.lt_trans (ih _ shorter h) shorter

/-- A frame that is read leaves less than there was. -/
theorem read_length_lt {ending : Ending} {bytes rest : Bytes} {body : Json}
    (h : read ending bytes = .frame body rest) : rest.length < bytes.length := by
  unfold read at h
  split at h
  · rename_i headers
    have shorter := readHeaders_length_lt headers
    unfold readBody at h
    split at h
    · cases h
    · split at h
      · cases h
      · dsimp only at h
        split at h
        · split at h <;> cases h
        · split at h
          · cases h
            simp only [List.length_drop]
            omega
          · cases h
  all_goals cases h

end Frame

end DiffDigest
