import DiffDigest.Proofs.Frame.Grammar
import DiffDigest.Proofs.Json.RoundTrip
import DiffDigest.Proofs.Text.Blank

/-!
# Reading what was written

A frame that is written is a frame of the grammar, so it is read as the value it
was written for, and the stream then stands right behind it.  What follows the
frames is read as if they had not been there.
-/

namespace DiffDigest.Frame

/-! ## One frame -/

def lengthLine (length : Nat) : String :=
  "Content-Length: " ++ toString length ++ "\r"

theorem toList_lengthLine (length : Nat) :
    (lengthLine length).toList =
      "Content-Length".toList ++ ':' :: ' ' :: Nat.toDigits 10 length ++ ['\r'] := by
  have label : "Content-Length: ".toList = "Content-Length".toList ++ [':', ' '] := rfl
  unfold lengthLine
  rw [String.toList_append, String.toList_append, Nat.toString_eq_repr, Nat.toList_repr, label,
    List.append_assoc _ [':', ' '] _]
  rfl

/-- A text that ends in a number does not end in a blank. -/
theorem isBlank_of_getLast?_toDigits (front : List Char) (n : Nat) :
    ∀ c ∈ (front ++ Nat.toDigits 10 n).getLast?, Text.isBlank c = false := by
  intro c last
  have some := List.getLast?_isSome.2 (Nat.toDigits_ne_nil (n := n) (b := 10))
  rw [List.getLast?_append, Option.or_of_isSome some] at last
  exact Text.isBlank_of_isDigit (Text.isDigit_of_mem_toDigits (List.mem_of_getLast? last))

theorem trim_lengthLine (length : Nat) :
    Text.trim (lengthLine length).toList =
      "Content-Length".toList ++ ':' :: ' ' :: Nat.toDigits 10 length := by
  rw [toList_lengthLine, ← List.nil_append ("Content-Length".toList ++ _)]
  refine Text.trim_padded nofun ?_ ?_ ?_
  · exact List.forall_mem_singleton.2 rfl
  · intro c first
    rw [List.head?_append] at first
    cases first
    decide
  · have last := isBlank_of_getLast?_toDigits ("Content-Length".toList ++ [':', ' ']) length
    rwa [List.append_assoc] at last

theorem trim_toDigits (n : Nat) : Text.trim (' ' :: Nat.toDigits 10 n) = Nat.toDigits 10 n := by
  have solid : ∀ c ∈ Nat.toDigits 10 n, Text.isBlank c = false := fun c member =>
    Text.isBlank_of_isDigit (Text.isDigit_of_mem_toDigits member)
  have trimmed : Text.trim ([' '] ++ Nat.toDigits 10 n ++ []) = Nat.toDigits 10 n := by
    refine Text.trim_padded (List.forall_mem_singleton.2 rfl) nofun ?_ ?_
    · intro c first
      exact solid c (List.mem_of_head? first)
    · intro c last
      exact solid c (List.mem_of_getLast? last)
  rwa [List.append_nil] at trimmed

theorem gives_lengthLine (length : Nat) :
    Gives (lengthLine length) (Nat.toDigits 10 length) := by
  refine ⟨"Content-Length".toList, ' ' :: Nat.toDigits 10 length, trim_lengthLine length,
    ?_, ?_, trim_toDigits length⟩
  · decide
  · decide

theorem newline_not_mem_lengthLine (length : Nat) : '\n' ∉ (lengthLine length).toList := by
  rw [toList_lengthLine, List.append_assoc]
  intro newline
  rcases List.mem_append.1 newline with label | newline
  · revert label
    decide
  · rw [List.cons_append, List.cons_append, List.mem_cons, List.mem_cons,
      List.mem_append] at newline
    rcases newline with colon | space | digit | return'
    · cases colon
    · cases space
    · cases Text.isDigit_of_mem_toDigits digit
    · cases List.mem_singleton.1 return'

theorem headerBlock_lengthLine {length : Nat} (word : length < Word.size64) :
    HeaderBlock [lengthLine length] "\r" length := by
  have gives := gives_lengthLine length
  have writes := Text.writes_toDigits length
  refine ⟨?_, ⟨by decide, by decide⟩, ?_, ?_⟩
  · intro line member
    cases List.mem_singleton.1 member
    refine ⟨newline_not_mem_lengthLine length, ?_⟩
    rw [trim_lengthLine]
    exact List.append_ne_nil_of_left_ne_nil (by decide) _
  · intro line member value other
    cases List.mem_singleton.1 member
    obtain rfl := gives.unique other
    exact ⟨length, writes, word⟩
  · exact ⟨[], _, [], _, rfl, gives, writes, nofun⟩

/-- A frame is a header block of one field and a blank line, and a body. -/
theorem encode_eq_written (value : Json) :
    encode value =
      written ([lengthLine (Utf8.encode value.write).length] ++ ["\r"]) ++
        Utf8.encode value.write := by
  have lines : Utf8.encode "\r\n\r\n" = Utf8.encode "\r" ++ 10 :: (Utf8.encode "\r" ++ [10]) := by
    decide
  have blank : written ["\r"] = Utf8.encode "\r" ++ [10] := by
    decide
  unfold encode lengthLine
  dsimp only
  rw [List.singleton_append, written_cons_append, blank, Utf8.encode_append, lines,
    Utf8.encode_append _ "\r", List.append_assoc, List.append_assoc, List.append_assoc,
    List.cons_append]

/-- The header of a frame announces the bytes of its body. -/
theorem begins_encode (value : Json) (rest : Bytes)
    (word : (Utf8.encode value.write).length < Word.size64) :
    Begins (encode value ++ rest) (Utf8.encode value.write).length
      (Utf8.encode value.write ++ rest) := by
  refine ⟨[lengthLine (Utf8.encode value.write).length], "\r", headerBlock_lengthLine word, ?_⟩
  rw [encode_eq_written, List.append_assoc]

/-- A frame that is written is read, and what follows it is left. -/
theorem read_encode (ending : Ending) {value : Json} (rest : Bytes)
    (small : (Utf8.encode value.write).length ≤ maxLength)
    (legible : value.Legible) :
    read ending (encode value ++ rest) = .frame value rest := by
  have some := List.length_pos_iff.2 legible.encode_ne_nil
  have word : (Utf8.encode value.write).length < Word.size64 := Nat.lt_of_le_of_lt small (by decide)
  exact (read_eq_frame_iff ending _ _ _).2
    ⟨Utf8.encode value.write, ⟨some, small⟩, begins_encode value rest word, legible⟩

/-! ## Frame after frame -/

/-- What a reader finds at one place of a stream, wherever it then stands. -/
inductive Report where
  | frame (body : Json)
  | failed (error : FrameError)
  | finished
  | waiting

def Reading.report : Reading → Report
  | .frame body _ => .frame body
  | .failed error _ => .failed error
  | .finished => .finished
  | .waiting => .waiting

/-- What a reader finds in some number of readings, each where the one before it left the stream. -/
def reports (ending : Ending) : Nat → Bytes → List Report
  | 0, _ => []
  | count + 1, bytes =>
      (read ending bytes).report :: reports ending count (read ending bytes).rest

theorem reports_encode_append (ending : Ending) (count : Nat) {value : Json} (rest : Bytes)
    (small : (Utf8.encode value.write).length ≤ maxLength)
    (legible : value.Legible) :
    reports ending (count + 1) (encode value ++ rest) =
      .frame value :: reports ending count rest := by
  rw [reports, read_encode ending rest small legible]
  rfl

/-- At the end of a stream the end is found again and again. -/
theorem reports_nil (count : Nat) : reports .closed count [] = List.replicate count .finished := by
  induction count with
  | zero => rfl
  | succ count ih =>
      rw [reports, (read_eq_finished_iff .closed []).2 ⟨rfl, rfl⟩, List.replicate_succ, ← ih]
      rfl

theorem reports_flatMap_encode (ending : Ending) (count : Nat) (values : List Json) (rest : Bytes)
    (small : ∀ value ∈ values, (Utf8.encode value.write).length ≤ maxLength)
    (legible : ∀ value ∈ values, value.Legible) :
    reports ending (values.length + count) (values.flatMap encode ++ rest) =
      values.map .frame ++ reports ending count rest := by
  induction values with
  | nil => rw [List.length_nil, Nat.zero_add, List.flatMap_nil, List.nil_append, List.map_nil,
      List.nil_append]
  | cons value values ih =>
      have others := ih (fun other member => small other (List.mem_cons_of_mem _ member))
        (fun other member => legible other (List.mem_cons_of_mem _ member))
      rw [List.length_cons, Nat.add_right_comm, List.flatMap_cons, List.append_assoc,
        reports_encode_append ending _ _ (small value List.mem_cons_self)
          (legible value List.mem_cons_self), others, List.map_cons, List.cons_append]

/--
How frames are read back that were written one after the other: the values come
first, then what is found in the rest of the stream alone.  A stream that ends
with the last frame ends cleanly.  The header of each frame announces as many
bytes as the text of its value has.
-/
structure ReadsBack (ending : Ending) (values : List Json) (rest : Bytes) : Prop where
  results : ∀ count, reports ending (values.length + count) (values.flatMap encode ++ rest) =
    values.map .frame ++ reports ending count rest
  ended : ∀ count, reports .closed (values.length + count) (values.flatMap encode) =
    values.map .frame ++ List.replicate count .finished
  counted : ∀ value ∈ values, ∃ head, encode value = head ++ Utf8.encode value.write ∧
    Begins head value.write.utf8ByteSize []

/-- What is written is read back, and the stream then stands where the frames end. -/
theorem reads_back (ending : Ending) (values : List Json) (rest : Bytes)
    (small : ∀ value ∈ values, (Utf8.encode value.write).length ≤ maxLength)
    (legible : ∀ value ∈ values, value.Legible) :
    ReadsBack ending values rest := by
  refine ⟨?_, ?_, ?_⟩
  · intro count
    exact reports_flatMap_encode ending count values rest small legible
  · intro count
    have ended := reports_flatMap_encode .closed count values [] small legible
    rwa [List.append_nil, reports_nil] at ended
  · intro value member
    have word : value.write.utf8ByteSize < Word.size64 := by
      rw [← Utf8.length_encode]
      exact Nat.lt_of_le_of_lt (small value member) (by decide)
    refine ⟨_, encode_eq_written value, ?_⟩
    rw [Utf8.length_encode]
    exact ⟨_, _, headerBlock_lengthLine word, (List.append_nil _).symm⟩

/-- Values whose texts hold a header, line ends and letters of two bytes. -/
def embedded : List Json :=
  [.object [("Content-Length: 4\r\n\r\nnull", .string "größe\n"), ("id", .integer 3)], .null,
    .array [.integer (-5), .bool true, .string "Content-Length: 0\r\n\r\n"]]

theorem plain_of_mem_embedded : ∀ value ∈ embedded, Json.Plain 127 value := by
  unfold embedded
  refine List.forall_mem_cons.2
    ⟨?_, List.forall_mem_cons.2 ⟨.null, List.forall_mem_cons.2 ⟨?_, nofun⟩⟩⟩
  · refine .object (by decide)
      (List.forall_mem_cons.2 ⟨.string _, List.forall_mem_cons.2 ⟨?_, nofun⟩⟩)
    exact .integer (by decide) (by decide)
  · refine .array (List.forall_mem_cons.2 ⟨?_, List.forall_mem_cons.2 ⟨.bool _,
      List.forall_mem_cons.2 ⟨.string _, nofun⟩⟩⟩)
    exact .integer (by decide) (by decide)

/-- Frames with such values are read back, whatever stands behind them. -/
theorem reads_back_embedded :
    (∀ value ∈ embedded, (Utf8.encode value.write).length ≤ maxLength) ∧
    (∀ value ∈ embedded, value.Legible) ∧
    ReadsBack .closed embedded (Utf8.encode "Content-Length: 1\r\n") := by
  have small : ∀ value ∈ embedded, (Utf8.encode value.write).length ≤ maxLength := by
    decide +kernel
  have legible : ∀ value ∈ embedded, value.Legible := fun value member =>
    (plain_of_mem_embedded value member).legible
  exact ⟨small, legible, reads_back .closed embedded _ small legible⟩

end DiffDigest.Frame
