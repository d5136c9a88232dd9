import DiffDigest.Proofs.Frame.Header

/-!
# The grammar of frames

A frame is a header block that announces a length, and a body of this length.
The reader accepts such streams and no others.  After a fault in the body or in
the announced length it stands where the frame, or its header block, ends.
-/

namespace DiffDigest.Frame

/-- A stream begins with a header block that announces a body of some length, before a rest. -/
def Begins (bytes : Bytes) (length : Nat) (rest : Bytes) : Prop :=
  ∃ lines blank, HeaderBlock lines blank length ∧ bytes = written (lines ++ [blank]) ++ rest

/-- A stream ends in the blank line of such a header block, which has no newline. -/
def BreaksOff (ending : Ending) (bytes : Bytes) (length : Nat) : Prop :=
  ∃ lines blank, HeaderBlock lines blank length ∧ ending = .closed ∧ blank ≠ "" ∧
    bytes = written lines ++ Utf8.encode blank

def Fits (body : Bytes) : Prop :=
  1 ≤ body.length ∧ body.length ≤ maxLength

/-! ## Headers -/

theorem readHeaders_eq_length_iff {ending : Ending} {bytes rest : Bytes} {length : Nat} :
    readHeaders ending none false bytes = .length length rest ↔
      Begins bytes length rest ∨ rest = [] ∧ BreaksOff ending bytes length := by
  constructor
  · intro reading
    obtain ⟨lines, blank, announces, last, heads⟩ := heads_of_readHeaders reading
    have block : HeaderBlock lines blank length := announces.headerBlock last
    cases heads with
    | whole split => exact .inl ⟨lines, blank, block, split⟩
    | cut closed marked split => exact .inr ⟨rfl, lines, blank, block, closed, marked, split⟩
  · rintro (⟨lines, blank, block, split⟩ | ⟨rfl, lines, blank, block, closed, marked, split⟩)
    · exact readHeaders_of_heads block.announces block.blank (.whole split)
    · exact readHeaders_of_heads block.announces block.blank (.cut closed marked split)

inductive HeaderFault : FrameError → Prop
  | missingLength : HeaderFault .missingLength
  | invalidLength (value : String) : HeaderFault (.invalidLength value)
  | truncatedHeaders : HeaderFault .truncatedHeaders
  | invalidUtf8 : HeaderFault .invalidUtf8

theorem headerFault_of_readHeaders {ending : Ending} {length? : Option Nat} {begun : Bool}
    {bytes rest : Bytes} {error : FrameError}
    (reading : readHeaders ending length? begun bytes = .failed error rest) :
    HeaderFault error := by
  fun_induction readHeaders ending length? begun bytes with
  | case2 => cases reading; exact .truncatedHeaders
  | case5 => cases reading; exact .invalidUtf8
  | case6 => cases reading; exact .missingLength
  | case8 _ _ _ _ _ _ _ _ ih => exact ih reading
  | case9 => cases reading; exact .invalidLength _
  | case10 _ _ _ _ _ _ _ _ _ _ _ ih => exact ih reading
  | _ => cases reading

/-- Only where nothing was read before does nothing at all end a stream. -/
theorem finished_of_readHeaders {ending : Ending} {length? : Option Nat} {begun : Bool}
    {bytes : Bytes} (reading : readHeaders ending length? begun bytes = .finished) :
    bytes = [] ∧ begun = false ∧ ending = .closed := by
  fun_induction readHeaders ending length? begun bytes with
  | case3 _ _ closed fresh => exact ⟨rfl, Bool.eq_false_iff.2 fresh, closed⟩
  | case8 _ _ _ _ _ _ _ _ ih => cases (ih reading).2.1
  | case10 _ _ _ _ _ _ _ _ _ _ _ ih => cases (ih reading).2.1
  | _ => cases reading

/-! ## Bodies -/

inductive BodyReads (ending : Ending) (length : Nat) (bytes : Bytes) : Reading → Prop
  | zero (none : length = 0) : BodyReads ending length bytes (.failed .zeroLength bytes)
  | oversized (large : maxLength < length) :
      BodyReads ending length bytes (.failed (.oversized length) bytes)
  | frame {body rest : Bytes} {value : Json} (fits : Fits body) (whole : body.length = length)
      (split : bytes = body ++ rest) (legible : Json.readBytes? body = some value) :
      BodyReads ending length bytes (.frame value rest)
  | illegible {body rest : Bytes} (fits : Fits body) (whole : body.length = length)
      (split : bytes = body ++ rest) (illegible : Json.readBytes? body = none) :
      BodyReads ending length bytes (.failed .invalidJson rest)
  | early (closed : ending = .closed) : BodyReads ending length bytes (.failed .earlyEnd [])
  | awaited (silent : ending = .silent) : BodyReads ending length bytes .waiting

theorem bodyReads_readBody (ending : Ending) (length : Nat) (bytes : Bytes) :
    BodyReads ending length bytes (readBody ending length bytes) := by
  unfold readBody
  split
  · exact .zero ‹_›
  · split
    · exact .oversized ‹_›
    · dsimp only
      split
      · cases ending with
        | silent => exact .awaited rfl
        | closed => exact .early rfl
      · rename_i some small enough
        have whole : (bytes.take length).length = length := by
          have bound := List.length_take_le length bytes
          omega
        have fits : Fits (bytes.take length) := by
          unfold Fits
          omega
        have split := (List.take_append_drop length bytes).symm
        cases read : Json.readBytes? (bytes.take length) with
        | some value => exact .frame fits whole split read
        | none => exact .illegible fits whole split read

/-- A body is read from a stream that begins with it. -/
theorem readBody_append (ending : Ending) {body : Bytes} (fits : Fits body) (rest : Bytes) :
    readBody ending body.length (body ++ rest) =
      match Json.readBytes? body with
      | some value => .frame value rest
      | none => .failed .invalidJson rest := by
  obtain ⟨some, small⟩ := fits
  unfold readBody
  dsimp only
  rw [if_neg (by omega), if_neg (by omega), List.take_left, List.drop_left]
  exact if_neg (Nat.lt_irrefl _)

theorem readBody_zero (ending : Ending) (bytes : Bytes) :
    readBody ending 0 bytes = .failed .zeroLength bytes :=
  if_pos rfl

theorem readBody_oversized (ending : Ending) {length : Nat} (large : maxLength < length)
    (bytes : Bytes) : readBody ending length bytes = .failed (.oversized length) bytes := by
  unfold readBody
  rw [if_neg (by omega), if_pos large]

/-! ## Frames -/

theorem read_of_readHeaders {ending : Ending} {bytes rest : Bytes} {length : Nat}
    (reading : readHeaders ending none false bytes = .length length rest) :
    read ending bytes = readBody ending length rest := by
  unfold read
  rw [reading]

theorem read_of_begins (ending : Ending) {bytes rest : Bytes} {length : Nat}
    (begins : Begins bytes length rest) : read ending bytes = readBody ending length rest :=
  read_of_readHeaders (readHeaders_eq_length_iff.2 (.inl begins))

inductive FrameReads (ending : Ending) (bytes : Bytes) : Reading → Prop
  | body {length : Nat} {rest : Bytes} {reading : Reading}
      (headers : Begins bytes length rest ∨ rest = [] ∧ BreaksOff ending bytes length)
      (reads : BodyReads ending length rest reading) : FrameReads ending bytes reading
  | fault {error : FrameError} {rest : Bytes} (fault : HeaderFault error) :
      FrameReads ending bytes (.failed error rest)
  | finished (nothing : bytes = []) (closed : ending = .closed) :
      FrameReads ending bytes .finished
  | awaited (silent : ending = .silent) : FrameReads ending bytes .waiting

theorem frameReads_read (ending : Ending) (bytes : Bytes) :
    FrameReads ending bytes (read ending bytes) := by
  unfold read
  split
  · rename_i headers
    exact .body (readHeaders_eq_length_iff.1 headers) (bodyReads_readBody ending _ _)
  · rename_i headers
    exact .fault (headerFault_of_readHeaders headers)
  · rename_i headers
    obtain ⟨nothing, -, closed⟩ := finished_of_readHeaders headers
    exact .finished nothing closed
  · rename_i headers
    exact .awaited (silent_of_readHeaders headers)

theorem read_eq_finished_iff (ending : Ending) (bytes : Bytes) :
    read ending bytes = .finished ↔ bytes = [] ∧ ending = .closed := by
  constructor
  · intro reading
    have reads := frameReads_read ending bytes
    rw [reading] at reads
    cases reads with
    | body headers reads => cases reads
    | finished nothing closed => exact ⟨nothing, closed⟩
  · rintro ⟨rfl, rfl⟩
    unfold read
    rw [readHeaders.eq_def, dif_pos rfl]
    rfl

/-- A body that fits does not follow a header block that breaks off. -/
theorem Begins.of_fits {ending : Ending} {bytes body rest : Bytes} {length : Nat}
    (fits : Fits body)
    (headers : Begins bytes length (body ++ rest) ∨
      body ++ rest = [] ∧ BreaksOff ending bytes length) :
    Begins bytes length (body ++ rest) := by
  rcases headers with begins | ⟨nothing, -⟩
  · exact begins
  · have empty := (List.append_eq_nil_iff.1 nothing).1
    have some := fits.1
    rw [empty] at some
    cases some

theorem read_eq_frame_iff (ending : Ending) (bytes rest : Bytes) (value : Json) :
    read ending bytes = .frame value rest ↔
      ∃ body, Fits body ∧ Begins bytes body.length (body ++ rest) ∧
        Json.readBytes? body = some value := by
  constructor
  · intro reading
    have reads := frameReads_read ending bytes
    rw [reading] at reads
    cases reads with
    | body headers reads =>
        cases reads with
        | frame fits whole split legible =>
            subst split
            subst whole
            exact ⟨_, fits, .of_fits fits headers, legible⟩
  · rintro ⟨body, fits, begins, legible⟩
    rw [read_of_begins ending begins, readBody_append ending fits, legible]

theorem read_eq_invalidJson_iff (ending : Ending) (bytes rest : Bytes) :
    read ending bytes = .failed .invalidJson rest ↔
      ∃ body, Fits body ∧ Begins bytes body.length (body ++ rest) ∧
        Json.readBytes? body = none := by
  constructor
  · intro reading
    have reads := frameReads_read ending bytes
    rw [reading] at reads
    cases reads with
    | fault fault => cases fault
    | body headers reads =>
        cases reads with
        | illegible fits whole split illegible =>
            subst split
            subst whole
            exact ⟨_, fits, .of_fits fits headers, illegible⟩
  · rintro ⟨body, fits, begins, illegible⟩
    rw [read_of_begins ending begins, readBody_append ending fits, illegible]

/-- A length of zero is refused right behind the header block. -/
theorem read_eq_zeroLength_iff (ending : Ending) (bytes rest : Bytes) :
    read ending bytes = .failed .zeroLength rest ↔
      Begins bytes 0 rest ∨ rest = [] ∧ BreaksOff ending bytes 0 := by
  rw [← readHeaders_eq_length_iff]
  constructor
  · intro reading
    have reads := frameReads_read ending bytes
    rw [reading] at reads
    cases reads with
    | fault fault => cases fault
    | body headers reads =>
        cases reads with
        | zero none =>
            subst none
            exact readHeaders_eq_length_iff.2 headers
  · intro headers
    rw [read_of_readHeaders headers, readBody_zero]

/-- A length that is too large is refused right behind the header block. -/
theorem read_eq_oversized_iff (ending : Ending) (bytes rest : Bytes) (length : Nat) :
    read ending bytes = .failed (.oversized length) rest ↔
      maxLength < length ∧
        (Begins bytes length rest ∨ rest = [] ∧ BreaksOff ending bytes length) := by
  rw [← readHeaders_eq_length_iff]
  constructor
  · intro reading
    have reads := frameReads_read ending bytes
    rw [reading] at reads
    cases reads with
    | fault fault => cases fault
    | body headers reads =>
        cases reads with
        | oversized large => exact ⟨large, readHeaders_eq_length_iff.2 headers⟩
  · rintro ⟨large, headers⟩
    rw [read_of_readHeaders headers, readBody_oversized ending large]

/--
How reading comes out on every stream.  A frame is read, or its body refused,
where a header block announces that body, and the stream then stands behind it;
a length that is refused leaves the stream behind the header block; and what
fits none of this is a fault.
-/
structure Grammatical (ending : Ending) (bytes : Bytes) : Prop where
  finished : read ending bytes = .finished ↔ bytes = [] ∧ ending = .closed
  frame : ∀ value rest, read ending bytes = .frame value rest ↔
    ∃ body, Fits body ∧ Begins bytes body.length (body ++ rest) ∧
      Json.readBytes? body = some value
  invalidJson : ∀ rest, read ending bytes = .failed .invalidJson rest ↔
    ∃ body, Fits body ∧ Begins bytes body.length (body ++ rest) ∧ Json.readBytes? body = none
  zeroLength : ∀ rest, read ending bytes = .failed .zeroLength rest ↔
    Begins bytes 0 rest ∨ rest = [] ∧ BreaksOff ending bytes 0
  oversized : ∀ length rest, read ending bytes = .failed (.oversized length) rest ↔
    maxLength < length ∧ (Begins bytes length rest ∨ rest = [] ∧ BreaksOff ending bytes length)
  others : ending = .closed → bytes ≠ [] →
    (∀ body rest value, Fits body → Begins bytes body.length (body ++ rest) →
      Json.readBytes? body ≠ some value) →
    ∃ error rest, read ending bytes = .failed error rest

/-- The reader follows the grammar of frames on every stream. -/
theorem read_grammatical (ending : Ending) (bytes : Bytes) : Grammatical ending bytes := by
  refine ⟨read_eq_finished_iff ending bytes,
    fun value rest => read_eq_frame_iff ending bytes rest value,
    read_eq_invalidJson_iff ending bytes, read_eq_zeroLength_iff ending bytes,
    fun length rest => read_eq_oversized_iff ending bytes rest length, ?_⟩
  rintro rfl some ungrammatical
  cases reading : read .closed bytes with
  | failed error rest => exact ⟨error, rest, rfl⟩
  | frame value rest =>
      obtain ⟨body, fits, begins, legible⟩ := (read_eq_frame_iff .closed bytes rest value).1 reading
      exact absurd legible (ungrammatical body rest value fits begins)
  | finished => exact absurd ((read_eq_finished_iff .closed bytes).1 reading).1 some
  | waiting => cases silent_of_read reading

end DiffDigest.Frame
