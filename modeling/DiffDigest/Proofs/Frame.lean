import DiffDigest.Frame

/-!
# Reading frame after frame

A reader only moves forward.  So each frame of a stream arrives at a place of
its own, and no frame is read twice.
-/

namespace DiffDigest.Frame

/-! ## The rest of a stream -/

theorem afterLine_suffix (bytes : Bytes) : afterLine bytes <:+ bytes :=
  (List.tail_suffix _).trans (List.dropWhile_suffix _)

/-- Where a stream stands after a header block; an awaited stream is used up. -/
def Headers.rest : Headers → Bytes
  | .length _ rest => rest
  | .failed _ rest => rest
  | .finished => []
  | .waiting => []

theorem readHeaders_suffix (ending : Ending) (length? : Option Nat) (begun : Bool)
    (bytes : Bytes) : (readHeaders ending length? begun bytes).rest <:+ bytes := by
  -- Lines that are read are dropped one by one; where nothing can be read, all is dropped.
  fun_induction readHeaders ending length? begun bytes with
  | case8 _ _ bytes _ _ _ _ _ ih => exact ih.trans (afterLine_suffix bytes)
  | case10 _ _ bytes _ _ _ _ _ _ _ _ ih => exact ih.trans (afterLine_suffix bytes)
  | case5 _ _ bytes => exact afterLine_suffix bytes
  | case6 _ bytes => exact afterLine_suffix bytes
  | case7 _ bytes => exact afterLine_suffix bytes
  | case9 _ _ bytes => exact afterLine_suffix bytes
  | _ => exact List.nil_suffix

def Reading.rest : Reading → Bytes
  | .frame _ rest => rest
  | .failed _ rest => rest
  | .finished => []
  | .waiting => []

theorem readBody_suffix (ending : Ending) (length : Nat) (bytes : Bytes) :
    (readBody ending length bytes).rest <:+ bytes := by
  unfold readBody
  split
  · exact List.suffix_rfl
  · split
    · exact List.suffix_rfl
    · dsimp only
      split
      · split <;> exact List.nil_suffix
      · split <;> exact List.drop_suffix length bytes

/-- Reading a frame leaves an end of the stream. -/
theorem read_suffix (ending : Ending) (bytes : Bytes) : (read ending bytes).rest <:+ bytes := by
  have headers := readHeaders_suffix ending none false bytes
  unfold read
  split
  · rename_i found
    rw [found] at headers
    exact (readBody_suffix ending _ _).trans headers
  · rename_i found
    rw [found] at headers
    exact headers
  · exact List.nil_suffix
  · exact List.nil_suffix

/-! ## The end of a stream -/

theorem silent_of_readHeaders {ending : Ending} {length? : Option Nat} {begun : Bool}
    {bytes : Bytes} (waits : readHeaders ending length? begun bytes = .waiting) :
    ending = .silent := by
  fun_induction readHeaders ending length? begun bytes with
  | case1 _ _ silent => exact silent
  | case4 _ _ bytes _ unended =>
      rw [Bool.and_eq_true, decide_eq_true_eq] at unended
      exact unended.1
  | case8 _ _ _ _ _ _ _ _ ih => exact ih waits
  | case10 _ _ _ _ _ _ _ _ _ _ _ ih => exact ih waits
  | _ => cases waits

/-- A frame is awaited for ever only on a silent stream. -/
theorem silent_of_read {ending : Ending} {bytes : Bytes} (waits : read ending bytes = .waiting) :
    ending = .silent := by
  unfold read at waits
  split at waits
  · unfold readBody at waits
    split at waits
    · cases waits
    · split at waits
      · cases waits
      · dsimp only at waits
        split at waits
        · split at waits
          · rfl
          · cases waits
        · split at waits <;> cases waits
  · cases waits
  · cases waits
  · rename_i found
    exact silent_of_readHeaders found

/-! ## Arrivals -/

/-- A frame, and the stream at whose front it stood. -/
structure Arrival where
  stream : Bytes
  frame : Json

def Arrival.Before (arrival : Arrival) (stream : Bytes) : Prop :=
  stream <:+ arrival.stream ∧ stream.length < arrival.stream.length

theorem Arrival.Before.of_suffix {arrival : Arrival} {stream later : Bytes}
    (before : arrival.Before stream) (suffix : later <:+ stream) : arrival.Before later :=
  ⟨suffix.trans before.1, Nat.lt_of_le_of_lt suffix.length_le before.2⟩

/-- Reading the frame of an arrival comes past it. -/
theorem before_of_read {ending : Ending} {stream rest : Bytes} {frame : Json}
    (reading : read ending stream = .frame frame rest) : Arrival.Before ⟨stream, frame⟩ rest := by
  have suffix := read_suffix ending stream
  rw [reading] at suffix
  exact ⟨suffix, read_length_lt reading⟩

inductive Reads (ending : Ending) : Bytes → List Arrival → Bytes → Prop
  | nil (stream : Bytes) : Reads ending stream [] stream
  | cons {stream rest last : Bytes} {frame : Json} {arrivals : List Arrival}
      (reading : read ending stream = .frame frame rest)
      (others : Reads ending rest arrivals last) :
      Reads ending stream (⟨stream, frame⟩ :: arrivals) last

structure Between (stream : Bytes) (arrivals : List Arrival) (last : Bytes) : Prop where
  suffix : last <:+ stream
  after : ∀ arrival ∈ arrivals, arrival.stream <:+ stream
  before : ∀ arrival ∈ arrivals, arrival.Before last
  ordered : arrivals.Pairwise fun first second => first.Before second.stream

namespace Between

theorem nil {stream last : Bytes} (suffix : last <:+ stream) : Between stream [] last :=
  ⟨suffix, nofun, nofun, .nil⟩

theorem single {ending : Ending} {stream rest : Bytes} {frame : Json}
    (reading : read ending stream = .frame frame rest) :
    Between stream [⟨stream, frame⟩] rest := by
  have before := before_of_read reading
  refine ⟨before.1, ?_, ?_, List.pairwise_singleton _ _⟩
  · intro arrival member
    cases List.mem_singleton.1 member
    exact List.suffix_rfl
  · intro arrival member
    cases List.mem_singleton.1 member
    exact before

theorem append {stream middle last : Bytes} {first second : List Arrival}
    (left : Between stream first middle) (right : Between middle second last) :
    Between stream (first ++ second) last := by
  refine ⟨right.suffix.trans left.suffix, ?_, ?_, ?_⟩
  · intro arrival member
    rcases List.mem_append.1 member with early | late
    · exact left.after arrival early
    · exact (right.after arrival late).trans left.suffix
  · intro arrival member
    rcases List.mem_append.1 member with early | late
    · exact (left.before arrival early).of_suffix right.suffix
    · exact right.before arrival late
  · refine List.pairwise_append.2 ⟨left.ordered, right.ordered, ?_⟩
    intro early isFirst late isSecond
    exact (left.before early isFirst).of_suffix (right.after late isSecond)

end Between

theorem Reads.between {ending : Ending} {stream last : Bytes} {arrivals : List Arrival}
    (reads : Reads ending stream arrivals last) : Between stream arrivals last := by
  induction reads with
  | nil stream => exact .nil List.suffix_rfl
  | cons reading others ih => exact (Between.single reading).append ih

end DiffDigest.Frame
