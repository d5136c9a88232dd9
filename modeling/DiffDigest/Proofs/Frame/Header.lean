import DiffDigest.Proofs.Frame
import DiffDigest.Proofs.Text.Decimal
import DiffDigest.Proofs.Text.Mark
import DiffDigest.Proofs.Text.Utf8

/-!
# Header blocks

A header block is a sequence of lines of which the last, and no other, is blank.
It announces the length of a body if every length that its lines give can be
read; the last one counts.  Reading a header block accepts just these.
-/

namespace DiffDigest.Frame

/-! ## Lines -/

/-- A header line gives the length of a body, as this text. -/
def Gives (line : String) (value : List Char) : Prop :=
  ∃ name text, Text.trim line.toList = name ++ ':' :: text ∧ ':' ∉ name ∧
    (Text.trim name).map Char.toLower = "content-length".toList ∧ Text.trim text = value

theorem header_eq_blank_iff (line : List Char) : header line = .blank ↔ Text.trim line = [] := by
  unfold header
  dsimp only
  constructor
  · intro found
    split at found
    · exact List.isEmpty_iff.1 ‹_›
    · split at found
      · cases found
      · split at found <;> cases found
  · intro empty
    rw [if_pos (List.isEmpty_iff.2 empty)]

/-- The meaning of a line with a colon. -/
theorem header_of_colon {line name text : List Char}
    (whole : Text.trim line = name ++ ':' :: text) (first : ':' ∉ name) :
    header line =
      if (Text.trim name).map Char.toLower = "content-length".toList then .length (Text.trim text)
      else .other := by
  unfold header
  dsimp only
  rw [whole, if_neg (by simp), Text.takeWhile_append_mark first, Text.dropWhile_append_mark first]

theorem header_eq_length_iff (line : String) (value : List Char) :
    header line.toList = .length value ↔ Gives line value := by
  constructor
  · intro found
    by_cases colon : ':' ∈ Text.trim line.toList
    · obtain ⟨name, text, whole, first⟩ := List.eq_append_cons_of_mem colon
      rw [header_of_colon whole first] at found
      split at found
      · cases found
        exact ⟨name, text, whole, first, ‹_›, rfl⟩
      · cases found
    · unfold header at found
      dsimp only at found
      rw [Text.dropWhile_of_not_mem colon] at found
      split at found <;> cases found
  · rintro ⟨name, text, whole, first, named, rfl⟩
    rw [header_of_colon whole first, if_pos named]

/-- The first line of a stream, or all of it where there is no newline. -/
theorem line_cases (bytes : Bytes) :
    bytes = line bytes ++ 10 :: afterLine bytes ∨
      10 ∉ bytes ∧ line bytes = bytes ∧ afterLine bytes = [] := by
  unfold line afterLine
  by_cases newline : (10 : UInt8) ∈ bytes
  · obtain ⟨front, rest, rfl, first⟩ := List.eq_append_cons_of_mem newline
    left
    rw [Text.takeWhile_append_mark first, Text.dropWhile_append_mark first, List.tail_cons]
  · right
    rw [Text.takeWhile_of_not_mem newline, Text.dropWhile_of_not_mem newline]
    exact ⟨newline, rfl, rfl⟩

theorem newline_not_mem_line (bytes : Bytes) : (10 : UInt8) ∉ line bytes := by
  intro member
  simpa using List.mem_takeWhile_imp member

def written (lines : List String) : Bytes :=
  lines.flatMap fun line => Utf8.encode line ++ [10]

theorem written_append (first second : List String) :
    written (first ++ second) = written first ++ written second :=
  List.flatMap_append

theorem written_cons_append (line : String) (lines : List String) (rest : Bytes) :
    written (line :: lines) ++ rest = Utf8.encode line ++ 10 :: (written lines ++ rest) := by
  unfold written
  rw [List.flatMap_cons, List.append_assoc, List.append_assoc, List.singleton_append]

/-! ## Blocks -/

structure IsField (line : String) : Prop where
  unbroken : '\n' ∉ line.toList
  visible : Text.trim line.toList ≠ []

structure IsBlank (line : String) : Prop where
  unbroken : '\n' ∉ line.toList
  blank : Text.trim line.toList = []

/-- Some lines give this length, and none later. -/
def GivesLast (lines : List String) (length : Nat) : Prop :=
  ∃ before line after value, lines = before ++ line :: after ∧ Gives line value ∧
    Text.Writes value length ∧ ∀ later ∈ after, ∀ value, ¬ Gives later value

/-- The lines of a header block, the last of them apart, that announce a body of some length. -/
structure HeaderBlock (lines : List String) (blank : String) (length : Nat) : Prop where
  fields : ∀ line ∈ lines, IsField line
  blank : IsBlank blank
  readable : ∀ line ∈ lines, ∀ value, Gives line value →
    ∃ n, Text.Writes value n ∧ n < Word.size64
  last : GivesLast lines length

/-- Lines that announce a length, where some length may have been given before them. -/
inductive Announces : Option Nat → List String → Nat → Prop
  | given (length : Nat) : Announces (some length) [] length
  | other {length? : Option Nat} {line : String} {lines : List String} {length : Nat}
      (field : IsField line) (silent : ∀ value, ¬ Gives line value)
      (others : Announces length? lines length) : Announces length? (line :: lines) length
  | gives {length? : Option Nat} {line : String} {lines : List String} {length n : Nat}
      {value : List Char} (field : IsField line) (gives : Gives line value)
      (writes : Text.Writes value n) (word : n < Word.size64)
      (others : Announces (some n) lines length) : Announces length? (line :: lines) length

theorem Gives.unique {line : String} {first second : List Char} (left : Gives line first)
    (right : Gives line second) : first = second := by
  have same := ((header_eq_length_iff line first).2 left).symm.trans
    ((header_eq_length_iff line second).2 right)
  cases same
  rfl

/-- Lines that give no length leave the one that was given. -/
theorem announces_of_silent {lines : List String} (length : Nat)
    (fields : ∀ line ∈ lines, IsField line)
    (silent : ∀ line ∈ lines, ∀ value, ¬ Gives line value) :
    Announces (some length) lines length := by
  induction lines with
  | nil => exact .given length
  | cons line rest ih =>
      refine .other (fields line List.mem_cons_self) (silent line List.mem_cons_self) ?_
      exact ih (fun other member => fields other (List.mem_cons_of_mem _ member))
        (fun other member => silent other (List.mem_cons_of_mem _ member))

theorem HeaderBlock.announces {lines : List String} {blank : String} {length : Nat}
    (block : HeaderBlock lines blank length) : Announces none lines length := by
  obtain ⟨fields, -, readable, before, line, after, value, rfl, gives, writes, silent⟩ := block
  generalize none = length?
  induction before generalizing length? with
  | nil =>
      obtain ⟨n, same, word⟩ := readable line List.mem_cons_self value gives
      obtain rfl := writes.unique same
      refine .gives (fields line List.mem_cons_self) gives writes word ?_
      exact announces_of_silent length
        (fun other member => fields other (List.mem_cons_of_mem _ member)) silent
  | cons first before ih =>
      have others := ih (fun other member => fields other (List.mem_cons_of_mem _ member))
        (fun other member => readable other (List.mem_cons_of_mem _ member))
      have field := fields first List.mem_cons_self
      by_cases gives : ∃ value, Gives first value
      · obtain ⟨value, gives⟩ := gives
        obtain ⟨n, writes, word⟩ := readable first List.mem_cons_self value gives
        exact .gives field gives writes word (others _)
      · exact .other field (not_exists.1 gives) (others _)

theorem GivesLast.cons {lines : List String} {length : Nat} (last : GivesLast lines length)
    (line : String) : GivesLast (line :: lines) length := by
  obtain ⟨before, found, after, value, rfl, others⟩ := last
  exact ⟨line :: before, found, after, value, rfl, others⟩

/-- What was given before some lines counts where they give nothing. -/
theorem Announces.parts {length? : Option Nat} {lines : List String} {length : Nat}
    (announces : Announces length? lines length) :
    (∀ line ∈ lines, IsField line) ∧
    (∀ line ∈ lines, ∀ value, Gives line value →
      ∃ n, Text.Writes value n ∧ n < Word.size64) ∧
    (GivesLast lines length ∨
      length? = some length ∧ ∀ line ∈ lines, ∀ value, ¬ Gives line value) := by
  induction announces with
  | given length => exact ⟨nofun, nofun, .inr ⟨rfl, nofun⟩⟩
  | other field silent others ih =>
      obtain ⟨fields, readable, last⟩ := ih
      refine ⟨List.forall_mem_cons.2 ⟨field, fields⟩, List.forall_mem_cons.2 ⟨?_, readable⟩, ?_⟩
      · intro value gives
        exact absurd gives (silent value)
      · rcases last with last | ⟨given, nowhere⟩
        · exact .inl (last.cons _)
        · exact .inr ⟨given, List.forall_mem_cons.2 ⟨silent, nowhere⟩⟩
  | gives field gives writes word others ih =>
      obtain ⟨fields, readable, last⟩ := ih
      refine ⟨List.forall_mem_cons.2 ⟨field, fields⟩, List.forall_mem_cons.2 ⟨?_, readable⟩, ?_⟩
      · intro value other
        obtain rfl := gives.unique other
        exact ⟨_, writes, word⟩
      · rcases last with last | ⟨given, nowhere⟩
        · exact .inl (last.cons _)
        · cases given
          exact .inl ⟨[], _, _, _, rfl, gives, writes, nowhere⟩

theorem Announces.headerBlock {lines : List String} {blank : String} {length : Nat}
    (announces : Announces none lines length) (last : IsBlank blank) :
    HeaderBlock lines blank length := by
  obtain ⟨fields, readable, given | ⟨absent, -⟩⟩ := announces.parts
  · exact ⟨fields, last, readable, given⟩
  · cases absent

/-! ## Reading -/

/-- Reading a stream whose first line is a text. -/
theorem readHeaders_line (ending : Ending) (length? : Option Nat) (begun : Bool) {text : String}
    (unbroken : '\n' ∉ text.toList) (rest : Bytes) :
    readHeaders ending length? begun (Utf8.encode text ++ 10 :: rest) =
      match header text.toList with
      | .blank =>
          match length? with
          | none => .failed .missingLength rest
          | some length => .length length rest
      | .other => readHeaders ending length? true rest
      | .length value =>
          match Text.boundedDecimal? Word.size64 value with
          | none => .failed (.invalidLength (String.ofList value)) rest
          | some length => readHeaders ending (some length) true rest := by
  have first : (10 : UInt8) ∉ Utf8.encode text := by
    rwa [Utf8.newline_mem_encode_iff]
  have front : line (Utf8.encode text ++ 10 :: rest) = Utf8.encode text :=
    Text.takeWhile_append_mark first rest
  have back : afterLine (Utf8.encode text ++ 10 :: rest) = rest := by
    unfold afterLine
    rw [Text.dropWhile_append_mark first, List.tail_cons]
  have whole := readHeaders.eq_def ending length? begun (Utf8.encode text ++ 10 :: rest)
  rw [dif_neg (by simp), if_neg (by simp), front, back, Utf8.decode?_encode] at whole
  exact whole

/-- Lines that announce a length come to this length, whatever follows them. -/
theorem readHeaders_written {length? : Option Nat} {lines : List String} {length : Nat}
    (announces : Announces length? lines length) (ending : Ending) (begun : Bool) (rest : Bytes) :
    ∃ later, readHeaders ending length? begun (written lines ++ rest) =
      readHeaders ending (some length) later rest := by
  induction announces generalizing begun with
  | given length => exact ⟨begun, rfl⟩
  | @other length? line lines length field silent others ih =>
      have plain : header line.toList = .other := by
        cases found : header line.toList with
        | blank => exact absurd ((header_eq_blank_iff _).1 found) field.visible
        | length value => exact absurd ((header_eq_length_iff _ _).1 found) (silent value)
        | other => rfl
      rw [written_cons_append, readHeaders_line _ _ _ field.unbroken, plain]
      exact ih true
  | gives field gives writes word others ih =>
      rw [written_cons_append, readHeaders_line _ _ _ field.unbroken,
        (header_eq_length_iff _ _).2 gives]
      dsimp only
      rw [Text.boundedDecimal?_eq_some_iff.2 ⟨writes, word⟩]
      exact ih true

/-- A stream is a header block and a rest, or ends just before the newline of its blank line. -/
inductive Heads (ending : Ending) (lines : List String) (blank : String) (bytes : Bytes) :
    Bytes → Prop
  | whole {rest : Bytes} (split : bytes = written (lines ++ [blank]) ++ rest) :
      Heads ending lines blank bytes rest
  | cut (closed : ending = .closed) (marked : blank ≠ "")
      (split : bytes = written lines ++ Utf8.encode blank) : Heads ending lines blank bytes []

theorem Heads.cons {ending : Ending} {lines : List String} {blank : String} {bytes rest : Bytes}
    (heads : Heads ending lines blank bytes rest) (line : String) :
    Heads ending (line :: lines) blank (Utf8.encode line ++ 10 :: bytes) rest := by
  cases heads with
  | whole split =>
      refine .whole ?_
      rw [split, List.cons_append, written_cons_append]
  | cut closed marked split =>
      refine .cut closed marked ?_
      rw [split, written_cons_append]

/-- A header block is read up to its end. -/
theorem readHeaders_of_heads {ending : Ending} {length? : Option Nat} {begun : Bool}
    {lines : List String} {blank : String} {bytes rest : Bytes} {length : Nat}
    (announces : Announces length? lines length) (last : IsBlank blank)
    (heads : Heads ending lines blank bytes rest) :
    readHeaders ending length? begun bytes = .length length rest := by
  have empty := (header_eq_blank_iff _).2 last.blank
  cases heads with
  | whole split =>
      rw [written_append, List.append_assoc] at split
      obtain ⟨later, read⟩ := readHeaders_written announces ending begun (written [blank] ++ rest)
      rw [split, read, written_cons_append, readHeaders_line _ _ _ last.unbroken, empty]
      rfl
  | cut closed marked split =>
      obtain ⟨later, read⟩ := readHeaders_written announces ending begun (Utf8.encode blank)
      have newline : (10 : UInt8) ∉ Utf8.encode blank := by
        rw [Utf8.newline_mem_encode_iff]
        exact last.unbroken
      have nonempty : Utf8.encode blank ≠ [] := by
        intro nothing
        have same := congrArg Utf8.decode? (nothing.trans Utf8.encode_empty.symm)
        rw [Utf8.decode?_encode, Utf8.decode?_encode] at same
        exact marked (Option.some.inj same)
      have front : line (Utf8.encode blank) = Utf8.encode blank :=
        Text.takeWhile_of_not_mem newline
      have back : afterLine (Utf8.encode blank) = [] := by
        unfold afterLine
        rw [Text.dropWhile_of_not_mem newline, List.tail_nil]
      rw [split, read, readHeaders.eq_def, dif_neg nonempty, if_neg (by simp [closed]), front,
        back, Utf8.decode?_encode]
      dsimp only
      rw [empty]

/-- At the end of a stream no header block begins. -/
theorem readHeaders_nil_ne_length (ending : Ending) (length? : Option Nat) (begun : Bool)
    (length : Nat) (rest : Bytes) :
    readHeaders ending length? begun [] ≠ .length length rest := by
  rw [readHeaders.eq_def, dif_pos rfl]
  cases ending with
  | silent => nofun
  | closed => cases begun <;> nofun

/-- The first line of a stream is a text without newline, with a newline or the end behind it. -/
theorem line_of_decode? {bytes : Bytes} {text : String}
    (decoded : Utf8.decode? (line bytes) = some text) :
    '\n' ∉ text.toList ∧
      (bytes = Utf8.encode text ++ 10 :: afterLine bytes ∨
        10 ∉ bytes ∧ bytes = Utf8.encode text ∧ afterLine bytes = []) := by
  have first := Utf8.decode?_eq_some_iff.1 decoded
  constructor
  · rw [← Utf8.newline_mem_encode_iff, ← first]
    exact newline_not_mem_line bytes
  · rcases line_cases bytes with split | ⟨newline, whole, nothing⟩
    · left
      rwa [first] at split
    · right
      exact ⟨newline, whole.symm.trans first, nothing⟩

/-- Where a header block goes on behind a line, this line has its newline. -/
theorem eq_encode_append_of_readHeaders {ending : Ending} {length? : Option Nat} {begun : Bool}
    {bytes rest : Bytes} {length : Nat} {text : String}
    (decoded : Utf8.decode? (line bytes) = some text)
    (reading : readHeaders ending length? begun (afterLine bytes) = .length length rest) :
    bytes = Utf8.encode text ++ 10 :: afterLine bytes := by
  rcases (line_of_decode? decoded).2 with split | ⟨-, -, nothing⟩
  · exact split
  · rw [nothing] at reading
    exact absurd reading (readHeaders_nil_ne_length _ _ _ _ _)

/-- Only a header block is read as one. -/
theorem heads_of_readHeaders {ending : Ending} {length? : Option Nat} {begun : Bool}
    {bytes rest : Bytes} {length : Nat}
    (reading : readHeaders ending length? begun bytes = .length length rest) :
    ∃ lines blank, Announces length? lines length ∧ IsBlank blank ∧
      Heads ending lines blank bytes rest := by
  -- A block ends in a blank line; the lines before it are added one by one.
  fun_induction readHeaders ending length? begun bytes with
  | case7 begun bytes nonempty heard text decoded blank given =>
      cases reading
      obtain ⟨unbroken, place⟩ := line_of_decode? decoded
      refine ⟨[], text, .given length, ⟨unbroken, (header_eq_blank_iff _).1 blank⟩, ?_⟩
      rcases place with split | ⟨newline, whole, nothing⟩
      · refine .whole ?_
        rw [List.nil_append, written_cons_append]
        exact split
      · rw [nothing]
        refine .cut ?_ ?_ ?_
        · cases ending with
          | closed => rfl
          | silent => exact absurd (by simp [newline]) heard
        · rintro rfl
          exact nonempty whole
        · exact whole
  | case8 length? begun bytes nonempty heard text decoded other ih =>
      obtain ⟨lines, blank, announces, last, heads⟩ := ih reading
      have field : IsField text := by
        refine ⟨(line_of_decode? decoded).1, ?_⟩
        rw [Ne, ← header_eq_blank_iff, other]
        intro same
        cases same
      have silent : ∀ value, ¬ Gives text value := by
        intro value
        rw [← header_eq_length_iff, other]
        intro same
        cases same
      refine ⟨text :: lines, blank, .other field silent announces, last, ?_⟩
      rw [eq_encode_append_of_readHeaders decoded reading]
      exact heads.cons text
  | case10 length? begun bytes nonempty heard text decoded value found n read ih =>
      obtain ⟨lines, blank, announces, last, heads⟩ := ih reading
      have field : IsField text := by
        refine ⟨(line_of_decode? decoded).1, ?_⟩
        rw [Ne, ← header_eq_blank_iff, found]
        intro same
        cases same
      obtain ⟨writes, word⟩ := Text.boundedDecimal?_eq_some_iff.1 read
      have gives := (header_eq_length_iff text value).1 found
      refine ⟨text :: lines, blank, .gives field gives writes word announces, last, ?_⟩
      rw [eq_encode_append_of_readHeaders decoded reading]
      exact heads.cons text
  | _ => cases reading

end DiffDigest.Frame
