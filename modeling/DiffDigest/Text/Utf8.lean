/-!
# Texts as bytes

A text has one encoding as UTF-8 bytes, and a byte string has at most one
reading as a text.  Byte strings without a reading can still be shown: each
longest piece that starts no character is shown as the replacement character.
-/

namespace DiffDigest

abbrev Bytes := List UInt8

namespace Utf8

def encode (text : String) : Bytes :=
  text.toUTF8.data.toList

def decode? (bytes : Bytes) : Option String :=
  String.fromUTF8? ⟨bytes.toArray⟩

theorem ofArray_encode (text : String) :
    (⟨(encode text).toArray⟩ : ByteArray) = text.toUTF8 := by
  simp [encode]

@[simp] theorem decode?_encode (text : String) : decode? (encode text) = some text := by
  simp only [decode?, ofArray_encode, String.fromUTF8?]
  exact dif_pos text.isValidUTF8

theorem encode_of_decode? {bytes : Bytes} {text : String} (h : decode? bytes = some text) :
    encode text = bytes := by
  simp only [decode?, String.fromUTF8?] at h
  split at h
  · cases h
    simp [encode, String.fromUTF8]
  · cases h

theorem decode?_eq_some_iff {bytes : Bytes} {text : String} :
    decode? bytes = some text ↔ bytes = encode text :=
  ⟨fun h => (encode_of_decode? h).symm, fun h => h ▸ decode?_encode text⟩

@[simp] theorem encode_append (a b : String) : encode (a ++ b) = encode a ++ encode b := by
  simp [encode]

/-- What a first byte announces: its own bits, the range of the second byte, the bytes to come. -/
structure Lead where
  bits : Nat
  low : UInt8
  high : UInt8
  following : Nat

def lead? (byte : UInt8) : Option Lead :=
  if byte < 0x80 then some ⟨byte.toNat, 0x80, 0xBF, 0⟩
  else if byte < 0xC2 then none
  else if byte < 0xE0 then some ⟨byte.toNat - 0xC0, 0x80, 0xBF, 1⟩
  else if byte < 0xF0 then
    some ⟨byte.toNat - 0xE0, if byte = 0xE0 then 0xA0 else 0x80,
      if byte = 0xED then 0x9F else 0xBF, 2⟩
  else if byte < 0xF5 then
    some ⟨byte.toNat - 0xF0, if byte = 0xF0 then 0x90 else 0x80,
      if byte = 0xF4 then 0x8F else 0xBF, 3⟩
  else none

/-- Read the following bytes of a character; stop before the first byte that does not belong. -/
def follow : Nat → UInt8 → UInt8 → Nat → Bytes → Option Nat × Bytes
  | 0, _, _, bits, rest => (some bits, rest)
  | _ + 1, _, _, _, [] => (none, [])
  | count + 1, low, high, bits, byte :: rest =>
      if low ≤ byte && byte ≤ high then
        follow count 0x80 0xBF (bits * 64 + (byte.toNat - 0x80)) rest
      else
        (none, byte :: rest)

theorem follow_length_le (count : Nat) (low high : UInt8) (bits : Nat) (bytes : Bytes) :
    (follow count low high bits bytes).2.length ≤ bytes.length := by
  induction count generalizing low high bits bytes with
  | zero => simp [follow]
  | succ count ih =>
      cases bytes with
      | nil => simp [follow]
      | cons byte rest =>
          simp only [follow]
          split
          · exact Nat.le_succ_of_le (ih ..)
          · exact Nat.le_refl _

/-- The first character of a non-empty byte string, or the piece that starts none, and the rest. -/
def next (byte : UInt8) (rest : Bytes) : Option Char × Bytes :=
  match lead? byte with
  | none => (none, rest)
  | some lead =>
      let (bits, rest) := follow lead.following lead.low lead.high lead.bits rest
      (bits.map Char.ofNat, rest)

theorem next_length_le (byte : UInt8) (rest : Bytes) :
    (next byte rest).2.length ≤ rest.length := by
  unfold next
  split
  · exact Nat.le_refl _
  · exact follow_length_le ..

/-- The characters of a byte string, one replacement character for each piece that starts none. -/
def shownChars : Bytes → List Char
  | [] => []
  | byte :: rest => (next byte rest).1.getD '\uFFFD' :: shownChars (next byte rest).2
termination_by bytes => bytes.length
decreasing_by
  have := next_length_le byte rest
  simp only [List.length_cons]
  omega

def shown (bytes : Bytes) : String :=
  String.ofList (shownChars bytes)

end Utf8

end DiffDigest
