import DiffDigest.Text.Utf8

/-!
# Bytes of characters

A text is encoded character by character.  A character of seven bits is one
byte; no other character has such a byte, so a newline byte is a newline.
-/

namespace DiffDigest.Utf8

theorem encode_eq_flatMap (text : String) :
    encode text = text.toList.flatMap String.utf8EncodeChar := by
  unfold encode String.toUTF8
  rw [← String.utf8Encode_toList, List.utf8Encode]
  simp

theorem encode_empty : encode "" = [] := by
  rw [encode_eq_flatMap, String.toList_empty, List.flatMap_nil]

theorem length_encode (text : String) : (encode text).length = text.utf8ByteSize := by
  unfold encode
  rw [Array.length_toList]
  rfl

/-- Bytes from 128 on are no newlines. -/
theorem newline_ne_ofNat {n : Nat} (high : 128 ≤ n) (low : n < 256) :
    (10 : UInt8) ≠ UInt8.ofNat n := by
  intro same
  have value : 10 = n % 256 := congrArg UInt8.toNat same
  omega

/-- Only a newline has the byte of a newline. -/
theorem newline_mem_utf8EncodeChar_iff (c : Char) :
    (10 : UInt8) ∈ String.utf8EncodeChar c ↔ c = '\n' := by
  constructor
  · intro member
    unfold String.utf8EncodeChar at member
    dsimp only at member
    split at member
    · rename_i ascii
      have value : 10 = c.val.toNat % 256 := congrArg UInt8.toNat (List.mem_singleton.1 member)
      have code : c.toNat = 10 := by
        unfold Char.toNat
        omega
      rw [← Char.ofNat_toNat c, code]
    · -- All bytes of a longer character have their highest bit set.
      exfalso
      split at member
      · simp only [List.mem_cons, List.not_mem_nil, or_false] at member
        rcases member with same | same <;>
          exact newline_ne_ofNat (by omega) (by omega) same
      · split at member
        · simp only [List.mem_cons, List.not_mem_nil, or_false] at member
          rcases member with same | same | same <;>
            exact newline_ne_ofNat (by omega) (by omega) same
        · simp only [List.mem_cons, List.not_mem_nil, or_false] at member
          rcases member with same | same | same | same <;>
            exact newline_ne_ofNat (by omega) (by omega) same
  · rintro rfl
    decide

theorem newline_mem_encode_iff (text : String) :
    (10 : UInt8) ∈ encode text ↔ '\n' ∈ text.toList := by
  rw [encode_eq_flatMap, List.mem_flatMap]
  simp only [newline_mem_utf8EncodeChar_iff, exists_eq_right]

end DiffDigest.Utf8
