import DiffDigest.Proofs.Text.Utf8
import Mathlib.Data.String.Basic

/-!
# The order of texts and of their bytes

Texts are ordered by their characters, from the first that differs.  Their bytes
are in the same order: of two characters the greater one has more bytes or, with
as many bytes, the greater ones.
-/

namespace DiffDigest.Utf8

/-- The first byte that differs decides. -/
theorem cons_lt_cons {m n : Nat} {first second : Bytes} (ordered : m ≤ n) (small : n < 256)
    (rest : m = n → first < second) : UInt8.ofNat m :: first < UInt8.ofNat n :: second := by
  rw [List.cons_lt_cons_iff]
  rcases Nat.lt_or_eq_of_le ordered with less | rfl
  · refine .inl (UInt8.lt_iff_toNat_lt.2 ?_)
    rwa [UInt8.toNat_ofNat_of_lt' (Nat.lt_trans less small), UInt8.toNat_ofNat_of_lt' small]
  · exact .inr ⟨rfl, rest rfl⟩

/-- The bytes of a lesser character are less, whatever follows. -/
theorem encodeChar_append_lt {c d : Char} (less : c < d) (first second : Bytes) :
    String.utf8EncodeChar c ++ first < String.utf8EncodeChar d ++ second := by
  have codes : c.val.toNat < d.val.toNat := less
  have top : d.val.toNat < 0x110000 := by
    rcases d.valid with low | ⟨_, high⟩
    · exact Nat.lt_trans low (by decide)
    · exact high
  unfold String.utf8EncodeChar
  dsimp only
  generalize c.val.toNat = m at codes
  generalize d.val.toNat = n at codes top
  -- With fewer bytes the first one is less; with as many, one of them is the first that differs.
  repeat' split
  all_goals
    simp only [List.cons_append, List.nil_append]
    repeat refine cons_lt_cons (by omega) (by omega) fun _ => ?_
    omega

theorem flatMap_encodeChar_lt {first second : List Char} (less : first < second) :
    first.flatMap String.utf8EncodeChar < second.flatMap String.utf8EncodeChar := by
  induction less with
  | @nil c rest =>
      obtain ⟨byte, more, filled⟩ := List.exists_cons_of_ne_nil (String.utf8EncodeChar_ne_nil (c := c))
      rw [List.flatMap_nil, List.flatMap_cons, filled]
      exact List.nil_lt_cons byte _
  | cons less ih =>
      rw [List.flatMap_cons, List.flatMap_cons]
      exact List.append_left_lt ih
  | rel less =>
      rw [List.flatMap_cons, List.flatMap_cons]
      exact encodeChar_append_lt less _ _

/-- A lesser text has lesser bytes. -/
theorem encode_lt {first second : String} (less : first < second) :
    encode first < encode second := by
  rw [encode_eq_flatMap, encode_eq_flatMap]
  exact flatMap_encodeChar_lt (String.lt_iff_toList_lt.1 less)

/-- Texts are in the order of their bytes. -/
theorem encode_le_iff {first second : String} :
    encode first ≤ encode second ↔ first ≤ second := by
  constructor
  · exact fun ordered => le_of_not_gt fun greater => ordered (encode_lt greater)
  · intro ordered
    rcases lt_or_eq_of_le ordered with less | rfl
    · exact List.le_of_lt (encode_lt less)
    · exact List.le_refl _

end DiffDigest.Utf8
