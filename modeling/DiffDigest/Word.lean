/-!
# Word sizes

The bounds of integers of a fixed width, written out.
-/

namespace DiffDigest.Word

abbrev size32 : Nat :=
  4294967296

abbrev size64 : Nat :=
  18446744073709551616

/-- One more than the largest signed integer of 32 bits. -/
abbrev half32 : Nat :=
  2147483648

abbrev half64 : Nat :=
  9223372036854775808

end DiffDigest.Word
