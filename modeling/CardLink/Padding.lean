import CardLink.Cipher.Cbc

/-!
# Padding

Before encryption a string is closed by the marker byte `80` and filled with zero bytes up to a
whole number of 16-byte blocks. A string that is already whole receives a block of its own, so the
padding can always be told from the data.
-/

namespace CardLink.Padding

/-- The byte that ends the data. -/
def marker : UInt8 := 0x80

/-- The zero bytes that complete the last block of a marked string of the given length. -/
def fill (len : Nat) : Bytes := Bytes.zeros (Cbc.nextMultiple 16 len - len)

/-- A string with its padding. -/
def pad (data : Bytes) : Bytes := data ++ marker :: fill (data.length + 1)

/-- A string without its padding: the last byte that is not zero must be the marker and must stand
in the last block. -/
def strip (data : Bytes) : Except Error Bytes :=
  match data.reverse.dropWhile (fun b => b == 0) with
  | [] => .error (.malformed .paddingMarkerMissing)
  | last :: before =>
    if last = marker ∧ data.length - before.length ≤ 16 then .ok before.reverse
    else .error (.malformed .invalidPadding)

end CardLink.Padding
