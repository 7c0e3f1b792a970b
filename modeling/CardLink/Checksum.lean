import CardLink.Bytes

/-!
# The checksum of key changes

A cyclic redundancy check of 32 bits with the reflected IEEE polynomial. The register starts with
all bits set and is read out as it stands, without a final inversion.
-/

namespace CardLink.Checksum

/-- The reflected generator polynomial. -/
def polynomial : UInt32 := 0xEDB88320

/-- One bit shifted out of the register. -/
def shift (register : UInt32) : UInt32 :=
  if register &&& 1 = 0 then register >>> 1 else (register >>> 1) ^^^ polynomial

/-- One byte taken into the register. -/
def absorb (register : UInt32) (b : UInt8) : UInt32 :=
  Nat.repeat shift 8 (register ^^^ b.toUInt32)

/-- The register after a byte string. -/
def register (bs : Bytes) : UInt32 := bs.foldl absorb 0xFFFFFFFF

/-- The checksum of a byte string, least significant byte first. -/
def crc32 (bs : Bytes) : Bytes := Bytes.little 4 (register bs).toNat

@[simp] theorem length_crc32 (bs : Bytes) : (crc32 bs).length = 4 := Bytes.length_little 4 _

end CardLink.Checksum
