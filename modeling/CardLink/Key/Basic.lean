import CardLink.Cipher.Aes
import CardLink.Cipher.Des
import CardLink.Error

/-!
# Keys

A key slot of the card holds an AES key or a triple DES key with two or three parts. A single DES
key is stored as two equal parts.
-/

namespace CardLink

/-! ## AES keys -/

/-- A key for AES. -/
abbrev AesKey := Octets 16

namespace AesKey

/-- Reads a key from its sixteen bytes. -/
def ofBytes (bs : Bytes) : Except Error AesKey :=
  if h : bs.length = 16 then .ok ⟨bs, h⟩ else .error (.wrongLength .aesKey 16 bs.length)

/-- The key that every slot holds when the card leaves the factory. -/
def factory : AesKey := Octets.zero 16

end AesKey

/-! ## Triple DES keys -/

/-- A key for the older authentication. -/
inductive TripleDesKey where
  | twoKey (bytes : Octets 16)
  | threeKey (bytes : Octets 24)
  deriving DecidableEq

namespace TripleDesKey

/-- Reads a key from 8, 16 or 24 bytes; a single DES key is doubled. -/
def ofBytes (bs : Bytes) : Except Error TripleDesKey :=
  if h : bs.length = 8 then .ok (.twoKey ⟨bs ++ bs, by simp [h]⟩)
  else if h : bs.length = 16 then .ok (.twoKey ⟨bs, h⟩)
  else if h : bs.length = 24 then .ok (.threeKey ⟨bs, h⟩)
  else .error (.malformed .tripleDesKeyLength)

/-- The bytes of a key. -/
def bytes : TripleDesKey → Bytes
  | twoKey k => k.toList
  | threeKey k => k.toList

/-- The length of the nonces that are exchanged under a key. -/
def nonceLength : TripleDesKey → Nat
  | twoKey _ => 8
  | threeKey _ => 16

/-- Both halves of a two-key key are equal, so that it works as single DES. -/
def isSingleDes : TripleDesKey → Bool
  | twoKey k => k.toList.take 8 == k.toList.drop 8
  | threeKey _ => false

/-- Part `i` of a key, counted from zero. -/
def part (k : TripleDesKey) (i : Nat) : Octets 8 := Octets.fit 8 (k.bytes.drop (8 * i))

/-- The block cipher under a key; with two parts, the first serves as third. -/
def cipher (k : TripleDesKey) : BlockCipher 8 :=
  match k with
  | twoKey _ => tripleDes (k.part 0) (k.part 1) (k.part 0)
  | threeKey _ => tripleDes (k.part 0) (k.part 1) (k.part 2)

end TripleDesKey

/-! ## Kinds of key slots -/

/-- What a key slot is used for. -/
inductive KeyKind where
  | twoKeyTripleDes
  | threeKeyTripleDes
  | aes
  deriving DecidableEq

namespace KeyKind

/-- The two-bit code of a kind. -/
def code : KeyKind → UInt8
  | twoKeyTripleDes => 0
  | threeKeyTripleDes => 1
  | aes => 2

/-- The code as it is combined with the number of a key at card level. -/
def cardLevelBits (k : KeyKind) : UInt8 := k.code <<< 6

/-- Reads the kind from the top bits of the key count that the card reports. -/
def ofKeyCount (count : UInt8) : Except Error KeyKind :=
  if count >>> 6 = 0 then .ok twoKeyTripleDes
  else if count >>> 6 = 1 then .ok threeKeyTripleDes
  else if count >>> 6 = 2 then .ok aes
  else .error (.malformed .unknownKeyKind)

end KeyKind

/-- The kind of slot that a triple DES key belongs to. -/
def TripleDesKey.kind : TripleDesKey → KeyKind
  | twoKey _ => .twoKeyTripleDes
  | threeKey _ => .threeKeyTripleDes

end CardLink
