import CardLink.Cipher.Cmac
import CardLink.Key.Basic

/-!
# Session keys

Both parties of a handshake contribute a nonce. After an AES handshake the session keys are the
tags of two session vectors that mix the nonces; after a triple DES handshake the session key is
put together from pieces of the nonces.
-/

namespace CardLink

/-- A nonce of an AES handshake. -/
abbrev Nonce := Octets 16

/-! ## After an AES handshake -/

/-- The keys of an EV2 session. -/
structure SessionKeys where
  /-- The key that encrypts payloads. -/
  enc : AesKey
  /-- The key that authenticates frames. -/
  mac : AesKey
  deriving DecidableEq

namespace SessionKeys

/-- The label of the vector that gives the encryption key. -/
def encLabel : Octets 2 := ⟨[0xA5, 0x5A], rfl⟩

/-- The label of the vector that gives the authentication key. -/
def macLabel : Octets 2 := ⟨[0x5A, 0xA5], rfl⟩

/-- The bytes between the label and the nonces: a block counter and the key length in bits. -/
def fixedPart : Bytes := [0x00, 0x01, 0x00, 0x80]

/-- The mixture of both nonces. -/
def context (rndA rndB : Nonce) : Bytes :=
  rndA.toList.take 2 ++ Bytes.xor ((rndA.toList.drop 2).take 6) (rndB.toList.take 6)
    ++ rndB.toList.drop 6 ++ rndA.toList.drop 8

/-- The string whose tag is a session key. -/
def vector (label : Octets 2) (rndA rndB : Nonce) : Octets 32 :=
  ⟨label.toList ++ fixedPart ++ context rndA rndB, by simp [fixedPart, context]⟩

/-- The session keys that an authentication key and both nonces give. -/
def derive (key : AesKey) (rndA rndB : Nonce) : SessionKeys where
  enc := cmac key (vector encLabel rndA rndB).toList
  mac := cmac key (vector macLabel rndA rndB).toList

end SessionKeys

/-! ## After a triple DES handshake -/

namespace TripleDesKey

/-- Four bytes of each nonce, from the given position on. -/
def nonceParts (rndA rndB : Bytes) (i : Nat) : Bytes :=
  (rndA.drop i).take 4 ++ (rndB.drop i).take 4

/-- The session key that an authentication key and both nonces give; the nonces must have the
length that the key calls for. -/
def deriveSession (key : TripleDesKey) (rndA rndB : Bytes) : Except Error TripleDesKey :=
  if rndA.length = key.nonceLength ∧ rndB.length = key.nonceLength then
    match key with
    | twoKey _ =>
      let first := nonceParts rndA rndB 0
      .ok (.twoKey (Octets.fit 16
        (first ++ if key.isSingleDes then first else nonceParts rndA rndB 4)))
    | threeKey _ =>
      .ok (.threeKey (Octets.fit 24
        (nonceParts rndA rndB 0 ++ nonceParts rndA rndB 6 ++ nonceParts rndA rndB 12)))
  else .error (.wrongLength .isoNonce key.nonceLength (max rndA.length rndB.length))

end TripleDesKey

end CardLink
