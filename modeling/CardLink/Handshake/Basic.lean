import CardLink.Chaining
import CardLink.Key.Derivation

/-!
# Handshakes

Every handshake takes two passes. In the first the card sends a nonce of its own, encrypted under
the key. In the second the host shows that it could read that nonce and sends one of its own, and
the card's answer must show the same: the host's nonce, rotated. Both nonces then make the session
keys. This module holds what all handshakes share.
-/

namespace CardLink

/-! ## Nonces of the host -/

/-- Where the host's nonces come from; each handshake draws one nonce of the length it needs. -/
abbrev NonceSource := (n : Nat) → Octets n

/-- The source that repeats the given bytes from the first one on; without any it gives zeros. -/
def NonceSource.repeating (seed : Bytes) : NonceSource := fun n =>
  ⟨(List.range n).map fun i => seed.getD (i % seed.length) 0, by simp⟩

/-! ## Challenges -/

/-- The kinds of handshakes. -/
inductive Handshake where
  /-- The first authentication, which opens an EV2 session. -/
  | first
  /-- The renewed authentication, which changes the keys of an EV2 session. -/
  | renewal
  /-- The older authentication, which opens a session under triple DES. -/
  | legacy
  deriving DecidableEq

/-- The card's challenge: a handshake whose first pass is done. -/
structure Challenge where
  kind : Handshake
  keyNo : UInt8
  /-- The card's nonce as the card sent it. -/
  encryptedNonce : Bytes
  deriving DecidableEq

/-- Refuses a challenge of another kind of handshake. -/
def Challenge.require (c : Challenge) (kind : Handshake) : Except Error Unit :=
  if c.kind = kind then .ok () else .error (.authenticationFailed .otherKind)

namespace Handshake

/-! ## Checks -/

/-- The highest key number that can be authenticated with. -/
def maxKeyNo : UInt8 := 0x0F

/-- Refuses key numbers that no card has. -/
def checkKeyNo (keyNo : UInt8) : Except Error Unit :=
  if maxKeyNo < keyNo then .error (.malformed .keyNumberRange) else .ok ()

/-- Refuses a string that is not of the length expected. -/
def checkLength (what : Measured) (expected : Nat) (bs : Bytes) : Except Error Unit :=
  if bs.length = expected then .ok () else .error (.wrongLength what expected bs.length)

/-- The card proves that it knows the key by returning the host's nonce, rotated. -/
def checkProof (rndA echoed : Bytes) : Except Error Unit :=
  if Bytes.sameAs (Bytes.rotl rndA) echoed then .ok ()
  else .error (.authenticationFailed .wrongProof)

/-- The card may have noticed a handshake that failed with the given error. -/
def noticed : Error → Bool
  | .unsupported _ => false
  | .sessionInvalidated => false
  | .transport fault => fault.maybeSent
  | _ => true

/-! ## Answers of the card -/

/-- What follows the expected status. A lone status is too short where it announces success or a
further frame, and a refusal otherwise. -/
def bodyAfter (expected : UInt8) : Bytes → Except Error Bytes
  | [] => .error (.malformed .shortAuthenticationResponse)
  | code :: body =>
    if body = [] ∧ (code = CardStatus.ok ∨ code = CardStatus.additionalFrame) then
      .error (.malformed .shortAuthenticationResponse)
    else if code = expected then .ok body
    else .error (.refused ⟨code⟩)

/-- The encrypted nonce in the answer to a first pass; its length is one of two. -/
def readNonce (length other : Nat) (answer : Bytes) : Except Error Bytes := do
  let nonce ← bodyAfter CardStatus.additionalFrame answer
  if nonce.length = length ∨ nonce.length = other then return nonce
  else throw (.wrongLength .encryptedNonce length nonce.length)

/-- The encrypted data in the answer to a second pass. -/
def readFinal (length : Nat) (answer : Bytes) : Except Error Bytes := do
  let data ← bodyAfter CardStatus.ok answer
  checkLength .authenticationAnswer length data
  return data

/-! ## The first pass -/

/-- Sends a request and reads the challenge. -/
def request (kind : Handshake) (keyNo : UInt8) (frame : Bytes) (length other : Nat) :
    Conversation Challenge := do
  let answer ← transmit frame
  let encryptedNonce ← readNonce length other answer
  return { kind, keyNo, encryptedNonce }

end Handshake

end CardLink
