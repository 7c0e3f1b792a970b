import CardLink.Handshake.Basic

/-!
# Authentication under triple DES

Encryption chains across the messages: the host's token starts from the last block of the card's
nonce, and the card's answer from the last block of the token. Two-key keys exchange nonces of
eight bytes, three-key keys nonces of sixteen.
-/

namespace CardLink.Handshake

/-- The last cipher block of a string. -/
def finalBlock (bs : Bytes) : Octets 8 := Octets.fit 8 (bs.drop (bs.length - 8))

/-- The first pass. -/
def startLegacy (keyNo : UInt8) : Conversation Challenge := do
  checkKeyNo keyNo
  request .legacy keyNo [0x1A, keyNo] 8 16

/-- The card's nonce in clear. -/
def legacyNonce (key : TripleDesKey) (c : Challenge) : Except Error Bytes := do
  checkLength .encryptedNonce key.nonceLength c.encryptedNonce
  Cbc.decrypt key.cipher (Octets.zero 8) c.encryptedNonce

/-- The host's proof: its nonce and the card's nonce rotated, encrypted. -/
def legacyToken (key : TripleDesKey) (c : Challenge) (rndA rndB : Bytes) : Except Error Bytes :=
  Cbc.encrypt key.cipher (finalBlock c.encryptedNonce) (rndA ++ Bytes.rotl rndB)

/-- The second pass. -/
def finishLegacy (key : TripleDesKey) (c : Challenge) (draw : NonceSource) :
    Conversation Session := do
  c.require .legacy
  let rndB ← legacyNonce key c
  let rndA := (draw key.nonceLength).toList
  let proof ← legacyToken key c rndA rndB
  let reply ← transmit (Chaining.continuation :: proof)
  let encrypted ← readFinal key.nonceLength reply
  let answer ← Cbc.decrypt key.cipher (finalBlock proof) encrypted
  checkProof rndA answer
  let sessionKey ← key.deriveSession rndA rndB
  return Session.start (.tripleDes ⟨sessionKey⟩) c.keyNo

/-- Both passes. -/
def runLegacy (keyNo : UInt8) (key : TripleDesKey) (draw : NonceSource) :
    Conversation Session := do
  let c ← startLegacy keyNo
  finishLegacy key c draw

end CardLink.Handshake
