import CardLink.Handshake.Basic

/-!
# Authentication under AES

The first authentication opens a session: the card assigns a transaction, both sides tell their
capabilities and the counter starts. A renewed authentication changes the keys of a session and
keeps the rest.
-/

namespace CardLink.Handshake

/-! ## The second pass -/

/-- The zero vector, under which both parties encrypt. -/
def zeroIv : Octets 16 := Octets.zero 16

/-- The card's nonce in clear. -/
def cardNonce (key : AesKey) (c : Challenge) : Except Error Nonce := do
  checkLength .encryptedNonce 16 c.encryptedNonce
  let rndB ← Cbc.decrypt (aes key) zeroIv c.encryptedNonce
  return Octets.fit 16 rndB

/-- The host's proof: its nonce and the card's nonce rotated, encrypted. -/
def token (key : AesKey) (rndA rndB : Nonce) : Except Error Bytes :=
  Cbc.encrypt (aes key) zeroIv (rndA.toList ++ rndB.rotl.toList)

/-- Answers a challenge; the result is the card's answer in clear. -/
def prove (key : AesKey) (rndA rndB : Nonce) (length : Nat) : Conversation Bytes := do
  let proof ← token key rndA rndB
  let reply ← transmit (Chaining.continuation :: proof)
  let encrypted ← readFinal length reply
  Cbc.decrypt (aes key) zeroIv encrypted

/-! ## First authentication -/

/-- Refuses a first authentication that no card can take. -/
def checkFirst (keyNo : UInt8) (capabilities : Bytes) : Except Error Unit := do
  checkKeyNo keyNo
  if 6 < capabilities.length then
    throw (.wrongLength .readerCapabilities 6 capabilities.length)

/-- The request for a first authentication; the top bit of the key number marks the second
application of a selected pair. -/
def firstRequest (keyNo : UInt8) (secondApplication : Bool) (capabilities : Bytes) : Bytes :=
  [0x71, keyNo ||| (if secondApplication then 0x80 else 0), UInt8.ofNat capabilities.length]
    ++ capabilities

/-- The first pass. -/
def startFirst (keyNo : UInt8) (secondApplication : Bool) (capabilities : Bytes) :
    Conversation Challenge := do
  checkFirst keyNo capabilities
  request .first keyNo (firstRequest keyNo secondApplication capabilities) 16 16

/-- What the card's answer to a first authentication holds. -/
structure FirstAnswer where
  ti : TransactionId
  proof : Bytes
  cardCapabilities : Capabilities
  readerCapabilities : Capabilities

/-- Reads the 32 bytes of an answer in clear. -/
def FirstAnswer.ofBytes (bs : Bytes) : FirstAnswer where
  ti := Octets.fit 4 bs
  proof := (bs.drop 4).take 16
  cardCapabilities := Octets.fit 6 (bs.drop 20)
  readerCapabilities := Octets.fit 6 (bs.drop 26)

/-- The session that a first authentication opens. -/
def FirstAnswer.session (a : FirstAnswer) (keys : SessionKeys) (keyNo : UInt8) : Session where
  protection := some (.aes { keys, ti := a.ti })
  keyNo := keyNo
  cardCapabilities := a.cardCapabilities
  readerCapabilities := a.readerCapabilities

/-- The second pass. -/
def finishFirst (key : AesKey) (c : Challenge) (draw : NonceSource) : Conversation Session := do
  c.require .first
  let rndB ← cardNonce key c
  let rndA := draw 16
  let bytes ← prove key rndA rndB 32
  let answer := FirstAnswer.ofBytes bytes
  checkProof rndA.toList answer.proof
  return answer.session (SessionKeys.derive key rndA rndB) c.keyNo

/-- Both passes, inside the application that is selected. -/
def runFirst (keyNo : UInt8) (key : AesKey) (capabilities : Bytes) (draw : NonceSource) :
    Conversation Session := do
  let c ← startFirst keyNo false capabilities
  finishFirst key c draw

/-! ## Renewed authentication -/

/-- The first pass. -/
def startRenewal (s : Session) (keyNo : UInt8) : Conversation Challenge := do
  checkKeyNo keyNo
  let _ ← s.requireAes .reauthentication
  request .renewal keyNo [0x77, keyNo] 16 16

/-- The session takes its new keys and then the slot that they belong to. -/
def takeKeys (keys : SessionKeys) (keyNo : UInt8) : Action Session Unit := do
  let p ← (← get).requireAes .reauthentication
  modify fun s => { s with protection := some (.aes (p.withKeys keys)) }
  modify fun s => { s with keyNo }

/-- The second pass, on the session itself: it changes once the card has proved that it knows the
key. -/
def finishRenewal (key : AesKey) (c : Challenge) (draw : NonceSource) : Action Session Unit := do
  c.require .renewal
  let rndB ← cardNonce key c
  let rndA := draw 16
  let answer ← Action.converse (prove key rndA rndB 16)
  checkProof rndA.toList answer
  takeKeys (SessionKeys.derive key rndA rndB) c.keyNo

/-- Both passes. -/
def runRenewal (keyNo : UInt8) (key : AesKey) (draw : NonceSource) : Action Session Unit := do
  let c ← Action.converse (startRenewal (← get) keyNo)
  finishRenewal key c draw

/-- Both passes; a failure that the card may have noticed invalidates the session. -/
def renew (keyNo : UInt8) (key : AesKey) (draw : NonceSource) : Action Session Unit := do
  try runRenewal keyNo key draw
  catch err =>
    if noticed err then modify Session.invalidate
    throw err

end CardLink.Handshake
