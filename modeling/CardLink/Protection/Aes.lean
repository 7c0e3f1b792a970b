import CardLink.Cipher.Cbc
import CardLink.Command
import CardLink.Key.Derivation
import CardLink.Protection.Vectors

/-!
# Protection by AES

In an EV2 session commands and responses carry tags in both secured modes, and payloads are
encrypted in full mode. A command is made under the current counter and its response is read under
the next one. The tag of a response is checked before anything else is done with it.
-/

namespace CardLink

/-- The secrets and the state that protect an EV2 session. -/
structure AesProtection where
  keys : SessionKeys
  ti : TransactionId
  counter : Counter := .start
  deriving DecidableEq

namespace AesProtection

/-! ## Commands -/

/-- The bytes that take the place of a payload. -/
def body (p : AesProtection) (c : Command) : Except Error Bytes :=
  match c.mode with
  | .plain | .mac => .ok c.payload
  | .full => do
    Cbc.checkAligned 16 (.fullPayload 16) c.payload
    Cbc.encrypt (aes p.keys.enc) (Protection.iv .command p.keys.enc p.ti p.counter) c.payload

/-- The tag of a command that is sent with the given body. -/
def tag (p : AesProtection) (c : Command) (body : Bytes) : Octets 8 :=
  Protection.commandTag p.keys.mac p.ti c.code p.counter c.header body

/-- The frame of a command; in a secured mode it ends with a tag. -/
def frame (p : AesProtection) (c : Command) : Except Error Bytes := do
  let body ← p.body c
  return c.frameWith body ++ if c.mode.isSecured then (p.tag c body).toList else []

/-- The frame of a command, refused when the counter has no next value for its response. -/
def protect (p : AesProtection) (c : Command) : Except Error Bytes :=
  if c.mode.isSecured then do
    let _ ← p.counter.next
    p.frame c
  else p.frame c

/-! ## Responses -/

/-- The protected part of a response whose tag is right. -/
def verified (p : AesProtection) (r : Reply) : Except Error Bytes := do
  let next ← p.counter.next
  let (payload, tag) ← r.detachTag
  if Bytes.sameAs tag (Protection.responseTag p.keys.mac p.ti r.status next payload).toList then
    return payload
  else throw .macMismatch

/-- The clear text of an encrypted payload. -/
def decrypted (p : AesProtection) (payload : Bytes) : Except Error Bytes := do
  let next ← p.counter.next
  Cbc.checkAligned 16 (.fullResponse 16) payload
  Cbc.decrypt (aes p.keys.enc) (Protection.iv .response p.keys.enc p.ti next) payload

/-- The data of a response, verified and decrypted as the mode of its command asks; padding is
kept. -/
def recover (p : AesProtection) (mode : CommMode) (r : Reply) : Except Error Bytes := do
  CardStatus.check r.status
  match mode with
  | .plain => return r.data
  | .mac => p.verified r
  | .full => p.decrypted (← p.verified r)

/-! ## State -/

/-- The protection after a completed secured exchange. -/
def step (p : AesProtection) : Except Error AesProtection := do
  let next ← p.counter.next
  return { p with counter := next }

/-- The protection after a renewed authentication: transaction and counter carry over. -/
def withKeys (p : AesProtection) (keys : SessionKeys) : AesProtection := { p with keys }

end AesProtection

end CardLink
