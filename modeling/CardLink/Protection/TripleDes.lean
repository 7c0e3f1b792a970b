import CardLink.Cipher.Cbc
import CardLink.Command
import CardLink.Key.Basic

/-!
# Protection by triple DES

After the older authentication only payloads in full mode are protected: they are encrypted under
the zero vector. There are no tags and there is no counter, so the other modes change nothing.
-/

namespace CardLink

/-- The secret that protects a session made by the older authentication. -/
structure TripleDesProtection where
  key : TripleDesKey
  deriving DecidableEq

namespace TripleDesProtection

/-- The zero vector. -/
def iv : Octets 8 := Octets.zero 8

/-- The frame of a command. -/
def protect (p : TripleDesProtection) (c : Command) : Except Error Bytes :=
  if c.mode = .full then do
    Cbc.checkAligned 8 (.fullPayload 8) c.payload
    let body ← Cbc.encrypt p.key.cipher iv c.payload
    return c.frameWith body
  else .ok c.clearFrame

/-- The data of a response, decrypted as the mode of its command asks. -/
def recover (p : TripleDesProtection) (mode : CommMode) (r : Reply) : Except Error Bytes := do
  CardStatus.check r.status
  if mode = .full then
    Cbc.checkAligned 8 (.fullResponse 8) r.data
    Cbc.decrypt p.key.cipher iv r.data
  else return r.data

end TripleDesProtection

end CardLink
