import CardLink.Card.Basic
import CardLink.Text.Record

/-!
# One-line descriptions

How values are shown in a log. Identifiers and states appear in full; key bytes never do, and
neither do payloads.
-/

namespace CardLink

open Record

/-! ## Keys -/

/-- An AES key keeps its bytes to itself. -/
def AesKey.describe (_ : AesKey) : String := "AesKey(..)"

/-- A triple DES key shows how many parts it has. -/
def TripleDesKey.describe : TripleDesKey → String
  | twoKey _ => "LegacyKey::TwoKey(..)"
  | threeKey _ => "LegacyKey::ThreeKey(..)"

/-- Session keys keep their bytes to themselves. -/
def SessionKeys.describe (_ : SessionKeys) : String := "SessionKeys(..)"

/-- The name of a kind of key. -/
def KeyKind.describe : KeyKind → String
  | twoKeyTripleDes => "TwoKeyTripleDes"
  | threeKeyTripleDes => "ThreeKeyTripleDes"
  | aes => "Aes"

/-- A key update shows the slot and hides the keys. -/
def KeyUpdate.describe (u : KeyUpdate) : String :=
  partly "KeyChange" [
    ("key_no", toString u.keyNo.toNat),
    ("key_type", u.kind.describe),
    ("version", toString u.version.toNat),
    ("second_application", flag u.secondApplication)]

/-! ## Commands -/

/-- The name of a mode. -/
def CommMode.describe : CommMode → String
  | plain => "Plain"
  | mac => "Mac"
  | full => "Full"

/-- A command shows its header and the length of its payload. -/
def Command.describe (c : Command) : String :=
  whole "CommandEnvelope" [
    ("cmd", "0x" ++ Hex.encode [c.code]),
    ("header", quoted (Hex.encode c.header)),
    ("payload_len", toString c.payload.length),
    ("mode", c.mode.describe)]

/-! ## Sessions -/

/-- A transaction with its four bytes. -/
def TransactionId.describe (ti : TransactionId) : String :=
  applied "TransactionId" (Hex.encode ti.toList)

/-- A transaction as text. -/
def TransactionId.text (ti : TransactionId) : String := Hex.encodeUpper ti.toList

/-- The value of a counter in decimal. -/
def Counter.text (c : Counter) : String := toString c.value.toNat

/-- A counter with its value. -/
def Counter.describe (c : Counter) : String := applied "CommandCounter" c.text

/-- A protection shows its transaction and counter, or how many parts its key has. -/
def Protection.describe : Protection → String
  | aes p =>
    applied "Ev2" (partly "Ev2Channel" [
      ("ti", TransactionId.describe p.ti), ("counter", p.counter.describe)])
  | tripleDes p => applied "Iso" (whole "IsoChannel" [("session_key", p.key.describe)])

/-- The name of a generation. -/
def Generation.describe : Generation → String
  | ev1 => "Ev1"
  | ev2 => "Ev2"

/-- A session with everything but its keys and capabilities. -/
def Session.describe (s : Session) : String :=
  whole "Session" [
    ("mode", optional (s.generation?.map Generation.describe)),
    ("key_no", toString s.keyNo.toNat),
    ("ti", optional (s.ti?.map TransactionId.describe)),
    ("counter", optional (s.counter?.map Counter.describe)),
    ("application", quoted (Hex.encode s.application.toList))]

/-! ## Handshakes and handles -/

/-- The name of a kind of handshake. -/
def Handshake.describe : Handshake → String
  | first => "Ev2First"
  | renewal => "Ev2NonFirst"
  | legacy => "Iso"

/-- A challenge with the card's encrypted nonce. -/
def Challenge.describe (c : Challenge) : String :=
  whole "PendingHandshake" [
    ("kind", c.kind.describe),
    ("key_no", toString c.keyNo.toNat),
    ("encrypted_nonce", quoted (Hex.encode c.encryptedNonce))]

/-- A handle over a transport that describes itself by the given text. -/
def Card.describe (c : Card) (transport : String) : String :=
  partly "Desfire" [
    ("transport", transport),
    ("state", c.state.text),
    ("application", quoted (Hex.encode c.application.toList))]

/-- A transport for native frames over a reader that describes itself by the given text. -/
def IsoWrapping.describe (reader : String) : String := whole "IsoWrapped" [("inner", reader)]

end CardLink
