import CardLink.Cipher.Cmac
import CardLink.Protection.Counter

/-!
# What is encrypted under and what is authenticated

Every initialisation vector names the direction, the transaction and the counter, and every
authenticated string the transaction and the counter, at fixed places and in fixed widths. A vector
made for one exchange therefore differs from that of any other, and a tag fits only the exchange it
was made for.
-/

namespace CardLink

/-- The identifier that the card gives to a session. -/
abbrev TransactionId := Octets 4

namespace Protection

/-! ## Initialisation vectors -/

/-- The way a frame travels. -/
inductive Direction where
  | command
  | response
  deriving DecidableEq

/-- The two bytes that tell the directions apart. -/
def Direction.label : Direction → Octets 2
  | command => ⟨[0xA5, 0x5A], by decide⟩
  | response => ⟨[0x5A, 0xA5], by decide⟩

/-- The block whose encryption is an initialisation vector. -/
def ivBlock (d : Direction) (ti : TransactionId) (c : Counter) : Octets 16 :=
  ⟨d.label.toList ++ ti.toList ++ c.bytes.toList ++ Bytes.zeros 8, by simp⟩

/-- The initialisation vector for a payload. -/
def iv (d : Direction) (key : Octets 16) (ti : TransactionId) (c : Counter) : Octets 16 :=
  (CardLink.aes key).encrypt (ivBlock d ti c)

/-! ## Authentication tags -/

/-- The string that is authenticated: the command code or status, the counter, the transaction and
the bytes that are protected. -/
def tagInput (code : UInt8) (c : Counter) (ti : TransactionId) (body : Bytes) : Bytes :=
  code :: c.bytes.toList ++ ti.toList ++ body

/-- The tag of a command with its header and payload. -/
def commandTag (key : Octets 16) (ti : TransactionId) (code : UInt8) (c : Counter)
    (header payload : Bytes) : Octets 8 :=
  shortCmac key (tagInput code c ti (header ++ payload))

/-- The tag of a response; the counter is the one that follows the command's. -/
def responseTag (key : Octets 16) (ti : TransactionId) (status : UInt8) (c : Counter)
    (data : Bytes) : Octets 8 :=
  shortCmac key (tagInput status c ti data)

end Protection

end CardLink
