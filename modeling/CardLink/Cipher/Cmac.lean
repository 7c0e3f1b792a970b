import CardLink.Cipher.Aes

/-!
# Authentication tags with AES

The tag of a message is the last block of its chained encryption under the zero vector, where the
last block of the message was masked first: with one subkey if it is complete, with another if it
had to be filled up. On the wire only every second byte of a tag is sent.
-/

namespace CardLink

namespace Cmac

/-! ## Subkeys -/

/-- A string of bytes moved to the left by one bit. -/
def shiftLeft : Bytes → Bytes
  | [] => []
  | [b] => [b <<< 1]
  | b :: b' :: bs => ((b <<< 1) ||| (b' >>> 7)) :: shiftLeft (b' :: bs)

@[simp] theorem length_shiftLeft (bs : Bytes) : (shiftLeft bs).length = bs.length := by
  induction bs with
  | nil => rfl
  | cons b bs ih =>
    cases bs with
    | nil => rfl
    | cons b' bs => simpa [shiftLeft] using ih

/-- The remainder added when doubling carries a bit out of the block. -/
def carry : Octets 16 := ⟨Bytes.zeros 15 ++ [0x87], rfl⟩

/-- The product with `x` in the field of `2 ^ 128` elements. -/
def double (b : Octets 16) : Octets 16 :=
  let shifted : Octets 16 := ⟨shiftLeft b.toList, by simp⟩
  if b.toList.headD 0 &&& 0x80 = 0 then shifted else shifted.xor carry

/-! ## The tag -/

/-- The last block of a message, masked with the subkey that its length calls for. -/
def lastBlock (subkey : Octets 16) (tail : Bytes) : Octets 16 :=
  if tail.length = 16 then (Octets.fit 16 tail).xor subkey
  else (Octets.fit 16 (tail ++ [0x80])).xor (double subkey)

/-- The blocks that enter the chain: all complete blocks but the last, then the masked last one. -/
def chain (subkey : Octets 16) (message : Bytes) : List (Octets 16) :=
  let whole := (message.length - 1) / 16
  Octets.blocks 16 whole message ++ [lastBlock subkey (message.drop (16 * whole))]

/-- The full tag of a message under a block cipher. -/
def tag (c : BlockCipher 16) (message : Bytes) : Octets 16 :=
  let subkey := double (c.encrypt (Octets.zero 16))
  (chain subkey message).foldl (fun acc b => c.encrypt (acc.xor b)) (Octets.zero 16)

/-! ## The short form -/

/-- The bytes at odd positions. -/
def odds : Bytes → Bytes
  | _ :: b :: rest => b :: odds rest
  | _ => []

theorem length_odds : ∀ bs : Bytes, (odds bs).length = bs.length / 2
  | [] => rfl
  | [_] => by simp [odds]
  | _ :: _ :: rest => by
    simp only [odds, List.length_cons, length_odds rest]
    omega

/-- The eight bytes of a tag that are sent. -/
def short (full : Octets 16) : Octets 8 := ⟨odds full.toList, by simp [length_odds]⟩

end Cmac

/-- The full tag of a message under an AES key. -/
def cmac (key : Octets 16) (message : Bytes) : Octets 16 := Cmac.tag (aes key) message

/-- The tag of a message as it is sent. -/
def shortCmac (key : Octets 16) (message : Bytes) : Octets 8 := Cmac.short (cmac key message)

end CardLink
