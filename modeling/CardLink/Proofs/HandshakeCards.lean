import CardLink.Cipher.AesInverse
import CardLink.Cipher.DesInverse
import CardLink.Proofs.Agreements

/-!
# Cards that authenticate

The card's side of both ways to open a session. The card sends a nonce of its own, encrypted; it
reads the host's nonce from the proof, but only if its own nonce, rotated, follows it there; and it
returns the host's nonce, rotated and encrypted. Both cards answer every frame, and nothing is lost
on the way.
-/

namespace CardLink

/-- A card behind a line that loses nothing. -/
def Transport.ofCard {σ : Type} (react : σ → Bytes → Bytes × σ) : Transport σ where
  transmit frame card := (.ok (react card frame).1, (react card frame).2)
  isConnected _ := true
  reset card := (.ok (), card)

/-- A pass of a handshake that was prepared is decided by the card's reaction to its frame. -/
theorem Handshake.pass_ofCard {α β σ : Type} {prepare : Except Error β} {x : β}
    (hx : prepare = .ok x) (frame : β → Bytes) (judge : β → Bytes → Except Error α)
    (react : σ → Bytes → Bytes × σ) (card : σ) :
    (pass prepare frame judge).run.run (Transport.ofCard react) card =
      (judge x (react card (frame x)).1, (react card (frame x)).2) := by
  rw [pass_run, hx]
  rfl

/-! ## Nonces under a cipher -/

namespace Cbc

variable {n : Nat}

/-- Whole blocks, encrypted. -/
def sealed (c : BlockCipher n) (iv : Octets n) (data : Bytes) : Bytes :=
  Octets.join (encryptBlocks c iv (blocksOf n data))

section

variable {c : BlockCipher n} {iv : Octets n} {data : Bytes}

theorem encrypt_eq_sealed (h : data.length % n = 0) : encrypt c iv data = .ok (sealed c iv data) :=
  encrypt_of_aligned c iv h

theorem length_sealed (h : data.length % n = 0) : (sealed c iv data).length = data.length :=
  length_encrypt (encrypt_eq_sealed h)

theorem decrypt_sealed (hc : c.Invertible) (h : data.length % n = 0) :
    decrypt c iv (sealed c iv data) = .ok data :=
  decrypt_encrypt hc (encrypt_eq_sealed h)

end

end Cbc

/-- What a card reads from a proof: the host's nonce, if the card's own nonce, rotated, follows
it. -/
def readToken {n : Nat} (c : BlockCipher n) (iv : Octets n) (rndB token : Bytes) :
    Except UInt8 Bytes :=
  if token.length = 2 * rndB.length then
    match Cbc.decrypt c iv token with
    | .error _ => .error 0x7E
    | .ok clear =>
      if clear.drop rndB.length = Bytes.rotl rndB then .ok (clear.take rndB.length)
      else .error 0xAE
  else .error 0x7E

/-- A proof made under the same key from the card's own nonce shows it the host's nonce. -/
theorem readToken_sealed {n : Nat} {c : BlockCipher n} (hc : c.Invertible) (iv : Octets n)
    {rndA rndB : Bytes} (hlength : rndA.length = rndB.length)
    (haligned : (rndA ++ Bytes.rotl rndB).length % n = 0) :
    readToken c iv rndB (Cbc.sealed c iv (rndA ++ Bytes.rotl rndB)) = .ok rndA := by
  have htoken : (Cbc.sealed c iv (rndA ++ Bytes.rotl rndB)).length = 2 * rndB.length := by
    rw [Cbc.length_sealed haligned, List.length_append, Bytes.length_rotl, hlength, Nat.two_mul]
  unfold readToken
  rw [if_pos htoken, Cbc.decrypt_sealed hc haligned]
  simp only [List.drop_left' hlength, List.take_left' hlength, if_true]

/-! ## Under AES -/

/-- A card with AES keys, and what it brings to a first authentication. -/
structure AesCard where
  slots : UInt8 → Option AesKey
  rndB : Nonce
  ti : TransactionId
  capabilities : Capabilities
  /-- What the card notes of the capabilities that the host announces. -/
  heard : Bytes → Capabilities
  /-- The slot, its key and the host's capabilities while the card waits for a proof. -/
  pending : Option (UInt8 × AesKey × Capabilities) := none
  /-- The slot, the host's nonce and the keys of the session. -/
  session : Option (UInt8 × Nonce × SessionKeys) := none

namespace AesCard

/-- The first pass. The top bit of the slot's number tells the applications of a pair apart. -/
def challenge (card : AesCard) : Bytes → Bytes × AesCard
  | [] => ([0x7E], card)
  | keyRef :: announced =>
    let keyNo := keyRef &&& 0x7F
    match card.slots keyNo with
    | none => ([0x40], { card with session := none })
    | some key =>
      (CardStatus.additionalFrame :: Cbc.sealed (aes key) Handshake.zeroIv card.rndB.toList,
        { card with pending := some (keyNo, key, card.heard (announced.drop 1)), session := none })

/-- What the card answers to a proof, in clear. -/
def answer (card : AesCard) (rndA : Nonce) (heard : Capabilities) : Bytes :=
  card.ti.toList ++ rndA.rotl.toList ++ card.capabilities.toList ++ heard.toList

/-- The second pass. -/
def conclude (card : AesCard) (token : Bytes) : Bytes × AesCard :=
  match card.pending with
  | none => ([0x1C], card)
  | some (keyNo, key, heard) =>
    match readToken (aes key) Handshake.zeroIv card.rndB.toList token with
    | .error status => ([status], { card with pending := none, session := none })
    | .ok bytes =>
      let rndA : Nonce := Octets.fit 16 bytes
      (CardStatus.ok :: Cbc.sealed (aes key) Handshake.zeroIv (card.answer rndA heard),
        { card with
          pending := none
          session := some (keyNo, rndA, SessionKeys.derive key rndA card.rndB) })

/-- What the card makes of a frame. -/
def react (card : AesCard) : Bytes → Bytes × AesCard
  | [] => ([0x7E], card)
  | code :: body =>
    if code = 0x71 then card.challenge body
    else if code = CardStatus.additionalFrame then card.conclude body
    else ([0x1C], { card with pending := none })

end AesCard

/-! ## Under triple DES -/

/-- A card with triple DES keys, and the source of its nonces. -/
structure TripleDesCard where
  slots : UInt8 → Option TripleDesKey
  draw : NonceSource
  /-- The slot, its key and the encrypted nonce while the card waits for a proof. -/
  pending : Option (UInt8 × TripleDesKey × Bytes) := none
  /-- The slot, the host's nonce and the key of the session. -/
  session : Option (UInt8 × Bytes × TripleDesKey) := none

namespace TripleDesCard

/-- The card's nonce under a key. -/
def rndB (card : TripleDesCard) (key : TripleDesKey) : Bytes := (card.draw key.nonceLength).toList

/-- The first pass. -/
def challenge (card : TripleDesCard) : Bytes → Bytes × TripleDesCard
  | [] => ([0x7E], card)
  | keyNo :: _ =>
    match card.slots keyNo with
    | none => ([0x40], { card with session := none })
    | some key =>
      let nonce := Cbc.sealed key.cipher (Octets.zero 8) (card.rndB key)
      (CardStatus.additionalFrame :: nonce,
        { card with pending := some (keyNo, key, nonce), session := none })

/-- The second pass. The proof chains on from the last block of the card's own challenge, and the
answer from the last block of the proof. -/
def conclude (card : TripleDesCard) (token : Bytes) : Bytes × TripleDesCard :=
  match card.pending with
  | none => ([0x1C], card)
  | some (keyNo, key, nonce) =>
    match readToken key.cipher (Handshake.finalBlock nonce) (card.rndB key) token with
    | .error status => ([status], { card with pending := none })
    | .ok rndA =>
      (CardStatus.ok :: Cbc.sealed key.cipher (Handshake.finalBlock token) (Bytes.rotl rndA),
        { card with
          pending := none
          session := (key.deriveSession rndA (card.rndB key)).toOption.map (keyNo, rndA, ·) })

/-- What the card makes of a frame. -/
def react (card : TripleDesCard) : Bytes → Bytes × TripleDesCard
  | [] => ([0x7E], card)
  | code :: body =>
    if code = 0x1A then card.challenge body
    else if code = CardStatus.additionalFrame then card.conclude body
    else ([0x1C], { card with pending := none })

end TripleDesCard

end CardLink
