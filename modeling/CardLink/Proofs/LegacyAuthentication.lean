import CardLink.Proofs.DerivationInputs
import CardLink.Proofs.HandshakeCards

/-!
# The older authentication, on both sides

Encryption chains across the messages, so each side starts from the last block of the message before
as the other side has it. Nonces are one or two blocks long, as the key asks; nothing here depends
on which.

1. The card answers a request with its nonce (`react_request`), and a proof made from that nonce
   with the host's (`react_legacyProof`).
2. The host makes the proof from the nonce (`prepareLegacyProof_sealed`) and the session from the
   answer (`openLegacySession_eq_ok`).
3. Against any other answer there is no session (`finishLegacy_plays_iff`), and a challenge that
   does not fit the key is not answered (`finishLegacy_of_misfit`, `runLegacy_plays_misfit`).
-/

namespace CardLink

open Handshake Conversation

/-! ## Nonces that fit a key -/

namespace TripleDesKey

variable (key : TripleDesKey)

theorem cipher_invertible : key.cipher.Invertible := by
  cases key <;> exact tripleDes_invertible _ _ _

theorem nonceLength_cases : key.nonceLength = 8 ∨ key.nonceLength = 16 := by
  cases key with
  | twoKey => exact Or.inl rfl
  | threeKey => exact Or.inr rfl

theorem nonceLength_pos : 0 < key.nonceLength := by
  rcases key.nonceLength_cases with h | h <;> omega

theorem nonceLength_aligned : key.nonceLength % 8 = 0 := by
  rcases key.nonceLength_cases with h | h <;> omega

variable {key}

/-- Nonces that fit the key give a session key. -/
theorem deriveSession_of_length {rndA rndB : Bytes} (hA : rndA.length = key.nonceLength)
    (hB : rndB.length = key.nonceLength) :
    ∃ sessionKey, key.deriveSession rndA rndB = .ok sessionKey :=
  ⟨_, deriveSession_eq hA hB⟩

end TripleDesKey

/-! ## The card's side -/

namespace TripleDesCard

/-- The card's nonce as it sends it. -/
def sealedNonce (card : TripleDesCard) (key : TripleDesKey) : Bytes :=
  Cbc.sealed key.cipher (Octets.zero 8) (card.rndB key)

/-- The card after it has sent its challenge. -/
def challenged (card : TripleDesCard) (keyNo : UInt8) (key : TripleDesKey) : TripleDesCard :=
  { card with pending := some (keyNo, key, card.sealedNonce key), session := none }

variable {card : TripleDesCard} {keyNo : UInt8} {key : TripleDesKey}

theorem length_rndB (card : TripleDesCard) (key : TripleDesKey) :
    (card.rndB key).length = key.nonceLength := Octets.length_toList _

theorem length_sealedNonce (card : TripleDesCard) (key : TripleDesKey) :
    (card.sealedNonce key).length = key.nonceLength := by
  have haligned : (card.rndB key).length % 8 = 0 := by
    rw [length_rndB, key.nonceLength_aligned]
  rw [sealedNonce, Cbc.length_sealed haligned, length_rndB]

/-- The proof that answers the card's challenge. -/
def proof (card : TripleDesCard) (key : TripleDesKey) (rndA : Bytes) : Bytes :=
  Cbc.sealed key.cipher (finalBlock (card.sealedNonce key)) (rndA ++ Bytes.rotl (card.rndB key))

theorem react_request (hslot : card.slots keyNo = some key) :
    card.react [0x1A, keyNo] =
      (CardStatus.additionalFrame :: card.sealedNonce key, card.challenged keyNo key) := by
  show card.challenge [keyNo] = _
  simp only [challenge, hslot]
  rfl

theorem aligned_proof {rndA : Bytes} (hA : rndA.length = key.nonceLength) :
    (rndA ++ Bytes.rotl (card.rndB key)).length % 8 = 0 := by
  have haligned := key.nonceLength_aligned
  rw [List.length_append, Bytes.length_rotl, hA, length_rndB]
  omega

theorem react_legacyProof (card : TripleDesCard) (keyNo : UInt8) {rndA : Bytes}
    {sessionKey : TripleDesKey} (hA : rndA.length = key.nonceLength)
    (hkey : key.deriveSession rndA (card.rndB key) = .ok sessionKey) :
    (card.challenged keyNo key).react (Chaining.continuation :: card.proof key rndA) =
      (CardStatus.ok ::
          Cbc.sealed key.cipher (finalBlock (card.proof key rndA)) (Bytes.rotl rndA),
        { card with pending := none, session := some (keyNo, rndA, sessionKey) }) := by
  have htoken : readToken key.cipher (finalBlock (card.sealedNonce key)) (card.rndB key)
      (card.proof key rndA) = .ok rndA :=
    readToken_sealed key.cipher_invertible _ (by rw [hA, length_rndB]) (aligned_proof hA)
  have hnonce : (card.challenged keyNo key).rndB key = card.rndB key := rfl
  show (card.challenged keyNo key).conclude _ = _
  unfold conclude
  simp only [challenged] at hnonce ⊢
  simp only [hnonce, htoken, hkey]
  rfl

end TripleDesCard

/-! ## The host's side -/

namespace Handshake

variable {key : TripleDesKey} {keyNo : UInt8}

theorem prepareLegacyProof_sealed (card : TripleDesCard) (keyNo : UInt8) {rndA : Bytes}
    (hA : rndA.length = key.nonceLength) :
    prepareLegacyProof key ⟨.legacy, keyNo, card.sealedNonce key⟩ rndA =
      .ok (card.rndB key, card.proof key rndA) := by
  have hnonce : legacyNonce key ⟨.legacy, keyNo, card.sealedNonce key⟩ = .ok (card.rndB key) := by
    unfold legacyNonce
    rw [checkLength_eq_ok (u := ()) |>.mpr (card.length_sealedNonce key)]
    refine Cbc.decrypt_sealed key.cipher_invertible ?_
    rw [card.length_rndB, key.nonceLength_aligned]
  have hproof : legacyToken key ⟨.legacy, keyNo, card.sealedNonce key⟩ rndA (card.rndB key) =
      .ok (card.proof key rndA) :=
    Cbc.encrypt_eq_sealed (TripleDesCard.aligned_proof hA)
  unfold prepareLegacyProof Challenge.require
  rw [if_pos rfl, hnonce]
  show (legacyToken key _ rndA (card.rndB key) >>= _) = _
  rw [hproof]
  rfl

/-- A proof is made only from a nonce that fits the key. -/
theorem prepareLegacyProof_ok {ch : Challenge} {rndA : Bytes} {x : Bytes × Bytes}
    (h : prepareLegacyProof key ch rndA = .ok x) : x.1.length = key.nonceLength := by
  obtain ⟨u, -, h⟩ := bind_ok h
  obtain ⟨rndB, hrndB, h⟩ := bind_ok h
  obtain ⟨proof, -, h⟩ := bind_ok h
  cases h
  obtain ⟨u, hlength, hclear⟩ := bind_ok hrndB
  rw [Cbc.length_decrypt hclear, checkLength_eq_ok.mp hlength]

/-- The reply shows that the card knows the key: it is a success with as many bytes as a nonce has,
and decrypted from the last block of the proof they are the host's nonce, rotated. -/
def ProvesLegacy (key : TripleDesKey) (rndA proof reply : Bytes) : Prop :=
  ∃ encrypted, reply = CardStatus.ok :: encrypted ∧ encrypted.length = key.nonceLength ∧
    Cbc.decrypt key.cipher (finalBlock proof) encrypted = .ok (Bytes.rotl rndA)

theorem openLegacySession_eq_ok {rndA rndB proof reply : Bytes} {s : Session} :
    openLegacySession key keyNo rndA rndB proof reply = .ok s ↔
      ProvesLegacy key rndA proof reply ∧ ∃ sessionKey,
        key.deriveSession rndA rndB = .ok sessionKey ∧
          s = Session.start (.tripleDes ⟨sessionKey⟩) keyNo := by
  unfold openLegacySession ProvesLegacy
  simp only [bind_eq_ok, readFinal_eq_ok key.nonceLength_pos, checkProof_eq_ok]
  constructor
  · rintro ⟨encrypted, ⟨hreply, hlength⟩, answer, hclear, u, rfl, sessionKey, hkey, h⟩
    cases h
    exact ⟨⟨encrypted, hreply, hlength, hclear⟩, sessionKey, hkey, rfl⟩
  · rintro ⟨⟨encrypted, hreply, hlength, hclear⟩, sessionKey, hkey, rfl⟩
    exact ⟨encrypted, ⟨hreply, hlength⟩, _, hclear, (), rfl, sessionKey, hkey, rfl⟩

/-! ## Completeness -/

theorem checkKeyNo_ok (hkeyNo : keyNo ≤ maxKeyNo) : checkKeyNo keyNo = .ok () := by
  unfold checkKeyNo
  rw [if_neg (UInt8.not_lt.mpr hkeyNo)]

theorem startLegacy_ofCard {card : TripleDesCard} (hkeyNo : keyNo ≤ maxKeyNo)
    (hslot : card.slots keyNo = some key) :
    (startLegacy keyNo).run.run (.ofCard TripleDesCard.react) card =
      (.ok ⟨.legacy, keyNo, card.sealedNonce key⟩, card.challenged keyNo key) := by
  have hread : readChallenge .legacy keyNo 8 16
      (CardStatus.additionalFrame :: card.sealedNonce key) =
        .ok ⟨.legacy, keyNo, card.sealedNonce key⟩ := by
    refine (readChallenge_eq_ok (by decide) (by decide)).mpr ⟨_, rfl, ?_, rfl⟩
    rw [card.length_sealedNonce]
    exact key.nonceLength_cases
  rw [startLegacy_eq, pass_ofCard (checkKeyNo_ok hkeyNo)]
  simp only [TripleDesCard.react_request hslot, hread]

theorem finishLegacy_ofCard (card : TripleDesCard) (keyNo : UInt8) {sessionKey : TripleDesKey}
    {draw : NonceSource}
    (hkey : key.deriveSession (draw key.nonceLength).toList (card.rndB key) = .ok sessionKey) :
    (finishLegacy key ⟨.legacy, keyNo, card.sealedNonce key⟩ draw).run.run
        (.ofCard TripleDesCard.react) (card.challenged keyNo key) =
      (.ok (Session.start (.tripleDes ⟨sessionKey⟩) keyNo),
        { card with
          pending := none
          session := some (keyNo, (draw key.nonceLength).toList, sessionKey) }) := by
  have hA := (draw key.nonceLength).length_toList
  have haligned : (Bytes.rotl (draw key.nonceLength).toList).length % 8 = 0 := by
    rw [Bytes.length_rotl, hA, key.nonceLength_aligned]
  have hopens : openLegacySession key keyNo (draw key.nonceLength).toList (card.rndB key)
      (card.proof key (draw key.nonceLength).toList)
      (CardStatus.ok :: Cbc.sealed key.cipher
        (finalBlock (card.proof key (draw key.nonceLength).toList))
        (Bytes.rotl (draw key.nonceLength).toList)) =
      .ok (Session.start (.tripleDes ⟨sessionKey⟩) keyNo) := by
    refine openLegacySession_eq_ok.mpr ⟨⟨_, rfl, ?_, ?_⟩, sessionKey, hkey, rfl⟩
    · rw [Cbc.length_sealed haligned, Bytes.length_rotl, hA]
    · exact Cbc.decrypt_sealed key.cipher_invertible haligned
  rw [finishLegacy_eq, pass_ofCard (prepareLegacyProof_sealed card keyNo hA)]
  simp only [card.react_legacyProof keyNo hA hkey, hopens]

/-! ## Soundness -/

/-- The second pass gives a session exactly if its one frame, which carries the host's proof, was
answered with a proof of the card's. -/
theorem finishLegacy_plays_iff (key : TripleDesKey) (ch : Challenge) (draw : NonceSource) :
    (finishLegacy key ch draw).run.Plays fun T r =>
      (∃ s, r = .ok s) ↔ ∃ sent reply, T = [(sent, .ok reply)] ∧
        ProvesLegacy key (draw key.nonceLength).toList sent.tail reply := by
  rw [finishLegacy_eq]
  apply pass_plays_iff
  intro x hx reply
  obtain ⟨sessionKey, hkey⟩ := TripleDesKey.deriveSession_of_length
    (draw key.nonceLength).length_toList (prepareLegacyProof_ok hx)
  constructor
  · rintro ⟨s, hs⟩
    exact (openLegacySession_eq_ok.mp hs).1
  · exact fun h => ⟨_, openLegacySession_eq_ok.mpr ⟨h, sessionKey, hkey, rfl⟩⟩

/-- A challenge that does not fit the key is refused, and nothing is sent. -/
theorem finishLegacy_of_misfit (ch : Challenge) (hkind : ch.kind = .legacy)
    (hmisfit : ch.encryptedNonce.length ≠ key.nonceLength) (draw : NonceSource) :
    (finishLegacy key ch draw).run = .done (.error
      (.wrongLength .encryptedNonce key.nonceLength ch.encryptedNonce.length)) := by
  have hnonce : legacyNonce key ch =
      .error (.wrongLength .encryptedNonce key.nonceLength ch.encryptedNonce.length) := by
    unfold legacyNonce checkLength
    rw [if_neg hmisfit]
    rfl
  have hprepare : prepareLegacyProof key ch (draw key.nonceLength).toList =
      .error (.wrongLength .encryptedNonce key.nonceLength ch.encryptedNonce.length) := by
    unfold prepareLegacyProof Challenge.require
    rw [if_pos hkind, hnonce]
    rfl
  rw [finishLegacy_eq, pass_run, hprepare]

theorem runLegacy_plays_misfit (keyNo : UInt8) (key : TripleDesKey) (draw : NonceSource) :
    (runLegacy keyNo key draw).run.Plays fun T r => ∀ frame nonce more,
      T = (frame, .ok (CardStatus.additionalFrame :: nonce)) :: more →
        nonce.length ≠ key.nonceLength → more = [] ∧ ∃ err, r = .error err := by
  unfold runLegacy
  rw [startLegacy_eq, plays_bind]
  apply pass_plays
  · intro err _ frame nonce more hT
    cases hT
  · intro _ _ r
    cases r with
    | error fault =>
      intro frame nonce more hT
      cases hT
    | ok answer =>
      rw [Delivery.result_ok_bind]
      cases hread : readChallenge .legacy keyNo 8 16 answer with
      | error err =>
        intro frame nonce more hT _
        cases hT
        exact ⟨rfl, err, rfl⟩
      | ok ch =>
        -- The first pass takes either length; only the second one knows which the key asks for.
        obtain ⟨nonce, rfl, -, rfl⟩ := (readChallenge_eq_ok (by decide) (by decide)).mp hread
        by_cases hfits : nonce.length = key.nonceLength
        · refine Dialogue.plays_of_forall (fun T r => ?_) _
          intro frame nonce' more hT hmisfit
          cases hT
          exact absurd hfits hmisfit
        · simp only [finishLegacy_of_misfit ⟨.legacy, keyNo, nonce⟩ rfl hfits]
          intro frame nonce' more hT _
          cases hT
          exact ⟨rfl, _, rfl⟩

/-- **The older authentication agrees on both sides.** Against a card that holds the same key both
passes succeed, and both sides have the session key that the key and the two nonces give. Whatever
handshake is pending and whatever comes back, the second pass gives a session exactly if its frame
was answered with a proof that the card knows the key. A challenge whose length does not fit the key
is refused before the second frame, whether it is pending or has just come in. -/
theorem legacy_authentication (key : TripleDesKey) (draw : NonceSource) :
    (∀ (card : TripleDesCard) (keyNo : UInt8), keyNo ≤ maxKeyNo → card.slots keyNo = some key →
      ∃ sessionKey,
        key.deriveSession (draw key.nonceLength).toList (card.rndB key) = .ok sessionKey ∧
        (startLegacy keyNo >>= fun ch => finishLegacy key ch draw).run.run
            (.ofCard TripleDesCard.react) card =
          (.ok (Session.start (.tripleDes ⟨sessionKey⟩) keyNo),
            { card with
              pending := none
              session := some (keyNo, (draw key.nonceLength).toList, sessionKey) })) ∧
    (∀ (ch : Challenge) {σ : Type} (t : Transport σ) (w : σ),
      (∃ s, ((finishLegacy key ch draw).run.run t w).1 = .ok s) ↔
        ∃ sent reply, (finishLegacy key ch draw).run.transcript t w = [(sent, .ok reply)] ∧
          ProvesLegacy key (draw key.nonceLength).toList sent.tail reply) ∧
    (∀ ch : Challenge, ch.kind = .legacy → ch.encryptedNonce.length ≠ key.nonceLength →
      (finishLegacy key ch draw).run = .done (.error
        (.wrongLength .encryptedNonce key.nonceLength ch.encryptedNonce.length))) ∧
    ∀ (keyNo : UInt8) {σ : Type} (t : Transport σ) (w : σ) (sent nonce : Bytes) (more : Transcript),
      (runLegacy keyNo key draw).run.transcript t w =
          (sent, .ok (CardStatus.additionalFrame :: nonce)) :: more →
        nonce.length ≠ key.nonceLength →
          more = [] ∧ ∃ err, ((runLegacy keyNo key draw).run.run t w).1 = .error err := by
  refine ⟨?_, ?_, ?_, ?_⟩
  · intro card keyNo hkeyNo hslot
    obtain ⟨sessionKey, hkey⟩ := TripleDesKey.deriveSession_of_length
      (draw key.nonceLength).length_toList (card.length_rndB key)
    refine ⟨sessionKey, hkey, ?_⟩
    rw [run_bind_ok (startLegacy_ofCard hkeyNo hslot)]
    exact finishLegacy_ofCard card keyNo hkey
  · exact fun ch σ t w => (finishLegacy_plays_iff key ch draw).run t w
  · exact fun ch hkind hmisfit => finishLegacy_of_misfit ch hkind hmisfit draw
  · exact fun keyNo σ t w => (runLegacy_plays_misfit keyNo key draw).run t w

/-! ### A card with a key of three parts -/

/-- A card whose slots all hold the same key of three parts. -/
def threeKeyCard : TripleDesCard where
  slots _ := some (.threeKey (Octets.fit 24 (List.range 24 |>.map UInt8.ofNat)))
  draw := .repeating [0xB0, 0xB1, 0xB2]

theorem legacy_authentication_threeKeyCard :
    let key : TripleDesKey := .threeKey (Octets.fit 24 (List.range 24 |>.map UInt8.ofNat))
    let draw : NonceSource := .repeating [0xA0, 0xA1, 0xA2, 0xA3]
    let short : Challenge := ⟨.legacy, 0, Bytes.zeros 8⟩
    let w : Script := { replies := [.ok (CardStatus.additionalFrame :: Bytes.zeros 8)] }
    (0 : UInt8) ≤ maxKeyNo ∧ threeKeyCard.slots 0 = some key ∧
      (∃ sessionKey,
        key.deriveSession (draw key.nonceLength).toList (threeKeyCard.rndB key) = .ok sessionKey ∧
        (startLegacy 0 >>= fun ch => finishLegacy key ch draw).run.run
            (.ofCard TripleDesCard.react) threeKeyCard =
          (.ok (Session.start (.tripleDes ⟨sessionKey⟩) 0),
            { threeKeyCard with
              pending := none
              session := some (0, (draw key.nonceLength).toList, sessionKey) })) ∧
      (finishLegacy key short draw).run = .done (.error (.wrongLength .encryptedNonce 16 8)) ∧
      ∃ err, ((runLegacy 0 key draw).run.run Script.transport w).1 = .error err :=
  ⟨by decide, rfl, (legacy_authentication _ _).1 threeKeyCard 0 (by decide) rfl,
    (legacy_authentication _ _).2.2.1 _ rfl (by decide),
    ((legacy_authentication _ _).2.2.2 0 Script.transport _ _ _ _ rfl (by decide)).2⟩

end Handshake

end CardLink
