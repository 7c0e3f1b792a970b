import CardLink.Proofs.HandshakeCards

/-!
# The first authentication, on both sides

Completeness is shown pass by pass, each side's frame from what it holds. Soundness is a property of
the host's judgement alone, whatever stands on the other side.

1. The card answers a request with its nonce (`react_firstRequest`), and a proof made from that
   nonce with the host's (`react_proof`).
2. The host makes the proof from the nonce (`prepareProof_sealed`) and the session from the answer
   (`openSession_sealed`).
3. Against any other answer there is no session (`finishFirst_plays_iff`).
-/

namespace CardLink

open Handshake Conversation

/-! ## The card's side -/

theorem slotOf_keyRef {keyNo : UInt8} (h : keyNo ≤ maxKeyNo) (secondApplication : Bool) :
    (keyNo ||| if secondApplication then 0x80 else 0) &&& 0x7F = keyNo := by
  -- The key number is a byte, so the top bit can be checked number by number.
  have hall : ∀ (k : Fin 256) (b : Bool), UInt8.ofFin k ≤ maxKeyNo →
      (UInt8.ofFin k ||| if b then 0x80 else 0) &&& 0x7F = UInt8.ofFin k := by
    decide +kernel
  exact hall keyNo.toFin secondApplication h

namespace AesCard

variable {card : AesCard} {keyNo : UInt8} {key : AesKey}

/-- The card after it has sent its challenge. -/
def challenged (card : AesCard) (keyNo : UInt8) (key : AesKey) (capabilities : Bytes) : AesCard :=
  { card with pending := some (keyNo, key, card.heard capabilities), session := none }

/-- The card after it has accepted a proof. -/
def opened (card : AesCard) (keyNo : UInt8) (key : AesKey) (rndA : Nonce) : AesCard :=
  { card with
    pending := none
    session := some (keyNo, rndA, SessionKeys.derive key rndA card.rndB) }

theorem react_firstRequest (hkeyNo : keyNo ≤ maxKeyNo) (hslot : card.slots keyNo = some key)
    (secondApplication : Bool) (capabilities : Bytes) :
    card.react (firstRequest keyNo secondApplication capabilities) =
      (CardStatus.additionalFrame :: Cbc.sealed (aes key) zeroIv card.rndB.toList,
        card.challenged keyNo key capabilities) := by
  show card.challenge (_ :: _ :: capabilities) = _
  unfold challenge
  simp only [slotOf_keyRef hkeyNo, hslot]
  rfl

theorem react_proof (keyNo : UInt8) (key : AesKey) (capabilities : Bytes) (rndA : Nonce) :
    (card.challenged keyNo key capabilities).react
        (Chaining.continuation ::
          Cbc.sealed (aes key) zeroIv (rndA.toList ++ Bytes.rotl card.rndB.toList)) =
      (CardStatus.ok ::
          Cbc.sealed (aes key) zeroIv (card.answer rndA (card.heard capabilities)),
        card.opened keyNo key rndA) := by
  have htoken := readToken_sealed (aes_invertible key) zeroIv
    (show rndA.toList.length = card.rndB.toList.length by simp) (by simp)
  show (card.challenged keyNo key capabilities).conclude _ = _
  simp only [conclude, challenged, htoken, Octets.fit_toList]
  rfl

end AesCard

/-! ## The host's side -/

namespace Handshake

/-- From a challenge that is the card's nonce under the key, the host reads that nonce. -/
theorem prepareProof_sealed {kind : Handshake} (keyNo : UInt8) (key : AesKey) (rndA rndB : Nonce) :
    prepareProof kind key ⟨kind, keyNo, Cbc.sealed (aes key) zeroIv rndB.toList⟩ rndA =
      .ok (rndB, Cbc.sealed (aes key) zeroIv (rndA.toList ++ Bytes.rotl rndB.toList)) := by
  have hnonce : cardNonce key ⟨kind, keyNo, Cbc.sealed (aes key) zeroIv rndB.toList⟩ = .ok rndB :=
    cardNonce_eq_ok.mpr (Cbc.decrypt_sealed (aes_invertible key) (by simp))
  have hproof : token key rndA rndB =
      .ok (Cbc.sealed (aes key) zeroIv (rndA.toList ++ Bytes.rotl rndB.toList)) :=
    Cbc.encrypt_eq_sealed (by simp [Octets.rotl])
  unfold prepareProof Challenge.require
  rw [if_pos rfl, hnonce]
  show (token key rndA rndB >>= _) = _
  rw [hproof]
  rfl

/-- The session that both sides of a first authentication agree on. -/
def agreedSession (card : AesCard) (keyNo : UInt8) (key : AesKey) (rndA : Nonce)
    (capabilities : Bytes) : Session where
  protection := some (.aes
    { keys := SessionKeys.derive key rndA card.rndB, ti := card.ti, counter := .start })
  keyNo := keyNo
  cardCapabilities := card.capabilities
  readerCapabilities := card.heard capabilities

theorem ofBytes_answer (card : AesCard) (rndA : Nonce) (heard : Capabilities) :
    FirstAnswer.ofBytes (card.answer rndA heard) =
      ⟨card.ti, rndA.rotl.toList, card.capabilities, heard⟩ := by
  have h4 : (card.answer rndA heard).drop 4 =
      rndA.rotl.toList ++ (card.capabilities.toList ++ heard.toList) := by
    rw [AesCard.answer, List.append_assoc, List.append_assoc]
    exact List.drop_left' card.ti.length_toList
  have h20 : (card.answer rndA heard).drop 20 = card.capabilities.toList ++ heard.toList := by
    rw [AesCard.answer, List.append_assoc]
    exact List.drop_left' (by simp)
  have h26 : (card.answer rndA heard).drop 26 = heard.toList := List.drop_left' (by simp)
  have h0 : Octets.fit 4 (card.answer rndA heard) = card.ti := by
    rw [AesCard.answer, List.append_assoc, List.append_assoc]
    exact Octets.fit_append card.ti _
  unfold FirstAnswer.ofBytes
  rw [h0, h4, h20, h26, Octets.fit_append, Octets.fit_toList,
    List.take_left' rndA.rotl.length_toList]

theorem length_answer (card : AesCard) (rndA : Nonce) (heard : Capabilities) :
    (card.answer rndA heard).length = 32 := by
  simp [AesCard.answer]

/-- From the card's answer the host opens the session that the card has opened. -/
theorem openSession_sealed (card : AesCard) (keyNo : UInt8) (key : AesKey) (rndA : Nonce)
    (capabilities : Bytes) :
    openSession key keyNo rndA card.rndB (CardStatus.ok ::
        Cbc.sealed (aes key) zeroIv (card.answer rndA (card.heard capabilities))) =
      .ok (agreedSession card keyNo key rndA capabilities) := by
  have haligned : (card.answer rndA (card.heard capabilities)).length % 16 = 0 := by
    rw [length_answer]
  refine openSession_eq_ok.mpr ⟨_, card.answer rndA (card.heard capabilities), rfl, ?_, ?_, ?_, ?_⟩
  · rw [Cbc.length_sealed haligned, length_answer]
  · exact Cbc.decrypt_sealed (aes_invertible key) haligned
  · exact congrArg FirstAnswer.proof (ofBytes_answer card rndA (card.heard capabilities))
  · rw [ofBytes_answer]
    rfl

/-! ## Completeness -/

theorem checkFirst_ok {keyNo : UInt8} {capabilities : Bytes} (hkeyNo : keyNo ≤ maxKeyNo)
    (hcapabilities : capabilities.length ≤ 6) : checkFirst keyNo capabilities = .ok () := by
  unfold checkFirst checkKeyNo
  rw [if_neg (UInt8.not_lt.mpr hkeyNo), if_neg (Nat.not_lt.mpr hcapabilities)]
  rfl

variable {card : AesCard} {keyNo : UInt8} {key : AesKey} {capabilities : Bytes}

theorem startFirst_ofCard (hkeyNo : keyNo ≤ maxKeyNo) (hcapabilities : capabilities.length ≤ 6)
    (hslot : card.slots keyNo = some key) (secondApplication : Bool) :
    (startFirst keyNo secondApplication capabilities).run.run (.ofCard AesCard.react) card =
      (.ok ⟨.first, keyNo, Cbc.sealed (aes key) zeroIv card.rndB.toList⟩,
        card.challenged keyNo key capabilities) := by
  have hread : readChallenge .first keyNo 16 16
      (CardStatus.additionalFrame :: Cbc.sealed (aes key) zeroIv card.rndB.toList) =
        .ok ⟨.first, keyNo, Cbc.sealed (aes key) zeroIv card.rndB.toList⟩ := by
    refine (readChallenge_eq_ok (by decide) (by decide)).mpr ⟨_, rfl, Or.inl ?_, rfl⟩
    rw [Cbc.length_sealed (by simp), Octets.length_toList]
  rw [startFirst_eq, pass_ofCard (checkFirst_ok hkeyNo hcapabilities)]
  simp only [AesCard.react_firstRequest hkeyNo hslot, hread]

theorem finishFirst_ofCard (card : AesCard) (keyNo : UInt8) (key : AesKey) (capabilities : Bytes)
    (draw : NonceSource) :
    (finishFirst key ⟨.first, keyNo, Cbc.sealed (aes key) zeroIv card.rndB.toList⟩ draw).run.run
        (.ofCard AesCard.react) (card.challenged keyNo key capabilities) =
      (.ok (agreedSession card keyNo key (draw 16) capabilities),
        card.opened keyNo key (draw 16)) := by
  rw [finishFirst_eq, pass_ofCard (prepareProof_sealed keyNo key (draw 16) card.rndB)]
  simp only [AesCard.react_proof, openSession_sealed]

/-! ## Soundness -/

/-- The reply shows that the card knows the key: it is a success with 32 bytes, and decrypted they
hold the host's nonce, rotated, after the first four bytes. -/
def Proves (key : AesKey) (rndA : Nonce) (reply : Bytes) : Prop :=
  ∃ encrypted answer, reply = CardStatus.ok :: encrypted ∧ encrypted.length = 32 ∧
    Cbc.decrypt (aes key) zeroIv encrypted = .ok answer ∧
    (answer.drop 4).take 16 = Bytes.rotl rndA.toList

theorem openSession_ok_iff {rndA rndB : Nonce} {reply : Bytes} :
    (∃ s, openSession key keyNo rndA rndB reply = .ok s) ↔ Proves key rndA reply := by
  simp only [openSession_eq_ok]
  constructor
  · rintro ⟨s, encrypted, answer, hreply, hlength, hclear, hproof, -⟩
    exact ⟨encrypted, answer, hreply, hlength, hclear, hproof⟩
  · rintro ⟨encrypted, answer, hreply, hlength, hclear, hproof⟩
    exact ⟨_, encrypted, answer, hreply, hlength, hclear, hproof, rfl⟩

/-- The second pass gives a session exactly if its one frame was answered with a proof. -/
theorem finishFirst_plays_iff (key : AesKey) (ch : Challenge) (draw : NonceSource) :
    (finishFirst key ch draw).run.Plays fun T r =>
      (∃ s, r = .ok s) ↔ ∃ sent reply, T = [(sent, .ok reply)] ∧ Proves key (draw 16) reply := by
  rw [finishFirst_eq]
  exact pass_plays_iff fun _ _ _ => openSession_ok_iff

/-- **The first authentication is complete and sound.** Against a card that holds the same key both
passes succeed: the card accepts the proof and recovers the host's nonce, and the host's session has
the card's transaction, both capabilities, a fresh counter, the slot asked for, and the keys that
the card has derived. And whatever handshake is pending and whatever comes back, the second pass
gives a session exactly if its frame was answered with a proof that the card knows the key. -/
theorem first_authentication (key : AesKey) (draw : NonceSource) :
    (∀ (card : AesCard) (keyNo : UInt8) (secondApplication : Bool) (capabilities : Bytes),
      keyNo ≤ maxKeyNo → capabilities.length ≤ 6 → card.slots keyNo = some key →
      (startFirst keyNo secondApplication capabilities >>= fun ch =>
          finishFirst key ch draw).run.run (.ofCard AesCard.react) card =
        (.ok (agreedSession card keyNo key (draw 16) capabilities),
          card.opened keyNo key (draw 16))) ∧
    ∀ (ch : Challenge) {σ : Type} (t : Transport σ) (w : σ),
      (∃ s, ((finishFirst key ch draw).run.run t w).1 = .ok s) ↔
        ∃ sent reply, (finishFirst key ch draw).run.transcript t w = [(sent, .ok reply)] ∧
          Proves key (draw 16) reply := by
  constructor
  · intro card keyNo secondApplication capabilities hkeyNo hcapabilities hslot
    rw [run_bind_ok (startFirst_ofCard hkeyNo hcapabilities hslot secondApplication)]
    exact finishFirst_ofCard card keyNo key capabilities draw
  · exact fun ch σ t w => (finishFirst_plays_iff key ch draw).run t w

/-! ### A factory card -/

/-- A card as it leaves the factory. -/
def factoryCard : AesCard where
  slots keyNo := if keyNo ≤ 4 then some AesKey.factory else none
  rndB := Octets.fit 16 [0xB9, 0xE2, 0xFC, 0x78, 0x9B, 0x64, 0xBF, 0x23, 0x7C, 0xCC, 0xAA, 0x20]
  ti := Octets.fit 4 [0x9D, 0x00, 0xC4, 0xDF]
  capabilities := Octets.zero 6
  heard := Octets.fit 6

theorem first_authentication_factoryCard :
    let draw : NonceSource := .repeating [0x13, 0xC5, 0xDB, 0x8A]
    (0 : UInt8) ≤ maxKeyNo ∧ factoryCard.slots 0 = some AesKey.factory ∧
      (startFirst 0 false [1, 2] >>= fun ch =>
          finishFirst AesKey.factory ch draw).run.run (.ofCard AesCard.react) factoryCard =
        (.ok (agreedSession factoryCard 0 AesKey.factory (draw 16) [1, 2]),
          factoryCard.opened 0 AesKey.factory (draw 16)) :=
  ⟨by decide, rfl, (first_authentication AesKey.factory _).1 factoryCard 0 false [1, 2]
    (by decide) (by decide) rfl⟩

end Handshake

end CardLink
