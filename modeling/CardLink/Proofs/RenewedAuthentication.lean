import CardLink.Proofs.FailedExchanges
import CardLink.Proofs.FirstAuthentication
import CardLink.Proofs.Lockstep

/-!
# The renewed authentication, on both sides

A renewed authentication changes the keys of a session and its slot, and nothing else. The host
works on the session itself and changes one after the other, but only once the card has proved that
it knows the key and the session turned out to be one that can be renewed. Nothing after the first
change can fail, so a pass that fails leaves no trace.

1. A second pass succeeds only with a proof of the card and in an EV2 session
   (`finishRenewal_renews`).
2. The card answers a request with its nonce (`react_renewalRequest`) and a proof with the host's
   (`react_renewalProof`), and keeps transaction and counter.
3. Both passes take host and card from one agreement to the next (`runRenewal_ofCard`), or leave
   the session as it was (`runRenewal_kept`).
-/

namespace CardLink

open Handshake Conversation

/-! ## The second pass -/

namespace Session

/-- The reply shows that the card knows the key: it is a success with 16 bytes, and decrypted they
are the host's nonce, rotated. -/
def Returns (key : AesKey) (rndA : Nonce) (reply : Bytes) : Prop :=
  ∃ encrypted, reply = CardStatus.ok :: encrypted ∧ encrypted.length = 16 ∧
    Cbc.decrypt (aes key) zeroIv encrypted = .ok (Bytes.rotl rndA.toList)

/-- The session under the keys of a renewed authentication: what else the protection holds is as
before, and so is the rest of the session but its slot. -/
def withKeys (s : Session) (p : AesProtection) (keys : SessionKeys) (keyNo : UInt8) : Session :=
  { s with protection := some (.aes { keys, ti := p.ti, counter := p.counter }), keyNo }

/-- What a second pass does to a session, by the frames of a play and the result. -/
structure Renews (s : Session) (key : AesKey) (ch : Challenge) (rndA : Nonce) (T : Transcript)
    (e : Except Error Unit × Session) : Prop where
  /-- A pass that fails leaves the session as it was. -/
  kept : ∀ err, e.1 = .error err → e.2 = s
  /-- It succeeds exactly in an EV2 session, with a challenge of its handshake, if its one frame was
  answered with a proof that the card knows the key. -/
  succeeds : e.1 = .ok () ↔ (∃ p, s.protection = some (.aes p)) ∧ ch.kind = .renewal ∧
    ∃ sent reply, T = [(sent, .ok reply)] ∧ Returns key rndA reply
  /-- Keys and slot are then those of the handshake. -/
  renewed : e.1 = .ok () → ∃ p rndB, s.protection = some (.aes p) ∧
    Cbc.decrypt (aes key) zeroIv ch.encryptedNonce = .ok rndB.toList ∧
    e.2 = s.withKeys p (SessionKeys.derive key rndA rndB) ch.keyNo

variable {s : Session} {key : AesKey} {ch : Challenge} {rndA : Nonce}

/-- A pass that failed, where some condition of a success does not hold. -/
theorem renews_of_error {T : Transcript} {err : Error}
    (h : ∀ p sent reply, s.protection = some (.aes p) → ch.kind = .renewal →
      T = [(sent, .ok reply)] → ¬ Returns key rndA reply) :
    s.Renews key ch rndA T (.error err, s) where
  kept _ _ := rfl
  succeeds := by
    refine iff_of_false (fun hok => by cases hok) ?_
    rintro ⟨⟨p, hp⟩, hkind, sent, reply, hT, hreturns⟩
    exact h p sent reply hp hkind hT hreturns
  renewed hok := by cases hok

/-- From a proof of the card an EV2 session takes its new keys. -/
theorem renewSession_of_returns {p : AesProtection} (hp : s.protection = some (.aes p))
    {reply : Bytes} (h : Returns key rndA reply) (keyNo : UInt8) (rndB : Nonce) :
    renewSession s key keyNo rndA rndB reply =
      .ok (s.withKeys p (SessionKeys.derive key rndA rndB) keyNo) := by
  obtain ⟨encrypted, hreply, hlength, hclear⟩ := h
  exact renewSession_eq_ok.mpr ⟨encrypted, p, hreply, hlength, hclear, hp, rfl⟩

theorem finishRenewal_renews (s : Session) (key : AesKey) (ch : Challenge) (draw : NonceSource) :
    ((finishRenewal key ch draw).start s).Plays (s.Renews key ch (draw 16)) := by
  rw [finishRenewal_eq, Action.plays_replace]
  refine pass_plays ?_ ?_
  · exact fun err _ => renews_of_error fun p sent reply _ _ hT => by cases hT
  · intro x hx r
    have hkind : ch.kind = .renewal := (prepareProof_ok_iff.mp ⟨x, hx⟩).1
    cases r with
    | error fault => exact renews_of_error fun p sent reply _ _ hT => by cases hT
    | ok reply =>
      rw [Delivery.result_ok_bind]
      cases hrenew : renewSession s key ch.keyNo (draw 16) x.1 reply with
      | error err =>
        refine renews_of_error fun p sent reply' hp _ hT hreturns => ?_
        cases hT
        rw [renewSession_of_returns hp hreturns] at hrenew
        cases hrenew
      | ok s' =>
        obtain ⟨encrypted, p, hreply, hlength, hclear, hp, rfl⟩ := renewSession_eq_ok.mp hrenew
        refine ⟨fun err herr => (by cases herr), iff_of_true rfl ?_, fun _ => ?_⟩
        · exact ⟨⟨p, hp⟩, hkind, _, reply, rfl, encrypted, hreply, hlength, hclear⟩
        · exact ⟨p, x.1, hp, prepareProof_ok hx, rfl⟩

end Session

/-! ## The card's side -/

/-- A card in an EV2 session whose keys can be renewed. -/
structure RenewingCard where
  slots : UInt8 → Option AesKey
  rndB : Nonce
  /-- The card between two commands. -/
  card : HonestCard
  /-- The slot that the session is authenticated with. -/
  keyNo : UInt8
  /-- The slot and its key while the card waits for a proof. -/
  pending : Option (UInt8 × AesKey) := none

namespace RenewingCard

/-- The card without a session. -/
def giveUp (c : RenewingCard) : RenewingCard := { c with card := c.card.giveUp, pending := none }

/-- The card after it has sent its challenge. -/
def challenged (c : RenewingCard) (keyNo : UInt8) (key : AesKey) : RenewingCard :=
  { c with pending := some (keyNo, key) }

/-- The card after it has accepted a proof: transaction and counter are as before. -/
def renewed (c : RenewingCard) (keyNo : UInt8) (keys : SessionKeys) : RenewingCard :=
  { c with
    card := { c.card with link := c.card.link.map fun p => { p with keys } }
    keyNo := keyNo
    pending := none }

/-- The first pass, which needs a session. -/
def challenge (c : RenewingCard) : Bytes → Bytes × RenewingCard
  | [] => ([0x7E], c)
  | keyRef :: _ =>
    let keyNo := keyRef &&& 0x7F
    match c.card.link, c.slots keyNo with
    | none, _ => ([0x9D], c)
    | some _, none => ([0x40], c.giveUp)
    | some _, some key =>
      (CardStatus.additionalFrame :: Cbc.sealed (aes key) zeroIv c.rndB.toList,
        c.challenged keyNo key)

/-- The second pass. -/
def conclude (c : RenewingCard) (token : Bytes) : Bytes × RenewingCard :=
  match c.pending with
  | none => ([0x1C], c)
  | some (keyNo, key) =>
    match readToken (aes key) zeroIv c.rndB.toList token with
    | .error status => ([status], c.giveUp)
    | .ok bytes =>
      let rndA : Nonce := Octets.fit 16 bytes
      (CardStatus.ok :: Cbc.sealed (aes key) zeroIv rndA.rotl.toList,
        c.renewed keyNo (SessionKeys.derive key rndA c.rndB))

/-- What the card makes of a frame of the handshake. -/
def react (c : RenewingCard) : Bytes → Bytes × RenewingCard
  | [] => ([0x7E], c)
  | code :: body =>
    if code = 0x77 then c.challenge body
    else if code = CardStatus.additionalFrame then c.conclude body
    else ([0x1C], { c with pending := none })

variable {c : RenewingCard} {keyNo : UInt8} {key : AesKey} {p : AesProtection}

theorem react_renewalRequest (hkeyNo : keyNo ≤ maxKeyNo) (hslot : c.slots keyNo = some key)
    (hlink : c.card.link = some p) :
    c.react [0x77, keyNo] =
      (CardStatus.additionalFrame :: Cbc.sealed (aes key) zeroIv c.rndB.toList,
        c.challenged keyNo key) := by
  have hkeyRef : keyNo &&& 0x7F = keyNo := by
    simpa using slotOf_keyRef hkeyNo false
  show c.challenge [keyNo] = _
  unfold challenge
  simp only [hkeyRef, hslot, hlink]

theorem react_renewalProof (c : RenewingCard) (keyNo : UInt8) (key : AesKey) (rndA : Nonce) :
    (c.challenged keyNo key).react (Chaining.continuation ::
        Cbc.sealed (aes key) zeroIv (rndA.toList ++ Bytes.rotl c.rndB.toList)) =
      (CardStatus.ok :: Cbc.sealed (aes key) zeroIv rndA.rotl.toList,
        c.renewed keyNo (SessionKeys.derive key rndA c.rndB)) := by
  have htoken := readToken_sealed (aes_invertible key) zeroIv
    (show rndA.toList.length = c.rndB.toList.length by simp) (by simp)
  show (c.challenged keyNo key).conclude _ = _
  simp only [conclude, challenged, htoken, Octets.fit_toList]
  rfl

end RenewingCard

/-! ## Both sides -/

namespace Session

variable {s : Session} {c : RenewingCard} {keyNo : UInt8} {key : AesKey} {p : AesProtection}

theorem checkRenewal_eq_ok (hkeyNo : keyNo ≤ maxKeyNo) (hs : s.protection = some (.aes p)) :
    checkRenewal s keyNo = .ok () := by
  unfold checkRenewal checkKeyNo
  rw [if_neg (UInt8.not_lt.mpr hkeyNo), requireAes_eq_ok.mpr hs]
  rfl

theorem startRenewal_ofCard (hkeyNo : keyNo ≤ maxKeyNo) (hslot : c.slots keyNo = some key)
    (hs : s.protection = some (.aes p)) (hlink : c.card.link = some p) :
    (startRenewal s keyNo).run.run (.ofCard RenewingCard.react) c =
      (.ok ⟨.renewal, keyNo, Cbc.sealed (aes key) zeroIv c.rndB.toList⟩,
        c.challenged keyNo key) := by
  have hread : readChallenge .renewal keyNo 16 16
      (CardStatus.additionalFrame :: Cbc.sealed (aes key) zeroIv c.rndB.toList) =
        .ok ⟨.renewal, keyNo, Cbc.sealed (aes key) zeroIv c.rndB.toList⟩ := by
    refine (readChallenge_eq_ok (by decide) (by decide)).mpr ⟨_, rfl, Or.inl ?_, rfl⟩
    rw [Cbc.length_sealed (by simp), Octets.length_toList]
  rw [startRenewal_eq, pass_ofCard (checkRenewal_eq_ok hkeyNo hs)]
  simp only [RenewingCard.react_renewalRequest hkeyNo hslot hlink, hread]

/-- The card's answer proves that it knows the key. -/
theorem returns_sealed (key : AesKey) (rndA : Nonce) :
    Returns key rndA (CardStatus.ok :: Cbc.sealed (aes key) zeroIv rndA.rotl.toList) := by
  have haligned : rndA.rotl.toList.length % 16 = 0 := by simp
  refine ⟨_, rfl, ?_, Cbc.decrypt_sealed (aes_invertible key) haligned⟩
  rw [Cbc.length_sealed haligned, Octets.length_toList]

theorem renewalPass_ofCard (hs : s.protection = some (.aes p)) (c : RenewingCard)
    (keyNo : UInt8) (key : AesKey) (draw : NonceSource) :
    (renewalPass s key ⟨.renewal, keyNo, Cbc.sealed (aes key) zeroIv c.rndB.toList⟩
        draw).run.run (.ofCard RenewingCard.react) (c.challenged keyNo key) =
      (.ok (s.withKeys p (SessionKeys.derive key (draw 16) c.rndB) keyNo),
        c.renewed keyNo (SessionKeys.derive key (draw 16) c.rndB)) := by
  unfold renewalPass
  rw [pass_ofCard (prepareProof_sealed keyNo key (draw 16) c.rndB)]
  simp only [RenewingCard.react_renewalProof, renewSession_of_returns hs (returns_sealed _ _)]

theorem runRenewal_ofCard (hkeyNo : keyNo ≤ maxKeyNo) (hslot : c.slots keyNo = some key)
    (hs : s.protection = some (.aes p)) (hlink : c.card.link = some p) (draw : NonceSource) :
    ((runRenewal keyNo key draw).start s).run (.ofCard RenewingCard.react) c =
      ((.ok (), s.withKeys p (SessionKeys.derive key (draw 16) c.rndB) keyNo),
        c.renewed keyNo (SessionKeys.derive key (draw 16) c.rndB)) := by
  rw [runRenewal_eq, Action.start_replace, Dialogue.run_bind]
  unfold renewalPasses
  rw [run_bind_ok (startRenewal_ofCard hkeyNo hslot hs hlink), renewalPass_ofCard hs]
  rfl

/-- A renewed authentication that fails, in whichever pass, leaves the session as it was. -/
theorem runRenewal_kept (keyNo : UInt8) (key : AesKey) (draw : NonceSource) (s : Session) :
    ((runRenewal keyNo key draw).start s).Plays fun _ e => ∀ err, e.1 = .error err → e.2 = s := by
  rw [runRenewal_eq]
  exact Action.replace_kept _ s

/-- **The renewed authentication.** Whatever session and challenge there are and whatever comes
back: a second pass that fails leaves the session as it was. It succeeds exactly in an EV2 session
and with a challenge of its handshake, if its frame was answered with a proof that the card knows
the key; the keys are then those that key and nonces give, the slot is that of the challenge, and
all else is as before. Both passes together leave the session as it was, too, if either fails.
Against a card that holds the key and is in step both passes succeed, and then host and card are in
step under the new keys, at the counter they were at. -/
theorem renewed_authentication (key : AesKey) (draw : NonceSource) :
    (∀ (s : Session) (ch : Challenge) {σ : Type} (t : Transport σ) (w : σ),
      let d := (finishRenewal key ch draw).start s
      s.Renews key ch (draw 16) (d.transcript t w) (d.run t w).1) ∧
    (∀ (s : Session) (keyNo : UInt8) {σ : Type} (t : Transport σ) (w : σ) (err : Error),
      let e := (((runRenewal keyNo key draw).start s).run t w).1
      e.1 = .error err → e.2 = s) ∧
    ∀ (s : Session) (c : RenewingCard) (keyNo : UInt8),
      keyNo ≤ maxKeyNo → c.slots keyNo = some key → InStep s c.card →
      ∃ p s' c', let keys := SessionKeys.derive key (draw 16) c.rndB
        s.protection = some (.aes p) ∧
        ((runRenewal keyNo key draw).start s).run (.ofCard RenewingCard.react) c =
          ((.ok (), s'), c') ∧
        s' = s.withKeys p keys keyNo ∧ InStep s' c'.card ∧
        c'.card.link = some { keys, ti := p.ti, counter := p.counter } ∧ c'.keyNo = keyNo := by
  refine ⟨fun s ch σ t w => (finishRenewal_renews s key ch draw).run t w,
    fun s keyNo σ t w => (runRenewal_kept keyNo key draw s).run t w, ?_⟩
  rintro s c keyNo hkeyNo hslot ⟨p, hs, hlink, hreceived, hqueue⟩
  have hlink' : (c.renewed keyNo (SessionKeys.derive key (draw 16) c.rndB)).card.link =
      some { p with keys := SessionKeys.derive key (draw 16) c.rndB } := by
    simp only [RenewingCard.renewed, hlink, Option.map_some]
  exact ⟨p, _, _, hs, runRenewal_ofCard hkeyNo hslot hs hlink draw, rfl,
    ⟨_, rfl, hlink', hreceived, hqueue⟩, hlink', rfl⟩

/-! ### A session under the zero key -/

/-- A card in step with the session under AES. -/
def renewingCard : RenewingCard where
  slots keyNo := if keyNo ≤ 4 then some AesKey.factory else none
  rndB := Octets.fit 16 [0xB9, 0xE2, 0xFC, 0x78]
  card := { link := some samplePeer }
  keyNo := 0

/-- Both passes succeed with that card; a reader that fails at the second leaves the session. -/
theorem renewed_authentication_renewingCard :
    let draw : NonceSource := .repeating [0x13, 0xC5, 0xDB, 0x8A]
    let run := (runRenewal 1 AesKey.factory draw).start sample
    let w : Script := .failingAfter (CardStatus.additionalFrame :: List.replicate 16 0) .timeout
    (run.run Script.transport w).1 = (.error (.transport .timeout), sample) ∧
      (1 : UInt8) ≤ maxKeyNo ∧ renewingCard.slots 1 = some AesKey.factory ∧
      InStep sample renewingCard.card ∧ ∃ s' c',
        run.run (.ofCard RenewingCard.react) renewingCard = ((.ok (), s'), c') ∧
          InStep s' c'.card := by
  intro draw run w
  obtain ⟨-, hkept, hrenews⟩ := renewed_authentication AesKey.factory draw
  have hfails : (run.run Script.transport w).1.1 = .error (.transport .timeout) := by
    decide +kernel
  have hstep : InStep sample renewingCard.card := ⟨samplePeer, rfl, rfl, rfl, rfl⟩
  obtain ⟨p, s', c', -, hrun, -, hstep', -⟩ := hrenews sample renewingCard 1 (by decide) rfl hstep
  exact ⟨Prod.ext hfails (hkept sample 1 _ _ _ hfails), by decide, rfl, hstep, s', c', hrun,
    hstep'⟩

end Session

end CardLink
