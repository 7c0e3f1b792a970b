import CardLink.Proofs.Passes

/-!
# What an AES handshake agrees on

An agreement keeps what both passes of a handshake under AES have shown: the key and slot, the
host's nonce, and the card's two messages as they came in. Transaction and session keys are
functions of it. A second pass that succeeds makes its session of an agreement and of nothing else.
-/

namespace CardLink

/-- The record of a handshake under AES. -/
structure Agreement where
  keyNo : UInt8
  key : AesKey
  rndA : Nonce
  /-- The card's nonce as the card sent it. -/
  challenge : Bytes
  /-- The card's answer to the proof as the card sent it. -/
  reply : Bytes
  deriving DecidableEq

namespace Agreement

open Handshake

/-- The session keys are those that the key and both nonces give. -/
def Gives (a : Agreement) (keys : SessionKeys) : Prop :=
  ∃ rndB : Nonce, Cbc.decrypt (aes a.key) zeroIv a.challenge = .ok rndB.toList ∧
    keys = SessionKeys.derive a.key a.rndA rndB

/-- The card's answer has 32 bytes in clear: they begin with the transaction, and the host's nonce,
rotated by one byte, follows it. -/
def Opens (a : Agreement) (ti : TransactionId) : Prop :=
  ∃ encrypted answer, a.reply = CardStatus.ok :: encrypted ∧
    Cbc.decrypt (aes a.key) zeroIv encrypted = .ok answer ∧ answer.length = 32 ∧
    (answer.drop 4).take 16 = Bytes.rotl a.rndA.toList ∧ answer.take 4 = ti.toList

/-- An agreement opens one transaction only. -/
theorem Opens.unique {a : Agreement} {ti ti' : TransactionId} (h : a.Opens ti) (h' : a.Opens ti') :
    ti = ti' := by
  obtain ⟨encrypted, answer, hreply, hclear, -, -, hti⟩ := h
  obtain ⟨encrypted', answer', hreply', hclear', -, -, hti'⟩ := h'
  have hencrypted : encrypted = encrypted' := by
    rw [hreply] at hreply'
    exact (List.cons.inj hreply').2
  have hanswer : answer = answer' := by
    rw [hencrypted, hclear'] at hclear
    cases hclear
    rfl
  apply Octets.ext_toList
  rw [← hti, ← hti', hanswer]

end Agreement

namespace Handshake

open Conversation

/-! ## Judgements that succeed -/

theorem checkLength_eq_ok {what : Measured} {expected : Nat} {bs : Bytes} {u : Unit} :
    checkLength what expected bs = .ok u ↔ bs.length = expected := by
  unfold checkLength
  split_ifs with h
  · exact iff_of_true rfl h
  · exact iff_of_false (by intro h'; cases h') h

theorem checkProof_eq_ok {rndA echoed : Bytes} {u : Unit} :
    checkProof rndA echoed = .ok u ↔ echoed = Bytes.rotl rndA := by
  unfold checkProof
  split_ifs with h
  · exact iff_of_true rfl (Bytes.sameAs_iff.mp h).symm
  · exact iff_of_false (by intro h'; cases h') fun h' => h (Bytes.sameAs_iff.mpr h'.symm)

/-- A body is read if it follows the status expected and is not empty. -/
theorem bodyAfter_eq_ok {expected : UInt8} {answer body : Bytes}
    (hexpected : expected = CardStatus.ok ∨ expected = CardStatus.additionalFrame) :
    bodyAfter expected answer = .ok body ↔ answer = expected :: body ∧ body ≠ [] := by
  cases answer with
  | nil => exact iff_of_false (by intro h; cases h) (by rintro ⟨h, -⟩; cases h)
  | cons code rest =>
    simp only [bodyAfter]
    split_ifs with hshort hcode
    · refine iff_of_false (by intro h; cases h) ?_
      rintro ⟨h, hne⟩
      cases h
      exact hne hshort.1
    · subst hcode
      constructor
      · intro h
        cases h
        exact ⟨rfl, fun hnil => hshort ⟨hnil, hexpected⟩⟩
      · rintro ⟨h, -⟩
        cases h
        rfl
    · refine iff_of_false (by intro h; cases h) ?_
      rintro ⟨h, -⟩
      cases h
      exact hcode rfl

theorem readNonce_eq_ok {length other : Nat} {answer nonce : Bytes} (hlength : 0 < length)
    (hother : 0 < other) :
    readNonce length other answer = .ok nonce ↔
      answer = CardStatus.additionalFrame :: nonce ∧
        (nonce.length = length ∨ nonce.length = other) := by
  unfold readNonce
  rw [bind_eq_ok]
  constructor
  · rintro ⟨body, hbody, h⟩
    split_ifs at h with hfits
    cases h
    exact ⟨((bodyAfter_eq_ok (Or.inr rfl)).mp hbody).1, hfits⟩
  · rintro ⟨rfl, hfits⟩
    have hne : nonce ≠ [] := by
      rintro rfl
      rcases hfits with rfl | rfl
      · exact absurd hlength (Nat.lt_irrefl 0)
      · exact absurd hother (Nat.lt_irrefl 0)
    exact ⟨nonce, (bodyAfter_eq_ok (Or.inr rfl)).mpr ⟨rfl, hne⟩, if_pos hfits⟩

theorem readFinal_eq_ok {length : Nat} {reply data : Bytes} (hlength : 0 < length) :
    readFinal length reply = .ok data ↔
      reply = CardStatus.ok :: data ∧ data.length = length := by
  unfold readFinal
  simp only [bind_eq_ok, bodyAfter_eq_ok (Or.inl rfl), checkLength_eq_ok]
  constructor
  · rintro ⟨body, ⟨rfl, -⟩, u, hfits, h⟩
    cases h
    exact ⟨rfl, hfits⟩
  · rintro ⟨rfl, rfl⟩
    exact ⟨data, ⟨rfl, List.ne_nil_of_length_pos hlength⟩, (), rfl, rfl⟩

theorem readChallenge_eq_ok {kind : Handshake} {keyNo : UInt8} {length other : Nat}
    {answer : Bytes} {ch : Challenge} (hlength : 0 < length) (hother : 0 < other) :
    readChallenge kind keyNo length other answer = .ok ch ↔
      ∃ nonce, answer = CardStatus.additionalFrame :: nonce ∧
        (nonce.length = length ∨ nonce.length = other) ∧ ch = ⟨kind, keyNo, nonce⟩ := by
  unfold readChallenge
  simp only [bind_eq_ok, readNonce_eq_ok hlength hother]
  constructor
  · rintro ⟨nonce, ⟨rfl, hfits⟩, h⟩
    cases h
    exact ⟨nonce, rfl, hfits, rfl⟩
  · rintro ⟨nonce, rfl, hfits, rfl⟩
    exact ⟨nonce, ⟨rfl, hfits⟩, rfl⟩

theorem cardNonce_eq_ok {key : AesKey} {ch : Challenge} {rndB : Nonce} :
    cardNonce key ch = .ok rndB ↔
      Cbc.decrypt (aes key) zeroIv ch.encryptedNonce = .ok rndB.toList := by
  unfold cardNonce
  simp only [bind_eq_ok, checkLength_eq_ok]
  constructor
  · rintro ⟨u, hlength, clear, hclear, h⟩
    cases h
    have hclear16 : clear.length = 16 := by
      rw [Cbc.length_decrypt hclear, hlength]
    rw [hclear, Octets.toList_fit (Nat.le_of_eq hclear16.symm),
      List.take_of_length_le (Nat.le_of_eq hclear16)]
  · intro h
    have hlength := Cbc.length_decrypt h
    rw [rndB.length_toList] at hlength
    refine ⟨(), hlength.symm, rndB.toList, h, ?_⟩
    rw [Octets.fit_toList]
    rfl

theorem prepareProof_ok {kind : Handshake} {key : AesKey} {ch : Challenge} {rndA : Nonce}
    {x : Nonce × Bytes} (h : prepareProof kind key ch rndA = .ok x) :
    Cbc.decrypt (aes key) zeroIv ch.encryptedNonce = .ok x.1.toList := by
  obtain ⟨u, -, h⟩ := bind_ok h
  obtain ⟨rndB, hrndB, h⟩ := bind_ok h
  obtain ⟨proof, -, h⟩ := bind_ok h
  cases h
  exact cardNonce_eq_ok.mp hrndB

/-- Two nonces make a token of two blocks. -/
theorem exists_token (key : AesKey) (rndA rndB : Nonce) :
    ∃ proof, token key rndA rndB = .ok proof ∧ proof.length = 32 := by
  have hlength : (rndA.toList ++ rndB.rotl.toList).length = 32 := by
    rw [List.length_append, Octets.length_toList, Octets.length_toList]
  have haligned : (rndA.toList ++ rndB.rotl.toList).length % 16 = 0 := by omega
  have hproof := Cbc.encrypt_of_aligned (aes key) zeroIv haligned
  exact ⟨_, hproof, by rw [Cbc.length_encrypt hproof, hlength]⟩

/-- A proof is made from a challenge of the handshake that holds a nonce, and from no other. -/
theorem prepareProof_ok_iff {kind : Handshake} {key : AesKey} {ch : Challenge} {rndA : Nonce} :
    (∃ x, prepareProof kind key ch rndA = .ok x) ↔
      ch.kind = kind ∧ ch.encryptedNonce.length = 16 := by
  constructor
  · rintro ⟨x, h⟩
    have hlength := Cbc.length_decrypt (prepareProof_ok h)
    rw [x.1.length_toList] at hlength
    obtain ⟨u, hkind, -⟩ := bind_ok h
    unfold Challenge.require at hkind
    split_ifs at hkind with hsame
    exact ⟨hsame, hlength.symm⟩
  · rintro ⟨hkind, hlength⟩
    have haligned : ch.encryptedNonce.length % 16 = 0 := by omega
    have hclear := Cbc.decrypt_of_aligned (aes key) zeroIv haligned
    have hclear16 := (Cbc.length_decrypt hclear).trans hlength
    have hnonce : cardNonce key ch = .ok ⟨_, hclear16⟩ := cardNonce_eq_ok.mpr hclear
    obtain ⟨proof, hproof, -⟩ := exists_token key rndA ⟨_, hclear16⟩
    refine ⟨(⟨_, hclear16⟩, proof), ?_⟩
    unfold prepareProof Challenge.require
    rw [if_pos hkind, hnonce]
    show (token key rndA ⟨_, hclear16⟩ >>= _) = _
    rw [hproof]
    rfl

theorem openSession_eq_ok {key : AesKey} {keyNo : UInt8} {rndA rndB : Nonce} {reply : Bytes}
    {s : Session} :
    openSession key keyNo rndA rndB reply = .ok s ↔
      ∃ encrypted answer, reply = CardStatus.ok :: encrypted ∧ encrypted.length = 32 ∧
        Cbc.decrypt (aes key) zeroIv encrypted = .ok answer ∧
        (answer.drop 4).take 16 = Bytes.rotl rndA.toList ∧
        s = (FirstAnswer.ofBytes answer).session (SessionKeys.derive key rndA rndB) keyNo := by
  unfold openSession readProof
  simp only [bind_eq_ok, readFinal_eq_ok (show 0 < 32 by decide), checkProof_eq_ok]
  constructor
  · rintro ⟨answer, ⟨encrypted, ⟨rfl, hlength⟩, hclear⟩, u, hproof, h⟩
    cases h
    exact ⟨encrypted, answer, rfl, hlength, hclear, hproof, rfl⟩
  · rintro ⟨encrypted, answer, rfl, hlength, hclear, hproof, rfl⟩
    exact ⟨answer, ⟨encrypted, ⟨rfl, hlength⟩, hclear⟩, (), hproof, rfl⟩

theorem renewSession_eq_ok {s s' : Session} {key : AesKey} {keyNo : UInt8} {rndA rndB : Nonce}
    {reply : Bytes} :
    renewSession s key keyNo rndA rndB reply = .ok s' ↔
      ∃ encrypted p, reply = CardStatus.ok :: encrypted ∧ encrypted.length = 16 ∧
        Cbc.decrypt (aes key) zeroIv encrypted = .ok (Bytes.rotl rndA.toList) ∧
        s.protection = some (.aes p) ∧
        s' = { s with
          protection := some (.aes (p.withKeys (SessionKeys.derive key rndA rndB))), keyNo } := by
  unfold renewSession readProof
  simp only [bind_eq_ok, readFinal_eq_ok (show 0 < 16 by decide), checkProof_eq_ok,
    Session.requireAes_eq_ok]
  constructor
  · rintro ⟨answer, ⟨encrypted, ⟨rfl, hlength⟩, hclear⟩, u, rfl, p, hp, h⟩
    cases h
    exact ⟨encrypted, p, rfl, hlength, hclear, hp, rfl⟩
  · rintro ⟨encrypted, p, rfl, hlength, hclear, hp, rfl⟩
    exact ⟨_, ⟨encrypted, ⟨rfl, hlength⟩, hclear⟩, (), rfl, p, hp, rfl⟩

/-! ## Passes that succeed -/

theorem startFirst_plays_ok (keyNo : UInt8) (secondApplication : Bool) (capabilities : Bytes) :
    (startFirst keyNo secondApplication capabilities).run.Plays fun T r => ∀ ch, r = .ok ch →
      ∃ frame nonce, T = [(frame, .ok (CardStatus.additionalFrame :: nonce))] ∧
        nonce.length = 16 ∧ ch = ⟨.first, keyNo, nonce⟩ := by
  rw [startFirst_eq]
  refine (pass_plays_ok _ _ _).mono ?_
  intro T r h ch hr
  obtain ⟨x, answer, -, rfl, hanswer⟩ := h ch hr
  obtain ⟨nonce, rfl, hlength, rfl⟩ := (readChallenge_eq_ok (by decide) (by decide)).mp hanswer
  exact ⟨_, nonce, rfl, or_self_iff.mp hlength, rfl⟩

/-- A session that a first authentication opens rests on the agreement of its messages. -/
theorem finishFirst_plays_ok (key : AesKey) (ch : Challenge) (draw : NonceSource) :
    (finishFirst key ch draw).run.Plays fun T r => ∀ s, r = .ok s →
      ∃ frame reply keys ti, T = [(frame, .ok reply)] ∧
        s.protection = some (.aes { keys, ti }) ∧ s.keyNo = ch.keyNo ∧
        Agreement.Opens ⟨ch.keyNo, key, draw 16, ch.encryptedNonce, reply⟩ ti ∧
        Agreement.Gives ⟨ch.keyNo, key, draw 16, ch.encryptedNonce, reply⟩ keys := by
  rw [finishFirst_eq]
  refine (pass_plays_ok _ _ _).mono ?_
  intro T r h s hr
  obtain ⟨x, reply, hx, rfl, hreply⟩ := h s hr
  obtain ⟨encrypted, answer, hcode, hlength, hclear, hproof, rfl⟩ := openSession_eq_ok.mp hreply
  have hanswer : answer.length = 32 := by
    rw [Cbc.length_decrypt hclear, hlength]
  refine ⟨_, reply, _, _, rfl, rfl, rfl, ⟨encrypted, answer, hcode, hclear, hanswer, hproof, ?_⟩,
    x.1, prepareProof_ok hx, rfl⟩
  exact (Octets.toList_fit (by omega)).symm

/-- A session that a renewed authentication leaves keeps its transaction and counter, and takes keys
and slot from the agreement of the messages. -/
theorem renewalPasses_plays_ok (s : Session) (keyNo : UInt8) (key : AesKey) (draw : NonceSource) :
    (renewalPasses s keyNo key draw).run.Plays fun T r => ∀ s', r = .ok s' →
      ∃ frame nonce frame' reply p keys,
        T = [(frame, .ok (CardStatus.additionalFrame :: nonce)), (frame', .ok reply)] ∧
        s.protection = some (.aes p) ∧
        s' = { s with protection := some (.aes (p.withKeys keys)), keyNo } ∧
        Agreement.Gives ⟨keyNo, key, draw 16, nonce, reply⟩ keys := by
  unfold renewalPasses
  rw [startRenewal_eq, plays_bind]
  refine (pass_plays_ok _ _ _).mono ?_
  intro T r h
  cases r with
  | error err => exact fun s' hs' => by cases hs'
  | ok ch =>
    obtain ⟨x, answer, -, rfl, hanswer⟩ := h ch rfl
    obtain ⟨nonce, rfl, -, rfl⟩ := (readChallenge_eq_ok (by decide) (by decide)).mp hanswer
    refine (pass_plays_ok _ _ _).mono ?_
    intro T' r h' s' hs'
    obtain ⟨y, reply, hy, rfl, hreply⟩ := h' s' hs'
    obtain ⟨encrypted, p, -, -, -, hp, rfl⟩ := renewSession_eq_ok.mp hreply
    exact ⟨_, nonce, _, reply, p, _, rfl, hp, rfl, y.1, prepareProof_ok hy, rfl⟩

/-- A legacy authentication opens a session under triple DES in the slot asked for. -/
theorem runLegacy_plays_ok (keyNo : UInt8) (key : TripleDesKey) (draw : NonceSource) :
    (runLegacy keyNo key draw).run.Plays fun _ r => ∀ s, r = .ok s →
      ∃ q, s = Session.start (.tripleDes q) keyNo := by
  unfold runLegacy
  rw [startLegacy_eq, plays_bind]
  refine (pass_plays_ok _ _ _).mono ?_
  intro T r h
  cases r with
  | error err => exact fun s hs => by cases hs
  | ok ch =>
    obtain ⟨x, answer, -, rfl, hanswer⟩ := h ch rfl
    obtain ⟨nonce, rfl, -, rfl⟩ := (readChallenge_eq_ok (by decide) (by decide)).mp hanswer
    simp only [finishLegacy_eq]
    refine (pass_plays_ok _ _ _).mono ?_
    intro T' r h s hs
    obtain ⟨x, reply, -, -, hreply⟩ := h s hs
    obtain ⟨encrypted, -, h⟩ := bind_ok hreply
    obtain ⟨answer, -, h⟩ := bind_ok h
    obtain ⟨u, -, h⟩ := bind_ok h
    obtain ⟨sessionKey, -, h⟩ := bind_ok h
    cases h
    exact ⟨_, rfl⟩

end Handshake

end CardLink
