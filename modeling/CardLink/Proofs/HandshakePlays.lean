import CardLink.Proofs.HandleSteps
import CardLink.Proofs.History

/-!
# The plays of a handshake

A handshake on a handle is refused before its first frame, or given up, or it goes through, and then
its messages show the agreement that the new session rests on. What holds of every handshake follows
from this by cases, without opening the passes again.
-/

namespace CardLink

namespace Handshake

theorem le_of_checkKeyNo {keyNo : UInt8} {u : Unit} (h : checkKeyNo keyNo = .ok u) :
    keyNo ≤ maxKeyNo := by
  unfold checkKeyNo at h
  split_ifs at h with hlarge
  exact UInt8.not_lt.mp hlarge

theorem le_of_checkFirst {keyNo : UInt8} {capabilities : Bytes} {u : Unit}
    (h : checkFirst keyNo capabilities = .ok u) : keyNo ≤ maxKeyNo := by
  obtain ⟨v, hkey, -⟩ := bind_ok h
  exact le_of_checkKeyNo hkey

end Handshake

namespace Card

variable {c : Card}

/-! ## Giving up -/

/-- What a handshake that was given up can leave: no challenge, and the session as it was, closed or
invalidated. -/
inductive GivenUp (c : Card) : Card → Prop where
  | kept : GivenUp c c.dropChallenge
  | closed : GivenUp c c.close
  | invalidated {s : Session} (hs : c.session = some s) :
    GivenUp c { c.dropChallenge with session := some s.invalidate }

theorem givenUp_afterFailure (c : Card) (err : Error) :
    GivenUp c (c.dropChallenge.afterFailure err) := by
  unfold afterFailure
  split_ifs
  · exact .closed
  · exact .kept

/-! ## Plays -/

/-- How a handshake can go, by its frames, its outcome and the handle after it. -/
inductive HandshakePlay (c : Card) :
    Request → Transcript → Except Error Outcome → Card → Prop where
  | refused (r : Request) (err : Error) : HandshakePlay c r [] (.error err) c
  | failed (r : Request) (T : Transcript) (err : Error) {c' : Card} (h : GivenUp c c') :
    HandshakePlay c r T (.error err) c'
  /-- The card sent a challenge. -/
  | challenged {keyNo : UInt8} {nonce : Bytes} (frame : Bytes)
    (hkey : keyNo ≤ Handshake.maxKeyNo) (hlength : nonce.length = 16) :
    HandshakePlay c (.startFirst keyNo) [(frame, .ok (CardStatus.additionalFrame :: nonce))]
      (.ok .done) { c.close with challenge := some ⟨.first, keyNo, nonce⟩ }
  /-- The challenge at hand was answered. -/
  | finished {key : AesKey} {draw : NonceSource} {ch : Challenge} {keys : SessionKeys}
    {ti : TransactionId} {s : Session} (frame reply : Bytes) (hch : c.challenge = some ch)
    (hp : s.protection = some (.aes { keys, ti })) (hkey : s.keyNo = ch.keyNo)
    (hopens : Agreement.Opens ⟨ch.keyNo, key, draw 16, ch.encryptedNonce, reply⟩ ti)
    (hgives : Agreement.Gives ⟨ch.keyNo, key, draw 16, ch.encryptedNonce, reply⟩ keys) :
    HandshakePlay c (.finishFirst key draw) [(frame, .ok reply)] (.ok .done) (c.close.adopt s)
  /-- The card sent a challenge, and it was answered. -/
  | authenticated {keyNo : UInt8} {key : AesKey} {draw : NonceSource} {nonce : Bytes}
    {keys : SessionKeys} {ti : TransactionId} {s : Session} (frame frame' reply : Bytes)
    (hbound : keyNo ≤ Handshake.maxKeyNo) (hp : s.protection = some (.aes { keys, ti }))
    (hkey : s.keyNo = keyNo) (hopens : Agreement.Opens ⟨keyNo, key, draw 16, nonce, reply⟩ ti)
    (hgives : Agreement.Gives ⟨keyNo, key, draw 16, nonce, reply⟩ keys) :
    HandshakePlay c (.authenticate keyNo key draw)
      [(frame, .ok (CardStatus.additionalFrame :: nonce)), (frame', .ok reply)] (.ok .done)
      (c.close.adopt s)
  /-- The session took new keys. -/
  | renewed {keyNo : UInt8} {key : AesKey} {draw : NonceSource} {nonce : Bytes} {s : Session}
    {p : AesProtection} {keys : SessionKeys} (frame frame' reply : Bytes)
    (hbound : keyNo ≤ Handshake.maxKeyNo) (hs : c.session = some s)
    (hp : s.protection = some (.aes p))
    (hgives : Agreement.Gives ⟨keyNo, key, draw 16, nonce, reply⟩ keys) :
    HandshakePlay c (.reauthenticate keyNo key draw)
      [(frame, .ok (CardStatus.additionalFrame :: nonce)), (frame', .ok reply)] (.ok .done)
      { c.dropChallenge with
        session := some { s with protection := some (.aes (p.withKeys keys)), keyNo } }
  /-- A session of the older generation was made. -/
  | legacy {keyNo : UInt8} (key : TripleDesKey) (draw : NonceSource) (q : TripleDesProtection)
    (T : Transcript) (hbound : keyNo ≤ Handshake.maxKeyNo) :
    HandshakePlay c (.authenticateLegacy keyNo key draw) T (.ok .done)
      (c.close.adopt (Session.start (.tripleDes q) keyNo))

/-- Every play of the request on the handle is one of a handshake. -/
def PlaysHandshake (c : Card) (r : Request) : Prop :=
  ((perform r).start c).Plays fun T e => HandshakePlay c r T e.1 e.2

theorem startFirst_handshake (c : Card) (keyNo : UInt8) : PlaysHandshake c (.startFirst keyNo) := by
  unfold PlaysHandshake perform
  rw [done_start, Dialogue.plays_bind, startFirst_start]
  cases hcheck : Handshake.checkFirst keyNo c.settings.capabilityBytes with
  | error err => exact .refused _ err
  | ok u =>
    simp only [Dialogue.plays_bind]
    refine (Handshake.startFirst_plays_ok keyNo false c.settings.capabilityBytes).mono ?_
    intro T r hr
    cases r with
    | error err => exact .failed _ _ err (givenUp_afterFailure c err)
    | ok ch =>
      obtain ⟨frame, nonce, rfl, hlength, rfl⟩ := hr ch rfl
      exact .challenged frame (Handshake.le_of_checkFirst hcheck) hlength

theorem finishFirst_handshake (c : Card) (key : AesKey) (draw : NonceSource) :
    PlaysHandshake c (.finishFirst key draw) := by
  unfold PlaysHandshake perform
  rw [done_start, Dialogue.plays_bind, finishFirst_start]
  cases hch : c.challenge with
  | none => exact .refused _ _
  | some ch =>
    simp only [Dialogue.plays_bind]
    refine (Handshake.finishFirst_plays_ok key ch draw).mono ?_
    intro T r hr
    cases r with
    | error err => exact .failed _ _ err .kept
    | ok s =>
      obtain ⟨frame, reply, keys, ti, rfl, hp, hkey, hopens, hgives⟩ := hr s rfl
      exact .finished frame reply hch hp hkey hopens hgives

theorem authenticate_handshake (c : Card) (keyNo : UInt8) (key : AesKey) (draw : NonceSource) :
    PlaysHandshake c (.authenticate keyNo key draw) := by
  unfold PlaysHandshake perform authenticate
  rw [done_start, Dialogue.plays_bind, Action.start_bind, Dialogue.plays_bind, startFirst_start]
  cases hcheck : Handshake.checkFirst keyNo c.settings.capabilityBytes with
  | error err => exact .refused _ err
  | ok u =>
    simp only [Dialogue.plays_bind]
    refine (Handshake.startFirst_plays_ok keyNo false c.settings.capabilityBytes).mono ?_
    intro T r hr
    cases r with
    | error err => exact .failed _ _ err (givenUp_afterFailure c err)
    | ok ch =>
      obtain ⟨frame, nonce, rfl, -, rfl⟩ := hr ch rfl
      show ((finishFirst key draw).start
        { c.close with challenge := some ⟨.first, keyNo, nonce⟩ }).Plays _
      rw [finishFirst_start]
      simp only [Dialogue.plays_bind]
      refine (Handshake.finishFirst_plays_ok key _ draw).mono ?_
      intro T r hr
      cases r with
      | error err => exact .failed _ _ err .closed
      | ok s =>
        obtain ⟨frame', reply, keys, ti, rfl, hp, hkey, hopens, hgives⟩ := hr s rfl
        exact .authenticated frame frame' reply (Handshake.le_of_checkFirst hcheck) hp hkey hopens
          hgives

theorem reauthenticate_handshake (c : Card) (keyNo : UInt8) (key : AesKey) (draw : NonceSource) :
    PlaysHandshake c (.reauthenticate keyNo key draw) := by
  unfold PlaysHandshake perform
  rw [done_start, Dialogue.plays_bind, reauthenticate_start]
  cases hcheck : Handshake.checkKeyNo keyNo with
  | error err => exact .failed _ _ err .kept
  | ok u =>
    cases hs : c.session with
    | none => exact .failed _ _ _ .kept
    | some s =>
      simp only [Dialogue.plays_bind]
      refine (Handshake.renewalPasses_plays_ok s keyNo key draw).mono ?_
      intro T r hr
      cases r with
      | error err =>
        refine .failed _ _ err ?_
        split_ifs
        · exact .invalidated hs
        · exact .kept
      | ok s' =>
        obtain ⟨frame, nonce, frame', reply, p, keys, rfl, hp, rfl, hgives⟩ := hr s' rfl
        exact .renewed frame frame' reply (Handshake.le_of_checkKeyNo hcheck) hs hp hgives

theorem authenticateLegacy_handshake (c : Card) (keyNo : UInt8) (key : TripleDesKey)
    (draw : NonceSource) : PlaysHandshake c (.authenticateLegacy keyNo key draw) := by
  unfold PlaysHandshake perform
  rw [done_start, Dialogue.plays_bind, authenticateLegacy_start]
  cases hcheck : Handshake.checkKeyNo keyNo with
  | error err => exact .refused _ err
  | ok u =>
    simp only [Dialogue.plays_bind]
    refine (Handshake.runLegacy_plays_ok keyNo key draw).mono ?_
    intro T r hr
    cases r with
    | error err => exact .failed _ _ err (givenUp_afterFailure c err)
    | ok s =>
      obtain ⟨q, rfl⟩ := hr s rfl
      exact .legacy key draw q _ (Handshake.le_of_checkKeyNo hcheck)

theorem handshake_plays (c : Card) {r : Request} (hr : r.isHandshake = true) :
    PlaysHandshake c r := by
  cases r with
  | startFirst keyNo => exact c.startFirst_handshake keyNo
  | finishFirst key draw => exact c.finishFirst_handshake key draw
  | authenticate keyNo key draw => exact c.authenticate_handshake keyNo key draw
  | reauthenticate keyNo key draw => exact c.reauthenticate_handshake keyNo key draw
  | authenticateLegacy keyNo key draw => exact c.authenticateLegacy_handshake keyNo key draw
  | _ => cases hr

end Card

end CardLink
