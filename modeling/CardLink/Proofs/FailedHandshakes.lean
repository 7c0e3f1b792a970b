import CardLink.Proofs.FailedExchanges
import CardLink.Proofs.HandleSteps

/-!
# Handshakes that fail on a handle with a session

A handle decides from the error alone whether the card may have noticed a handshake that failed.
Once the first frame has reached the card, the only error that the handle takes for unnoticed is a
missing connection, and that can only have struck the second frame.

1. Whatever is wrong with an answer, the handle takes it for noticed (`JudgesAnswer`).
2. In two passes of which the first has reached the card, an unnoticed failure is a missing
   connection (`twoPasses_plays`).
3. The handle follows that verdict (`usable_after_failure_iff`). A first authentication is safe from
   it, because the session is closed between the passes.
-/

namespace CardLink

namespace Handshake

open Conversation

variable {α β γ : Type}

theorem noticed_of_blamesAnswer {err : Error} (h : blamesAnswer err = true) :
    noticed err = true := by
  cases err <;> simp_all [noticed, blamesAnswer]

/-- What is wrong with an answer is noticed, and is no missing connection. -/
theorem noticed_iff_of_blamesAnswer {err : Error} (h : blamesAnswer err = true) :
    noticed err = false ↔ err = .transport .notConnected := by
  rw [noticed_of_blamesAnswer h]
  constructor
  · intro h'
    cases h'
  · rintro rfl
    cases h

theorem noticed_transport (fault : TransportFault) :
    noticed (.transport fault) = false ↔ fault = .notConnected := by
  cases fault <;> simp [noticed, TransportFault.maybeSent]

/-! ## Judgements -/

theorem judgesAnswer_bodyAfter (expected : UInt8) (answer : Bytes) :
    JudgesAnswer (bodyAfter expected answer) := by
  unfold bodyAfter
  split
  · exact judgesAnswer_error rfl
  · split_ifs
    · exact judgesAnswer_error rfl
    · exact judgesAnswer_ok _
    · exact judgesAnswer_error rfl

theorem judgesAnswer_readChallenge (kind : Handshake) (keyNo : UInt8) (length other : Nat)
    (answer : Bytes) : JudgesAnswer (readChallenge kind keyNo length other answer) := by
  unfold readChallenge readNonce
  refine JudgesAnswer.bind ?_ fun nonce => judgesAnswer_ok _
  exact (judgesAnswer_bodyAfter _ answer).bind fun nonce => judgesAnswer_check rfl

theorem judgesAnswer_readFinal (length : Nat) (reply : Bytes) :
    JudgesAnswer (readFinal length reply) := by
  unfold readFinal
  refine (judgesAnswer_bodyAfter _ reply).bind fun data => ?_
  exact JudgesAnswer.bind (judgesAnswer_check rfl) fun _ => judgesAnswer_ok data

theorem judgesAnswer_checkProof (rndA echoed : Bytes) :
    JudgesAnswer (checkProof rndA echoed) := by
  unfold checkProof
  exact judgesAnswer_check rfl

theorem judgesAnswer_readProof (key : AesKey) (length : Nat) (reply : Bytes) :
    JudgesAnswer (readProof key length reply) := by
  unfold readProof
  exact (judgesAnswer_readFinal length reply).bind fun encrypted => judgesAnswer_cbc _ encrypted

/-- Of a session under AES the answer alone decides. -/
theorem judgesAnswer_renewSession {s : Session} {p : AesProtection}
    (hs : s.protection = some (.aes p)) (key : AesKey) (keyNo : UInt8) (rndA rndB : Nonce)
    (reply : Bytes) : JudgesAnswer (renewSession s key keyNo rndA rndB reply) := by
  unfold renewSession
  rw [Session.requireAes_eq_ok.mpr hs]
  refine (judgesAnswer_readProof key 16 reply).bind fun answer => ?_
  exact (judgesAnswer_checkProof _ answer).bind fun _ => judgesAnswer_ok _

theorem judgesAnswer_openLegacySession (key : TripleDesKey) (keyNo : UInt8)
    (rndA rndB proof reply : Bytes) :
    JudgesAnswer (openLegacySession key keyNo rndA rndB proof reply) := by
  unfold openLegacySession
  refine (judgesAnswer_readFinal _ reply).bind fun encrypted => ?_
  refine (judgesAnswer_cbc _ encrypted).bind fun answer => ?_
  refine (judgesAnswer_checkProof rndA answer).bind fun _ => ?_
  refine JudgesAnswer.bind ?_ fun sessionKey => judgesAnswer_ok _
  unfold TripleDesKey.deriveSession
  by_cases h : rndA.length = key.nonceLength ∧ rndB.length = key.nonceLength
  · rw [if_pos h]
    cases key <;> exact judgesAnswer_ok _
  · rw [if_neg h]
    exact judgesAnswer_error rfl

theorem judgesAnswer_prepareProof (kind : Handshake) (key : AesKey) (c : Challenge)
    (rndA : Nonce) : JudgesAnswer (prepareProof kind key c rndA) := by
  unfold prepareProof cardNonce
  refine JudgesAnswer.bind (judgesAnswer_check rfl) fun _ => ?_
  refine JudgesAnswer.bind ?_ fun rndB => ?_
  · refine JudgesAnswer.bind (judgesAnswer_check rfl) fun _ => ?_
    exact (judgesAnswer_cbc _ c.encryptedNonce).bind fun _ => judgesAnswer_ok _
  · exact JudgesAnswer.bind (judgesAnswer_cbc _ _) fun proof => judgesAnswer_ok _

theorem judgesAnswer_prepareLegacyProof (key : TripleDesKey) (c : Challenge) (rndA : Bytes) :
    JudgesAnswer (prepareLegacyProof key c rndA) := by
  unfold prepareLegacyProof legacyNonce
  refine JudgesAnswer.bind (judgesAnswer_check rfl) fun _ => ?_
  refine JudgesAnswer.bind ?_ fun rndB => ?_
  · exact JudgesAnswer.bind (judgesAnswer_check rfl) fun _ => judgesAnswer_cbc _ _
  · exact JudgesAnswer.bind (judgesAnswer_cbc _ _) fun proof => judgesAnswer_ok _

/-! ## Two passes -/

/-- The first frame of a play was answered, or failed in a way that leaves open whether the card saw
it. -/
def ReachesCard : Transcript → Prop
  | [] => False
  | (_, r) :: _ => r ≠ .error .notConnected

/-- A pass that reports an error either met a fault or was answered. -/
theorem result_bind_error {judge : Bytes → Except Error α}
    (hj : ∀ answer, JudgesAnswer (judge answer)) {r : Delivery} {err : Error}
    (h : Delivery.result r >>= judge = .error err) :
    (∃ fault, r = .error fault ∧ err = .transport fault) ∨ blamesAnswer err = true := by
  cases r with
  | ok answer => exact Or.inr (hj answer err h)
  | error fault => cases h; exact Or.inl ⟨fault, rfl, rfl⟩

theorem noticed_result_iff {judge : Bytes → Except Error α}
    (hj : ∀ answer, JudgesAnswer (judge answer)) {r : Delivery} {err : Error}
    (h : Delivery.result r >>= judge = .error err) :
    noticed err = false ↔ err = .transport .notConnected := by
  rcases result_bind_error hj h with ⟨fault, -, rfl⟩ | hblame
  · simp [noticed_transport]
  · exact noticed_iff_of_blamesAnswer hblame

/-- If the play fails after its first frame reached the card, then the handle takes the failure for
unnoticed exactly for want of a connection. -/
def UnnoticedIff (T : Transcript) (r : Except Error α) : Prop :=
  ∀ err, r = .error err → ReachesCard T → (noticed err = false ↔ err = .transport .notConnected)

/-- Two passes of which the first has reached the card fail unnoticed only for want of a
connection. -/
theorem twoPasses_plays {prepare₁ : Except Error β} {frame₁ : β → Bytes}
    {judge₁ : β → Bytes → Except Error Challenge} {prepare₂ : Challenge → Except Error γ}
    {frame₂ : γ → Bytes} {judge₂ : Challenge → γ → Bytes → Except Error α}
    (hj₁ : ∀ x answer, JudgesAnswer (judge₁ x answer))
    (hp₂ : ∀ c, JudgesAnswer (prepare₂ c))
    (hj₂ : ∀ x, prepare₁ = .ok x → ∀ c y reply, JudgesAnswer (judge₂ c y reply)) :
    (pass prepare₁ frame₁ judge₁ >>= fun c => pass (prepare₂ c) frame₂ (judge₂ c)).run.Plays
      UnnoticedIff := by
  rw [plays_bind]
  refine pass_plays (fun err _ err' _ hreach => hreach.elim) ?_
  intro x hx r
  cases h₁ : Delivery.result r >>= judge₁ x with
  | error err =>
    intro err' herr hreach
    cases herr
    exact noticed_result_iff (hj₁ x) h₁
  | ok c =>
    refine pass_plays ?_ ?_
    · intro err hprep err' herr hreach
      cases herr
      exact noticed_iff_of_blamesAnswer (hp₂ c err hprep)
    · intro y _ r' err herr hreach
      exact noticed_result_iff (hj₂ x hx c y) herr

end Handshake

/-! ## The handle -/

namespace Card

/-- The handle holds a session that can still be used. -/
def usable (c : Card) : Bool := c.session.any Session.isValid

/-- Both passes of a handshake, as a handle is asked for them. -/
inductive Attempt where
  | first (keyNo : UInt8) (key : AesKey) (draw : NonceSource)
  | renewal (keyNo : UInt8) (key : AesKey) (draw : NonceSource)
  | legacy (keyNo : UInt8) (key : TripleDesKey) (draw : NonceSource)

namespace Attempt

/-- The operation behind an attempt. -/
def act : Attempt → Action Card Unit
  | first keyNo key draw => authenticate keyNo key draw
  | renewal keyNo key draw => reauthenticate keyNo key draw
  | legacy keyNo key draw => authenticateLegacy keyNo key draw

/-- The handshake that an attempt makes. -/
def kind : Attempt → Handshake
  | first _ _ _ => .first
  | renewal _ _ _ => .renewal
  | legacy _ _ _ => .legacy

end Attempt

/-- If the play fails after its first frame reached the card, then the error and the handle after it
are related. -/
def FailsWith (P : Error → Card → Prop) (T : Transcript) (e : Except Error Unit × Card) : Prop :=
  ∀ err, e.1 = .error err → Handshake.ReachesCard T → P err e.2

theorem usable_afterFailure (c : Card) (err : Error) :
    (c.afterFailure err).usable = (c.usable && !Handshake.noticed err) := by
  unfold afterFailure
  by_cases h : Handshake.noticed err = true
  · rw [if_pos h, h]
    simp [usable, close]
  · rw [if_neg h]
    simp [h]

/-- A first authentication that has reached the card leaves no session when it fails: up to the
card's challenge any failure is noticed, and from then on there is no session. -/
theorem authenticate_plays (c : Card) (keyNo : UInt8) (key : AesKey) (draw : NonceSource) :
    ((authenticate keyNo key draw).start c).Plays (FailsWith fun _ c' => c'.usable = false) := by
  unfold authenticate
  rw [Action.start_bind, Dialogue.plays_bind, startFirst_start]
  cases Handshake.checkFirst keyNo c.settings.capabilityBytes with
  | error err => exact fun _ _ hreach => hreach.elim
  | ok _ =>
    show Dialogue.Plays _ (_ >>= _)
    rw [Dialogue.plays_bind, Handshake.startFirst_eq]
    refine Handshake.pass_plays (fun err _ err' _ hreach => hreach.elim) ?_
    intro _ _ r
    cases h : Delivery.result r >>= Handshake.readChallenge .first keyNo 16 16 with
    | error err =>
      intro err' herr hreach
      cases herr
      have hnoticed : Handshake.noticed err = true := by
        rcases Handshake.result_bind_error (Handshake.judgesAnswer_readChallenge .first keyNo 16 16)
          h with ⟨fault, rfl, rfl⟩ | hblame
        · rw [← Bool.not_eq_false, Handshake.noticed_transport]
          rintro rfl
          exact hreach rfl
        · exact Handshake.noticed_of_blamesAnswer hblame
      show (c.dropChallenge.afterFailure err).usable = false
      rw [usable_afterFailure, hnoticed]
      simp
    | ok ch =>
      show ((finishFirst key draw).start { c.close with challenge := some ch }).Plays _
      rw [finishFirst_start]
      show Dialogue.Plays _ (_ >>= _)
      rw [Dialogue.plays_bind]
      refine Dialogue.plays_of_forall ?_ _
      intro T r
      cases r with
      | ok s => intro err herr; cases herr
      | error err => exact fun _ _ _ => rfl

theorem renewalPasses_plays (s : Session) (keyNo : UInt8) (key : AesKey) (draw : NonceSource) :
    (Handshake.renewalPasses s keyNo key draw).run.Plays Handshake.UnnoticedIff := by
  unfold Handshake.renewalPasses
  rw [Handshake.startRenewal_eq]
  refine Handshake.twoPasses_plays (fun _ => Handshake.judgesAnswer_readChallenge _ _ _ _)
    (fun ch => Handshake.judgesAnswer_prepareProof _ _ _ _) ?_
  intro _ hcheck ch x
  obtain ⟨p, hp⟩ := Handshake.checkRenewal_ok hcheck
  exact Handshake.judgesAnswer_renewSession hp _ _ _ _

theorem runLegacy_plays (keyNo : UInt8) (key : TripleDesKey) (draw : NonceSource) :
    (Handshake.runLegacy keyNo key draw).run.Plays Handshake.UnnoticedIff := by
  unfold Handshake.runLegacy
  rw [Handshake.startLegacy_eq]
  simp only [Handshake.finishLegacy_eq]
  exact Handshake.twoPasses_plays (fun _ => Handshake.judgesAnswer_readChallenge _ _ _ _)
    (fun _ => Handshake.judgesAnswer_prepareLegacyProof _ _ _)
    (fun _ _ _ _ _ => Handshake.judgesAnswer_openLegacySession _ _ _ _ _ _)

/-- A handle that follows the verdict of a handshake keeps a usable session exactly for want of a
connection. -/
theorem failsWith_of_unnoticedIff {run : Conversation Session}
    (h : run.run.Plays Handshake.UnnoticedIff)
    {after : Except Error Session → Dialogue (Except Error Unit × Card)}
    (hok : ∀ s, ∃ c, after (.ok s) = .done (.ok (), c))
    (herror : ∀ err, ∃ c, after (.error err) = .done (.error err, c) ∧
      c.usable = !Handshake.noticed err) :
    (run.run >>= after).Plays
      (FailsWith fun err c => c.usable = true ↔ err = .transport .notConnected) := by
  rw [Dialogue.plays_bind]
  refine h.mono ?_
  intro T r hr
  cases r with
  | ok s =>
    obtain ⟨c, hafter⟩ := hok s
    rw [hafter]
    intro err herr
    cases herr
  | error err =>
    obtain ⟨c, hafter, husable⟩ := herror err
    rw [hafter]
    intro err' herr hreach
    cases herr
    rw [List.append_nil] at hreach
    rw [← hr err rfl hreach, husable, Bool.not_eq_true']

theorem reauthenticate_plays (c : Card) (hc : c.usable = true) (keyNo : UInt8) (key : AesKey)
    (draw : NonceSource) :
    ((reauthenticate keyNo key draw).start c).Plays
      (FailsWith fun err c' => c'.usable = true ↔ err = .transport .notConnected) := by
  rw [reauthenticate_start]
  cases Handshake.checkKeyNo keyNo with
  | error err => exact fun _ _ hreach => hreach.elim
  | ok _ =>
    obtain ⟨s, hs, hv⟩ : ∃ s, c.session = some s ∧ s.isValid = true := by
      simpa [usable, Option.any_eq_true] using hc
    rw [hs]
    refine failsWith_of_unnoticedIff (renewalPasses_plays s keyNo key draw) (fun s' => ⟨_, rfl⟩) ?_
    intro err
    refine ⟨_, rfl, ?_⟩
    split_ifs with h
    · simp [h, usable, Session.invalidate, Session.isValid]
    · simp [h, usable, dropChallenge, hs, hv]

theorem authenticateLegacy_plays (c : Card) (hc : c.usable = true) (keyNo : UInt8)
    (key : TripleDesKey) (draw : NonceSource) :
    ((authenticateLegacy keyNo key draw).start c).Plays
      (FailsWith fun err c' => c'.usable = true ↔ err = .transport .notConnected) := by
  rw [authenticateLegacy_start]
  cases Handshake.checkKeyNo keyNo with
  | error err => exact fun _ _ hreach => hreach.elim
  | ok _ =>
    refine failsWith_of_unnoticedIff (runLegacy_plays keyNo key draw) (fun s => ⟨_, rfl⟩) ?_
    intro err
    refine ⟨_, rfl, ?_⟩
    have hdrop : c.dropChallenge.usable = true := hc
    rw [usable_afterFailure, hdrop, Bool.true_and]

/-- **A failed handshake ends the session, with one exception.** On a handle with a valid session,
once the first frame of an attempt was answered or failed in a way that leaves open whether the card
saw it, the failure of the attempt leaves a usable session exactly if a renewed or legacy attempt
failed for want of a connection. -/
theorem usable_after_failure_iff {σ : Type} (a : Attempt) (c : Card) (hc : c.usable = true)
    (t : Transport σ) (w : σ) (err : Error) (herr : ((a.act.start c).run t w).1.1 = .error err)
    (hreach : Handshake.ReachesCard ((a.act.start c).transcript t w)) :
    ((a.act.start c).run t w).1.2.usable = true ↔
      a.kind ≠ .first ∧ err = .transport .notConnected := by
  cases a with
  | first keyNo key draw =>
    have h := (authenticate_plays c keyNo key draw).run t w err herr hreach
    show (((authenticate keyNo key draw).start c).run t w).1.2.usable = true ↔ _
    rw [h]
    simp [Attempt.kind]
  | renewal keyNo key draw =>
    rw [and_iff_right (by simp [Attempt.kind])]
    exact (reauthenticate_plays c hc keyNo key draw).run t w err herr hreach
  | legacy keyNo key draw =>
    rw [and_iff_right (by simp [Attempt.kind])]
    exact (authenticateLegacy_plays c hc keyNo key draw).run t w err herr hreach

/-! ### A reader that drops out between the passes -/

/-- A handle with an EV2 session. -/
def sampleCard : Card := { session := some .sample }

/-- A renewed authentication under the zero key. -/
def sampleRenewal : Attempt := .renewal 0 (Octets.zero 16) (.repeating [])

/-- A challenge that brings a nonce. -/
def sampleChallenge : Bytes := CardStatus.additionalFrame :: List.replicate 16 0

theorem not_usable_after_timeout :
    let d := sampleRenewal.act.start sampleCard
    let w : Script := .failingAfter sampleChallenge .timeout
    (d.run Script.transport w).1.1 = .error (.transport .timeout) ∧
      ((d.run Script.transport w).1.2.usable = true ↔
        sampleRenewal.kind ≠ .first ∧ Error.transport .timeout = .transport .notConnected) := by
  refine ⟨rfl, ?_⟩
  apply usable_after_failure_iff sampleRenewal sampleCard rfl Script.transport
  · rfl
  · intro h
    cases h

/-- The card answers the first frame, the connection is gone at the second one, and the session
stays usable. -/
theorem usable_after_dropped_connection :
    let d := sampleRenewal.act.start sampleCard
    let w : Script := .failingAfter sampleChallenge .notConnected
    (d.transcript Script.transport w).map Prod.snd = w.replies ∧
      (d.run Script.transport w).1.1 = .error (.transport .notConnected) ∧
      sampleCard.usable = true ∧ (d.run Script.transport w).1.2.usable = true :=
  ⟨rfl, rfl, rfl, rfl⟩

end Card

end CardLink
