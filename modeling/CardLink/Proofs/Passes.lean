import CardLink.Handshake.Aes
import CardLink.Handshake.TripleDes
import CardLink.Proofs.Plays

/-!
# The passes of a handshake

The card takes no part in how a frame of a handshake is prepared or in how its answer is judged.
Every pass is therefore a preparation, one frame and a judgement, and hands over at most one frame.
What a pass reports is a fault of the transport or the judgement of an answer, and no judgement can
be taken for a fault.
-/

namespace CardLink

theorem Session.requireAes_eq_ok {s : Session} {operation : AesOnly} {p : AesProtection} :
    s.requireAes operation = .ok p ↔ s.protection = some (.aes p) := by
  unfold requireAes requireProtection
  rcases s.protection with _ | p' | p'
  · constructor <;> intro h <;> cases h
  · constructor <;> intro h <;> cases h <;> rfl
  · constructor <;> intro h <;> cases h

/-! ## Operations that replace the state at their end -/

namespace Action

variable {α β σ : Type}

theorem ext {a b : Action σ α} (h : ∀ s, a.start s = b.start s) : a = b := funext h

theorem converse_liftM (x : Except Error α) : (converse (liftM x) : Action σ α) = liftM x := by
  apply ext
  intro s
  rw [start_liftM, start_converse]
  rfl

/-- An attempt to find a new state, as the result of an operation and the state after it: the one it
found, or the one from before. -/
def replaced (s : σ) : Except Error σ → Except Error Unit × σ
  | .ok s' => (.ok (), s')
  | .error err => (.error err, s)

/-- A conversation that looks for a new state, as an operation. -/
def replace (c : σ → Conversation σ) : Action σ Unit :=
  ExceptT.mk fun s => (c s).run >>= fun r => .done (replaced s r)

theorem start_replace (c : σ → Conversation σ) (s : σ) :
    (replace c).start s = (c s).run >>= fun r => .done (replaced s r) := rfl

theorem plays_replace {P : Transcript → Except Error Unit × σ → Prop} {c : σ → Conversation σ}
    {s : σ} : ((replace c).start s).Plays P ↔ (c s).run.Plays fun T r => P T (replaced s r) :=
  Dialogue.plays_bind_done _ _

theorem replace_kept (c : σ → Conversation σ) (s : σ) :
    ((replace c).start s).Plays fun _ e => ∀ err, e.1 = .error err → e.2 = s := by
  rw [plays_replace]
  refine Dialogue.plays_of_forall ?_ _
  intro T r err h
  cases r with
  | ok s' => cases h
  | error err' => rfl

/-- What the state has no part in may as well be said before. -/
theorem converse_bind_replace (c : Conversation α) (f : α → σ → Conversation σ) :
    (converse c >>= fun x => replace (f x)) = replace fun s => c >>= fun x => f x s := by
  apply ext
  intro s
  rw [start_bind, start_converse, start_replace, ExceptT.run_bind, bind_assoc, bind_assoc]
  congr 1
  funext r
  cases r <;> rfl

end Action

/-! ## Passes -/

namespace Handshake

open Conversation

variable {α β : Type}

/-- A pass: a frame is prepared, handed over, and the answer judged. -/
def pass (prepare : Except Error β) (frame : β → Bytes) (judge : β → Bytes → Except Error α) :
    Conversation α := do
  let x ← prepare
  let answer ← transmit (frame x)
  judge x answer

theorem pass_run (prepare : Except Error β) (frame : β → Bytes)
    (judge : β → Bytes → Except Error α) :
    (pass prepare frame judge).run = match prepare with
      | .error err => .done (.error err)
      | .ok x => .send (frame x) fun r => .done (r.result >>= judge x) := by
  unfold pass
  rw [run_lift_bind]
  cases prepare with
  | error err => rfl
  | ok x =>
    show (transmit (frame x) >>= fun answer => _).run = _
    rw [ExceptT.run_bind, run_transmit, Dialogue.send_bind]
    congr 1
    funext r
    cases r <;> rfl

theorem pass_plays {P : Transcript → Except Error α → Prop} {prepare : Except Error β}
    {frame : β → Bytes} {judge : β → Bytes → Except Error α}
    (herr : ∀ err, prepare = .error err → P [] (.error err))
    (hok : ∀ x, prepare = .ok x → ∀ r, P [(frame x, r)] (Delivery.result r >>= judge x)) :
    (pass prepare frame judge).run.Plays P := by
  rw [pass_run]
  cases prepare with
  | error err => exact herr err rfl
  | ok x => exact hok x rfl

/-- A pass that succeeds was prepared, answered and judged. -/
theorem pass_plays_ok (prepare : Except Error β) (frame : β → Bytes)
    (judge : β → Bytes → Except Error α) :
    (pass prepare frame judge).run.Plays fun T r => ∀ a, r = .ok a →
      ∃ x answer, prepare = .ok x ∧ T = [(frame x, .ok answer)] ∧ judge x answer = .ok a := by
  refine pass_plays (fun err _ a ha => by cases ha) ?_
  intro x hx r a ha
  cases r with
  | ok answer => exact ⟨x, answer, hx, rfl, ha⟩
  | error fault => cases ha

/-- A pass succeeds exactly if its one frame was answered and the judgement accepts the answer. -/
theorem pass_plays_iff {Q : Bytes → Bytes → Prop} {prepare : Except Error β} {frame : β → Bytes}
    {judge : β → Bytes → Except Error α}
    (hjudge : ∀ x, prepare = .ok x →
      ∀ reply, (∃ a, judge x reply = .ok a) ↔ Q (frame x) reply) :
    (pass prepare frame judge).run.Plays fun T r =>
      (∃ a, r = .ok a) ↔ ∃ sent reply, T = [(sent, .ok reply)] ∧ Q sent reply := by
  have hfails {T : Transcript} (err : Error) (hT : ∀ sent reply, T ≠ [(sent, .ok reply)]) :
      (∃ a, (.error err : Except Error α) = .ok a) ↔
        ∃ sent reply, T = [(sent, .ok reply)] ∧ Q sent reply := by
    apply iff_of_false
    · rintro ⟨a, ha⟩
      cases ha
    · rintro ⟨sent, reply, h, -⟩
      exact hT sent reply h
  refine pass_plays (fun err _ => hfails err fun sent reply h => by cases h) ?_
  intro x hx r
  cases r with
  | error fault => exact hfails _ fun sent reply h => by cases h
  | ok reply =>
    rw [Delivery.result_ok_bind, hjudge x hx reply]
    constructor
    · exact fun h => ⟨frame x, reply, rfl, h⟩
    · rintro ⟨sent, reply', hT, h⟩
      cases hT
      exact h

/-! ## First passes -/

/-- The challenge in the answer to a first pass. -/
def readChallenge (kind : Handshake) (keyNo : UInt8) (length other : Nat) (answer : Bytes) :
    Except Error Challenge := do
  let encryptedNonce ← readNonce length other answer
  return { kind, keyNo, encryptedNonce }

/-- What must hold before a renewed authentication is asked for. -/
def checkRenewal (s : Session) (keyNo : UInt8) : Except Error Unit := do
  checkKeyNo keyNo
  let _ ← s.requireAes .reauthentication

theorem checkRenewal_ok {s : Session} {keyNo : UInt8} {u : Unit}
    (h : checkRenewal s keyNo = .ok u) : ∃ p, s.protection = some (.aes p) := by
  obtain ⟨-, -, h⟩ := bind_ok h
  obtain ⟨p, hp, -⟩ := bind_ok h
  exact ⟨p, Session.requireAes_eq_ok.mp hp⟩

theorem startFirst_eq (keyNo : UInt8) (secondApplication : Bool) (capabilities : Bytes) :
    startFirst keyNo secondApplication capabilities =
      pass (checkFirst keyNo capabilities)
        (fun _ => firstRequest keyNo secondApplication capabilities)
        fun _ => readChallenge .first keyNo 16 16 := by
  unfold startFirst pass request readChallenge
  simp only [lift_bind, lift_pure]

theorem startRenewal_eq (s : Session) (keyNo : UInt8) :
    startRenewal s keyNo =
      pass (checkRenewal s keyNo) (fun _ => [0x77, keyNo])
        fun _ => readChallenge .renewal keyNo 16 16 := by
  unfold startRenewal pass checkRenewal request readChallenge
  simp only [lift_bind, lift_pure, bind_assoc, pure_bind]

theorem startLegacy_eq (keyNo : UInt8) :
    startLegacy keyNo =
      pass (checkKeyNo keyNo) (fun _ => [0x1A, keyNo])
        fun _ => readChallenge .legacy keyNo 8 16 := by
  unfold startLegacy pass request readChallenge
  simp only [lift_bind, lift_pure]

/-! ## Second passes under AES -/

/-- The card's nonce in clear, and the proof that answers it. -/
def prepareProof (kind : Handshake) (key : AesKey) (c : Challenge) (rndA : Nonce) :
    Except Error (Nonce × Bytes) := do
  c.require kind
  let rndB ← cardNonce key c
  let proof ← token key rndA rndB
  return (rndB, proof)

/-- The card's answer to a proof, in clear. -/
def readProof (key : AesKey) (length : Nat) (reply : Bytes) : Except Error Bytes := do
  let encrypted ← readFinal length reply
  Cbc.decrypt (aes key) zeroIv encrypted

/-- The session that the card's answer to a first authentication opens. -/
def openSession (key : AesKey) (keyNo : UInt8) (rndA rndB : Nonce) (reply : Bytes) :
    Except Error Session := do
  let bytes ← readProof key 32 reply
  checkProof rndA.toList (FirstAnswer.ofBytes bytes).proof
  return (FirstAnswer.ofBytes bytes).session (SessionKeys.derive key rndA rndB) keyNo

/-- The session that the card's answer to a renewed authentication leaves. -/
def renewSession (s : Session) (key : AesKey) (keyNo : UInt8) (rndA rndB : Nonce)
    (reply : Bytes) : Except Error Session := do
  let answer ← readProof key 16 reply
  checkProof rndA.toList answer
  let p ← s.requireAes .reauthentication
  let p' := p.withKeys (SessionKeys.derive key rndA rndB)
  return { s with protection := some (.aes p'), keyNo }

theorem finishFirst_eq (key : AesKey) (c : Challenge) (draw : NonceSource) :
    finishFirst key c draw =
      pass (prepareProof .first key c (draw 16)) (fun x => Chaining.continuation :: x.2)
        fun x => openSession key c.keyNo (draw 16) x.1 := by
  unfold finishFirst prove pass prepareProof openSession readProof
  simp only [lift_bind, lift_pure, bind_assoc, pure_bind]

/-! ## The renewed authentication -/

/-- The session that a second pass leaves if it succeeds. -/
def renewalPass (s : Session) (key : AesKey) (c : Challenge) (draw : NonceSource) :
    Conversation Session :=
  pass (prepareProof .renewal key c (draw 16)) (fun x => Chaining.continuation :: x.2)
    fun x => renewSession s key c.keyNo (draw 16) x.1

/-- The session that both passes leave if they succeed. -/
def renewalPasses (s : Session) (keyNo : UInt8) (key : AesKey) (draw : NonceSource) :
    Conversation Session :=
  startRenewal s keyNo >>= fun c => renewalPass s key c draw

/-- Whether the session can take new keys is known before the first of them is in place. -/
theorem takeKeys_eq (keys : SessionKeys) (keyNo : UInt8) :
    takeKeys keys keyNo = Action.replace fun s => do
      let p ← s.requireAes .reauthentication
      return { s with protection := some (.aes (p.withKeys keys)), keyNo } := by
  apply Action.ext
  intro s
  unfold takeKeys
  rw [Action.start_get_bind, Action.start_liftM_bind, Action.start_replace, run_lift_bind]
  cases s.requireAes .reauthentication <;> rfl

/-- All that can fail in a second pass comes before the first change of the session. -/
theorem finishRenewal_eq (key : AesKey) (c : Challenge) (draw : NonceSource) :
    finishRenewal key c draw = Action.replace fun s => renewalPass s key c draw := by
  unfold finishRenewal renewalPass prove pass prepareProof renewSession readProof
  simp only [takeKeys_eq, ← Action.converse_liftM, Action.converse_bind_replace]
  simp only [lift_bind, lift_pure, bind_assoc, pure_bind]

theorem runRenewal_eq (keyNo : UInt8) (key : AesKey) (draw : NonceSource) :
    runRenewal keyNo key draw = Action.replace fun s => renewalPasses s keyNo key draw := by
  apply Action.ext
  intro s
  unfold runRenewal
  simp only [finishRenewal_eq]
  rw [Action.start_get_bind, Action.converse_bind_replace]
  rfl

theorem renew_start (keyNo : UInt8) (key : AesKey) (draw : NonceSource) (s : Session) :
    (renew keyNo key draw).start s = (renewalPasses s keyNo key draw).run >>= fun
      | .ok s' => .done (.ok (), s')
      | .error err => .done (.error err, if noticed err then s.invalidate else s) := by
  unfold renew
  rw [Action.start_tryCatch, runRenewal_eq, Action.start_replace, bind_assoc]
  congr 1
  funext r
  cases r with
  | ok s' => rfl
  | error err =>
    simp only [Dialogue.done_bind, Action.replaced]
    cases noticed err <;> rfl

/-! ## Second passes under triple DES -/

/-- The card's nonce in clear, and the proof that answers it. -/
def prepareLegacyProof (key : TripleDesKey) (c : Challenge) (rndA : Bytes) :
    Except Error (Bytes × Bytes) := do
  c.require .legacy
  let rndB ← legacyNonce key c
  let proof ← legacyToken key c rndA rndB
  return (rndB, proof)

/-- The session that the card's answer to a proof opens. -/
def openLegacySession (key : TripleDesKey) (keyNo : UInt8) (rndA rndB proof reply : Bytes) :
    Except Error Session := do
  let encrypted ← readFinal key.nonceLength reply
  let answer ← Cbc.decrypt key.cipher (finalBlock proof) encrypted
  checkProof rndA answer
  let sessionKey ← key.deriveSession rndA rndB
  return Session.start (.tripleDes ⟨sessionKey⟩) keyNo

theorem finishLegacy_eq (key : TripleDesKey) (c : Challenge) (draw : NonceSource) :
    finishLegacy key c draw =
      pass (prepareLegacyProof key c (draw key.nonceLength).toList)
        (fun x => Chaining.continuation :: x.2)
        fun x => openLegacySession key c.keyNo (draw key.nonceLength).toList x.1 x.2 := by
  unfold finishLegacy pass prepareLegacyProof openLegacySession
  simp only [lift_bind, lift_pure, bind_assoc, pure_bind]

end Handshake

end CardLink
