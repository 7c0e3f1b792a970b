import CardLink.Proofs.Agreements
import CardLink.Proofs.FailedExchanges

/-!
# Sessions that are over

A session that was invalidated has no protection, and nothing gives it one again. An exchange is
refused before its first frame, and so is the first pass of a renewed authentication. The second
pass looks at the session last: with a challenge from an earlier time its token still goes out, and
only then the pass fails.

1. No use of a session that is over succeeds or changes it, and none but a second pass hands over a
   frame (`conduct_of_over`).
2. So it goes through every sequence of uses (`conductAll_of_over`), and the frames handed over on
   the way are the tokens of the second passes (`over_for_good`).
-/

namespace CardLink.Session

open Handshake

/-! ## Uses of a session -/

/-- A use of a session: an exchange, or one pass of a renewed authentication. -/
inductive Use where
  | issue (settings : Settings) (c : Command)
  | updateKey (settings : Settings) (u : KeyUpdate) (keySet : Option UInt8)
  | startRenewal (keyNo : UInt8)
  | finishRenewal (key : AesKey) (ch : Challenge) (draw : NonceSource)

/-- What a use yields. -/
inductive Yield where
  | data (bs : Bytes)
  | done
  | challenge (ch : Challenge)
  deriving DecidableEq

namespace Use

/-- A use, and the session after it. A first pass only reads the session. -/
def conduct (s : Session) : Use → Dialogue (Except Error Yield × Session)
  | issue settings c => do
    let (r, s') ← s.issue settings c
    return (r.map .data, s')
  | updateKey settings u keySet => do
    let (r, s') ← s.updateKey settings u keySet
    return (r.map fun _ => .done, s')
  | startRenewal keyNo => do
    let r ← (Handshake.startRenewal s keyNo).run
    return (r.map .challenge, s)
  | finishRenewal key ch draw => do
    let (r, s') ← (Handshake.finishRenewal key ch draw).start s
    return (r.map fun _ => .done, s')

/-- Uses one after the other, whether or not they succeed. -/
def conductAll : List Use → Session → Dialogue (List (Except Error Yield) × Session)
  | [], s => .done ([], s)
  | u :: us, s => do
    let (r, s') ← u.conduct s
    let (rs, s'') ← conductAll us s'
    return (r :: rs, s'')

/-- The use is a second pass, and its challenge is of that handshake and holds a nonce. -/
def answersChallenge : Use → Bool
  | finishRenewal _ ch _ => ch.kind = .renewal ∧ ch.encryptedNonce.length = 16
  | _ => false

/-- The tokens that a use hands over without a look at the session. -/
def tokens : Use → List Bytes
  | finishRenewal key ch draw =>
    (prepareProof .renewal key ch (draw 16)).toOption.toList.map fun x =>
      Chaining.continuation :: x.2
  | _ => []

theorem tokens_finishRenewal (key : AesKey) (ch : Challenge) (draw : NonceSource) :
    (finishRenewal key ch draw).tokens =
      (prepareProof .renewal key ch (draw 16)).toOption.toList.map fun x =>
        Chaining.continuation :: x.2 :=
  rfl

theorem tokens_eq_nil_iff (u : Use) : u.tokens = [] ↔ u.answersChallenge = false := by
  cases u with
  | issue | updateKey | startRenewal => exact iff_of_true rfl rfl
  | finishRenewal key ch draw =>
    have hproof : (∃ x, prepareProof .renewal key ch (draw 16) = .ok x) ↔ _ := prepareProof_ok_iff
    unfold answersChallenge
    rw [tokens_finishRenewal, decide_eq_false_iff_not, ← hproof]
    cases hx : prepareProof .renewal key ch (draw 16) <;> simp [Except.toOption]

end Use

/-! ## Uses of a session that is over -/

variable {s : Session}

theorem requireAes_of_over (hs : s.protection = none) (operation : AesOnly) :
    s.requireAes operation = .error .sessionInvalidated := by
  unfold requireAes requireProtection
  rw [hs]
  rfl

theorem afterRefusal_of_over (hs : s.protection = none) (err : Error) : s.afterRefusal err = s := by
  have hinvalid : s.invalidate = s := by
    unfold invalidate
    rw [← hs]
  unfold afterRefusal
  rw [hinvalid, ite_self]

/-- A use that hands over the given frames, fails and leaves the session alone. -/
def Futile (s : Session) (frames : List Bytes) (T : Transcript)
    (e : Except Error Yield × Session) : Prop :=
  T.map Prod.fst = frames ∧ (∃ err, e.1 = .error err) ∧ e.2 = s

theorem issue_of_over (hs : s.protection = none) (settings : Settings) (c : Command) :
    ((Use.issue settings c).conduct s).Plays (Futile s []) := by
  show Dialogue.Plays _ (s.issue settings c >>= fun e => .done (e.1.map Yield.data, e.2))
  rw [Dialogue.plays_bind_done]
  refine (s.issueWith_plays settings c (s.accept c.mode)).mono ?_
  intro T e hplay
  cases hplay with
  | @refused err _ => exact ⟨rfl, ⟨err, rfl⟩, afterRefusal_of_over hs err⟩
  | settled hp =>
    rw [hs] at hp
    cases hp

theorem updateKey_of_over (hs : s.protection = none) (settings : Settings) (u : KeyUpdate)
    (keySet : Option UInt8) :
    ((Use.updateKey settings u keySet).conduct s).Plays (Futile s []) := by
  have hcommand : u.commandIn s keySet = .error .sessionInvalidated := by
    unfold KeyUpdate.commandIn
    rw [requireAes_of_over hs]
    rfl
  show Dialogue.Plays _
    (s.updateKey settings u keySet >>= fun e => .done (e.1.map fun _ => Yield.done, e.2))
  rw [Dialogue.plays_bind_done]
  unfold updateKey
  rw [hcommand]
  exact ⟨rfl, ⟨_, rfl⟩, rfl⟩

theorem startRenewal_of_over (hs : s.protection = none) (keyNo : UInt8) :
    ((Use.startRenewal keyNo).conduct s).Plays (Futile s []) := by
  have hcheck : ∃ err, checkRenewal s keyNo = .error err := by
    unfold checkRenewal
    rw [requireAes_of_over hs]
    cases checkKeyNo keyNo <;> exact ⟨_, rfl⟩
  obtain ⟨err, hcheck⟩ := hcheck
  show Dialogue.Plays _
    ((Handshake.startRenewal s keyNo).run >>= fun r => .done (r.map Yield.challenge, s))
  rw [Dialogue.plays_bind_done, startRenewal_eq, pass_run, hcheck]
  exact ⟨rfl, ⟨err, rfl⟩, rfl⟩

/-- No answer of the card makes a session of one that is over. -/
theorem renewSession_of_over (hs : s.protection = none) (key : AesKey) (keyNo : UInt8)
    (rndA rndB : Nonce) (reply : Bytes) :
    ∃ err, renewSession s key keyNo rndA rndB reply = .error err := by
  cases h : renewSession s key keyNo rndA rndB reply with
  | error err => exact ⟨err, rfl⟩
  | ok s' =>
    obtain ⟨-, p, -, -, -, hp, -⟩ := renewSession_eq_ok.mp h
    rw [hs] at hp
    cases hp

theorem finishRenewal_of_over (hs : s.protection = none) (key : AesKey) (ch : Challenge)
    (draw : NonceSource) :
    ((Use.finishRenewal key ch draw).conduct s).Plays
      (Futile s (Use.finishRenewal key ch draw).tokens) := by
  show Dialogue.Plays _ ((Handshake.finishRenewal key ch draw).start s >>= fun e =>
    .done (e.1.map fun _ => Yield.done, e.2))
  rw [Dialogue.plays_bind_done, finishRenewal_eq, Action.plays_replace, Use.tokens_finishRenewal]
  refine pass_plays ?_ ?_
  · intro err hprepare
    rw [hprepare]
    exact ⟨rfl, ⟨err, rfl⟩, rfl⟩
  · intro x hprepare r
    rw [hprepare]
    refine ⟨rfl, ?_⟩
    cases r with
    | error fault => exact ⟨⟨_, rfl⟩, rfl⟩
    | ok reply =>
      obtain ⟨err, hreply⟩ := renewSession_of_over hs key ch.keyNo (draw 16) x.1 reply
      rw [Delivery.result_ok_bind, hreply]
      exact ⟨⟨err, rfl⟩, rfl⟩

/-- On a session that is over every use is futile. -/
theorem conduct_of_over (hs : s.protection = none) (u : Use) :
    (u.conduct s).Plays (Futile s u.tokens) := by
  cases u with
  | issue settings c => exact issue_of_over hs settings c
  | updateKey settings u keySet => exact updateKey_of_over hs settings u keySet
  | startRenewal keyNo => exact startRenewal_of_over hs keyNo
  | finishRenewal key ch draw => exact finishRenewal_of_over hs key ch draw

/-- On a session that is over every sequence of uses is futile. -/
theorem conductAll_of_over (hs : s.protection = none) (us : List Use) :
    (Use.conductAll us s).Plays fun T e =>
      T.map Prod.fst = us.flatMap Use.tokens ∧ e.1.length = us.length ∧
        (∀ r ∈ e.1, ∃ err, r = .error err) ∧ e.2 = s := by
  induction us with
  | nil => exact ⟨rfl, rfl, fun r hr => (List.not_mem_nil hr).elim, rfl⟩
  | cons u us ih =>
    show Dialogue.Plays _ (u.conduct s >>= fun e => Use.conductAll us e.2 >>= fun e' =>
      .done (e.1 :: e'.1, e'.2))
    rw [Dialogue.plays_bind]
    refine (conduct_of_over hs u).mono ?_
    rintro T ⟨r, s'⟩ ⟨hframes, hfails, rfl⟩
    rw [Dialogue.plays_bind_done]
    refine ih.mono ?_
    rintro T' ⟨rs, s''⟩ ⟨hframes', hlength, hfail', hsame⟩
    refine ⟨?_, congrArg Nat.succ hlength, List.forall_mem_cons.mpr ⟨hfails, hfail'⟩, hsame⟩
    rw [List.map_append, hframes, hframes', List.flatMap_cons]

/-- **A session that is over.** Whatever is done with an invalidated session, and whatever comes
back: every use of it fails, and in the end it is the session that it was. The frames handed over
are the tokens of second passes of renewed authentications, so nothing is handed over exactly if no
use is a second pass that answers a challenge of its handshake. -/
theorem over_for_good {σ : Type} (s : Session) (hs : s.isValid = false) (us : List Use)
    (t : Transport σ) (w : σ) :
    let e := ((Use.conductAll us s).run t w).1
    let frames := ((Use.conductAll us s).transcript t w).map Prod.fst
    e.2 = s ∧ e.1.length = us.length ∧ (∀ r ∈ e.1, ∃ err, r = .error err) ∧
      frames = us.flatMap Use.tokens ∧ (frames = [] ↔ ∀ u ∈ us, u.answersChallenge = false) := by
  intro e frames
  have hover : s.protection = none := by
    simpa [isValid] using hs
  obtain ⟨hframes, hlength, hfail, hsame⟩ := (conductAll_of_over hover us).run t w
  refine ⟨hsame, hlength, hfail, hframes, ?_⟩
  have hnil : frames = [] ↔ ∀ u ∈ us, u.tokens = [] := by
    rw [show frames = us.flatMap Use.tokens from hframes, List.flatMap_eq_nil_iff]
  simpa only [Use.tokens_eq_nil_iff] using hnil

/-! ### A challenge kept from before the end -/

/-- The second pass with a challenge under the zero key. -/
def sampleAnswer : Use :=
  .finishRenewal (Octets.zero 16) ⟨.renewal, 0, List.replicate 16 0⟩ (.repeating [])

theorem over_for_good_sample :
    sample.invalidate.isValid = false ∧
      ((Use.conductAll [.issue {} sampleCommand, sampleAnswer] sample.invalidate).run
        Script.transport { replies := [.ok [CardStatus.ok]] }).1.2 = sample.invalidate :=
  ⟨rfl, (over_for_good sample.invalidate rfl [.issue {} sampleCommand, sampleAnswer]
    Script.transport { replies := [.ok [CardStatus.ok]] }).1⟩

/-- A valid session asks for a renewed authentication and gets a challenge. After it was
invalidated, the second pass still hands its token over. -/
theorem token_after_end :
    (((Use.startRenewal 0).conduct sample).run Script.transport
        { replies := [.ok (CardStatus.additionalFrame :: List.replicate 16 0)] }).1 =
      (.ok (.challenge ⟨.renewal, 0, List.replicate 16 0⟩), sample) ∧
    (((sampleAnswer.conduct sample.invalidate).transcript Script.transport {}).map
      fun e => e.1.length) = [33] := by
  decide +kernel

end CardLink.Session
