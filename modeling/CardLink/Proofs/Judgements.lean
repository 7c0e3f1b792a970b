import CardLink.Proofs.Plays
import CardLink.Session.Issue

/-!
# Judgements of answers

What the host makes of a command or an answer by itself can fail, but never with an error that
speaks of the transport or of a session that was over before.
-/

namespace CardLink

variable {α β : Type}

/-- The error is about bytes sent or received, not about the transport or a session that is over. -/
def blamesAnswer : Error → Bool
  | .transport _ => false
  | .sessionInvalidated => false
  | .unsupported _ => false
  | _ => true

/-- A computation whose errors are all about bytes sent or received. -/
def JudgesAnswer (x : Except Error α) : Prop := ∀ err, x = .error err → blamesAnswer err = true

theorem judgesAnswer_ok (a : α) : JudgesAnswer (.ok a) := by
  intro err h
  cases h

theorem judgesAnswer_error {err : Error} (h : blamesAnswer err = true) :
    JudgesAnswer (.error err : Except Error α) := by
  intro err' h'
  cases h'
  exact h

theorem JudgesAnswer.bind {x : Except Error α} {f : α → Except Error β} (hx : JudgesAnswer x)
    (hf : ∀ a, JudgesAnswer (f a)) : JudgesAnswer (x >>= f) := by
  intro err h
  rcases bind_error h with hx' | ⟨a, -, ha⟩
  · exact hx err hx'
  · exact hf a err ha

theorem judgesAnswer_check {p : Prop} [Decidable p] {a : α} {err : Error}
    (h : blamesAnswer err = true) : JudgesAnswer (if p then .ok a else .error err) := by
  split_ifs
  · exact judgesAnswer_ok a
  · exact judgesAnswer_error h

/-! ## Replies -/

theorem judgesAnswer_statusCheck (code : UInt8) : JudgesAnswer (CardStatus.check code) := by
  unfold CardStatus.check
  exact judgesAnswer_check rfl

theorem judgesAnswer_checkContinues (answer : Bytes) :
    JudgesAnswer (Chaining.checkContinues answer) := by
  unfold Chaining.checkContinues
  split
  · exact judgesAnswer_error rfl
  · split_ifs
    · exact judgesAnswer_ok _
    · exact (judgesAnswer_statusCheck _).bind fun _ => judgesAnswer_error rfl

theorem judgesAnswer_checkThreshold (max : Nat) : JudgesAnswer (Chaining.checkThreshold max) := by
  unfold Chaining.checkThreshold
  split_ifs
  · exact judgesAnswer_error rfl
  · exact judgesAnswer_ok _

/-! ## Protected data -/

theorem judgesAnswer_cbc {n : Nat} (f : List (Octets n) → List (Octets n)) (data : Bytes) :
    JudgesAnswer (do
      Cbc.checkAligned n .cipherInput data
      return Octets.join (f (Cbc.blocksOf n data))) := by
  exact JudgesAnswer.bind (judgesAnswer_check rfl) fun _ => judgesAnswer_ok _

theorem judgesAnswer_next (c : Counter) : JudgesAnswer c.next := by
  unfold Counter.next
  split_ifs
  · exact judgesAnswer_error rfl
  · exact judgesAnswer_ok _

theorem judgesAnswer_verified (p : AesProtection) (r : Reply) : JudgesAnswer (p.verified r) := by
  unfold AesProtection.verified Reply.detachTag
  refine (judgesAnswer_next p.counter).bind fun next => JudgesAnswer.bind ?_ fun parts => ?_
  · split_ifs
    · exact judgesAnswer_error rfl
    · exact judgesAnswer_ok _
  · exact judgesAnswer_check rfl

theorem judgesAnswer_decrypted (p : AesProtection) (payload : Bytes) :
    JudgesAnswer (p.decrypted payload) := by
  unfold AesProtection.decrypted
  refine (judgesAnswer_next p.counter).bind fun next => ?_
  exact JudgesAnswer.bind (judgesAnswer_check rfl) fun _ => judgesAnswer_cbc _ payload

theorem judgesAnswer_recover (p : Protection) (mode : CommMode) (r : Reply) :
    JudgesAnswer (p.recover mode r) := by
  cases p with
  | aes p =>
    refine (judgesAnswer_statusCheck r.status).bind fun _ => ?_
    cases mode with
    | plain => exact judgesAnswer_ok _
    | mac => exact judgesAnswer_verified p r
    | full => exact (judgesAnswer_verified p r).bind fun payload => judgesAnswer_decrypted p payload
  | tripleDes p =>
    refine (judgesAnswer_statusCheck r.status).bind fun _ => ?_
    by_cases h : mode = .full
    · simp only [h, if_true]
      exact JudgesAnswer.bind (judgesAnswer_check rfl) fun _ => judgesAnswer_cbc _ r.data
    · simp only [h, if_false]
      exact judgesAnswer_ok _

theorem judgesAnswer_step (p : Protection) : JudgesAnswer p.step := by
  cases p with
  | aes p =>
    unfold Protection.step AesProtection.step
    cases h : p.counter.next with
    | error err =>
      simp only [h]
      exact judgesAnswer_error (judgesAnswer_next p.counter err h)
    | ok next =>
      simp only [h]
      exact judgesAnswer_ok _
  | tripleDes p => exact judgesAnswer_ok _

theorem judgesAnswer_protect (p : Protection) (c : Command) : JudgesAnswer (p.protect c) := by
  cases p with
  | aes p =>
    have hbody : JudgesAnswer (p.body c) := by
      unfold AesProtection.body
      cases c.mode with
      | plain => exact judgesAnswer_ok _
      | mac => exact judgesAnswer_ok _
      | full =>
        exact JudgesAnswer.bind (judgesAnswer_check rfl) fun _ => judgesAnswer_cbc _ c.payload
    have hframe : JudgesAnswer (p.frame c) := hbody.bind fun body => judgesAnswer_ok _
    unfold Protection.protect AesProtection.protect
    simp only
    split_ifs
    · exact (judgesAnswer_next p.counter).bind fun _ => hframe
    · exact hframe
  | tripleDes p =>
    unfold Protection.protect TripleDesProtection.protect
    simp only
    split_ifs
    · refine JudgesAnswer.bind (judgesAnswer_check rfl) fun _ => ?_
      exact (judgesAnswer_cbc _ c.payload).bind fun body => judgesAnswer_ok _
    · exact judgesAnswer_ok _

/-- A session that is still valid refuses a command by the command and the settings alone. -/
theorem judgesAnswer_protectedFrame {s : Session} (hs : s.isValid = true) (settings : Settings)
    (c : Command) : JudgesAnswer (s.protectedFrame settings c) := by
  obtain ⟨p, hp⟩ := Option.isSome_iff_exists.mp hs
  unfold Session.protectedFrame Session.requireProtection
  rw [hp]
  refine JudgesAnswer.bind (judgesAnswer_checkThreshold _) fun _ => ?_
  exact judgesAnswer_protect p c

/-- A session that is still valid accepts or rejects a reply by the reply alone. -/
theorem judgesAnswer_accept {s : Session} (hs : s.isValid = true) (mode : CommMode) (r : Reply) :
    JudgesAnswer (s.accept mode r) := by
  obtain ⟨p, hp⟩ := Option.isSome_iff_exists.mp hs
  unfold Session.accept Session.requireProtection
  rw [hp]
  refine (judgesAnswer_recover p mode r).bind fun data => ?_
  split_ifs
  · exact (judgesAnswer_step p).bind fun p' => judgesAnswer_ok _
  · exact judgesAnswer_ok _

end CardLink
