import CardLink.Card.Request
import CardLink.Proofs.Passes

/-!
# What the operations of a handle come to

An operation of a handle is a dialogue between some checks before it and a change of the handle
after it. Each equation here names both, so that nothing built on them has to open an operation.
-/

namespace CardLink

namespace Action

variable {α β σ : Type}

/-- The operation sends nothing and changes nothing. -/
def Reads (a : Action σ α) : Prop := ∀ s, ∃ r, a.start s = .done (r, s)

theorem reads_pure (a : α) : (pure a : Action σ α).Reads := fun _ => ⟨_, rfl⟩

theorem reads_liftM (x : Except Error α) : (liftM x : Action σ α).Reads :=
  fun s => ⟨x, start_liftM x s⟩

theorem reads_get_liftM (f : σ → Except Error α) :
    (get >>= fun s => liftM (f s) : Action σ α).Reads :=
  fun s => ⟨f s, start_liftM (f s) s⟩

theorem reads_bind {a : Action σ α} {k : α → Action σ β} (ha : a.Reads) (hk : ∀ x, (k x).Reads) :
    (a >>= k).Reads := by
  intro s
  obtain ⟨r, hr⟩ := ha s
  rw [start_bind, hr]
  cases r with
  | error err => exact ⟨_, rfl⟩
  | ok x => exact hk x s

/-- Reading the result of an operation adds nothing to its plays. -/
theorem plays_bind_of_reads {P : Transcript → Except Error α × σ → Prop}
    {Q : Transcript → Except Error β × σ → Prop} {a : Action σ α} {k : α → Action σ β} {s : σ}
    (ha : (a.start s).Plays P) (hk : ∀ x, (k x).Reads)
    (herror : ∀ T err s', P T (.error err, s') → Q T (.error err, s'))
    (hok : ∀ T x r s', P T (.ok x, s') → Q T (r, s')) : ((a >>= k).start s).Plays Q := by
  rw [start_bind, Dialogue.plays_bind]
  refine ha.mono ?_
  rintro T ⟨r, s'⟩ h
  cases r with
  | error err =>
    show Q (T ++ []) (.error err, s')
    rw [List.append_nil]
    exact herror T err s' h
  | ok x =>
    obtain ⟨r, hr⟩ := hk x s'
    simp only [hr, Dialogue.plays_done, List.append_nil]
    exact hok T x r s' h

/-- What the frames say of the state after an operation, they still say after reading its result. -/
theorem plays_bind_reads {Q : Transcript → σ → Prop} {a : Action σ α} {k : α → Action σ β} {s : σ}
    (ha : (a.start s).Plays fun T e => Q T e.2) (hk : ∀ x, (k x).Reads) :
    ((a >>= k).start s).Plays fun T e => Q T e.2 :=
  plays_bind_of_reads ha hk (fun _ _ _ h => h) fun _ _ _ _ h => h

end Action

namespace Card

theorem done_start (a : Action Card Unit) (c : Card) :
    (done a).start c = a.start c >>= fun e => .done (e.1.map fun _ => Outcome.done, e.2) := by
  unfold done
  rw [Action.start_bind]
  congr 1
  funext ⟨r, c'⟩
  cases r <;> rfl

theorem onSession_start {α : Type} (s : Session)
    (f : Session → Dialogue (Except Error α × Session)) (c : Card) :
    (onSession s f).start c = f s >>= fun e => .done (e.1, { c with session := some e.2 }) := rfl

/-! ## Handshakes -/

theorem startFirst_start (keyNo : UInt8) (c : Card) :
    (startFirst keyNo).start c = match Handshake.checkFirst keyNo c.settings.capabilityBytes with
      | .error err => .done (.error err, c)
      | .ok _ => (Handshake.startFirst keyNo false c.settings.capabilityBytes).run >>= fun
        | .ok ch => .done (.ok (), { c.close with challenge := some ch })
        | .error err => .done (.error err, c.dropChallenge.afterFailure err) := by
  unfold startFirst
  rw [Action.start_get_bind, Action.start_liftM_bind]
  cases Handshake.checkFirst keyNo c.settings.capabilityBytes with
  | error err => rfl
  | ok _ =>
    simp only
    rw [Action.start_modify_bind, Action.start_bind, Action.start_attempt, bind_assoc]
    congr 1
    funext r
    cases r <;> rfl

theorem finishFirst_start (key : AesKey) (draw : NonceSource) (c : Card) :
    (finishFirst key draw).start c = match c.challenge with
      | none => .done (.error (.authenticationFailed .noHandshake), c)
      | some ch => (Handshake.finishFirst key ch draw).run >>= fun
        | .ok s => .done (.ok (), c.dropChallenge.adopt s)
        | .error err => .done (.error err, c.dropChallenge) := by
  unfold finishFirst
  rw [Action.start_get_bind]
  cases c.challenge with
  | none => rfl
  | some ch =>
    simp only
    rw [Action.start_modify_bind, Action.start_bind, Action.start_converse, bind_assoc]
    congr 1
    funext r
    cases r <;> rfl

theorem reauthenticate_start (keyNo : UInt8) (key : AesKey) (draw : NonceSource) (c : Card) :
    (reauthenticate keyNo key draw).start c =
      match Handshake.checkKeyNo keyNo, c.session with
      | .error err, _ => .done (.error err, c.dropChallenge)
      | .ok _, none => .done (.error .notAuthenticated, c.dropChallenge)
      | .ok _, some s => (Handshake.renewalPasses s keyNo key draw).run >>= fun
        | .ok s' => .done (.ok (), { c.dropChallenge with session := some s' })
        | .error err => .done (.error err,
          if Handshake.noticed err then { c.dropChallenge with session := some s.invalidate }
          else c.dropChallenge) := by
  unfold reauthenticate
  rw [Action.start_modify_bind, Action.start_liftM_bind]
  cases Handshake.checkKeyNo keyNo with
  | error err => rfl
  | ok _ =>
    have hdrop : c.dropChallenge.session = c.session := rfl
    simp only
    rw [Action.start_get_bind, hdrop]
    cases hs : c.session with
    | none => rfl
    | some s =>
      -- What a failed attempt leaves behind is the session that the handle held already.
      have hsame : { c.dropChallenge with session := some s } = c.dropChallenge := by
        rw [← hs]
        rfl
      simp only
      rw [onSession_start, Handshake.renew_start, bind_assoc]
      congr 1
      funext r
      cases r with
      | ok s' => rfl
      | error err =>
        simp only [Dialogue.done_bind]
        split_ifs
        · rfl
        · rw [hsame]

theorem authenticateLegacy_start (keyNo : UInt8) (key : TripleDesKey) (draw : NonceSource)
    (c : Card) :
    (authenticateLegacy keyNo key draw).start c = match Handshake.checkKeyNo keyNo with
      | .error err => .done (.error err, c)
      | .ok _ => (Handshake.runLegacy keyNo key draw).run >>= fun
        | .ok s => .done (.ok (), c.close.adopt s)
        | .error err => .done (.error err, c.dropChallenge.afterFailure err) := by
  unfold authenticateLegacy
  rw [Action.start_liftM_bind]
  cases Handshake.checkKeyNo keyNo with
  | error err => rfl
  | ok _ =>
    simp only
    rw [Action.start_modify_bind, Action.start_bind, Action.start_attempt, bind_assoc]
    congr 1
    funext r
    cases r <;> rfl

/-! ## Exchanges -/

theorem issueClear_start (settings : Settings) (cmd : Command) (c : Card) :
    (issueClear settings cmd).start c =
      (Chaining.roundTrip settings cmd.clearFrame).run >>= fun r =>
        .done (r.map Reply.data, c) := by
  unfold issueClear
  rw [Action.start_bind, Action.start_converse, bind_assoc]
  congr 1
  funext r
  cases r <;> rfl

theorem issue_start (cmd : Command) (c : Card) :
    (issue cmd).start c = match c.session with
      | some s =>
        if s.isValid then
          s.issue c.settings cmd >>= fun e =>
            .done (e.1, { c.dropChallenge with session := some e.2 })
        else if cmd.mode.isSecured then .done (.error .sessionInvalidated, c.dropChallenge)
        else (Chaining.roundTrip c.settings cmd.clearFrame).run >>= fun r =>
          .done (r.map Reply.data, c.dropChallenge)
      | none =>
        if cmd.mode.isSecured then .done (.error .notAuthenticated, c.dropChallenge)
        else (Chaining.roundTrip c.settings cmd.clearFrame).run >>= fun r =>
          .done (r.map Reply.data, c.dropChallenge) := by
  unfold issue
  rw [Action.start_modify_bind, Action.start_get_bind]
  have hdrop : c.dropChallenge.session = c.session := rfl
  simp only [hdrop]
  cases c.session with
  | none =>
    simp only
    split_ifs
    · rfl
    · exact issueClear_start _ cmd _
  | some s =>
    simp only
    split_ifs
    · rfl
    · rfl
    · exact issueClear_start _ cmd _

/-- A command is refused without a frame, or goes out in clear, or goes through the session. -/
theorem issue_plays {P : Transcript → Except Error Bytes × Card → Prop} {cmd : Command} {c : Card}
    (hrefused : ∀ err, P [] (.error err, c.dropChallenge))
    (hclear : cmd.mode.isSecured = false → (Chaining.roundTrip c.settings cmd.clearFrame).run.Plays
      fun T r => P T (r.map Reply.data, c.dropChallenge))
    (hissued : ∀ s, c.session = some s → s.isValid = true → (s.issue c.settings cmd).Plays
      fun T e => P T (e.1, { c.dropChallenge with session := some e.2 })) :
    ((issue cmd).start c).Plays P := by
  rw [issue_start]
  cases hs : c.session with
  | none =>
    by_cases hmode : cmd.mode.isSecured = true
    · simp only [if_pos hmode]
      exact hrefused _
    · simp only [if_neg hmode, Dialogue.plays_bind_done]
      exact hclear (Bool.not_eq_true _ ▸ hmode)
  | some s =>
    by_cases hv : s.isValid = true
    · simp only [if_pos hv, Dialogue.plays_bind_done]
      exact hissued s hs hv
    · by_cases hmode : cmd.mode.isSecured = true
      · simp only [if_neg hv, if_pos hmode]
        exact hrefused _
      · simp only [if_neg hv, if_neg hmode, Dialogue.plays_bind_done]
        exact hclear (Bool.not_eq_true _ ▸ hmode)

/-- A selection goes out without protection, since the session is over by then. -/
theorem select_start (aid : Aid) (c : Card) :
    (select aid).start c =
      (Chaining.roundTrip c.settings (selectCommand aid).clearFrame).run >>= fun
        | .ok _ => .done (.ok (), { c.close with application := aid })
        | .error err => .done (.error err, c.close) := by
  have hissue : (issue (selectCommand aid)).start c.close =
      (Chaining.roundTrip c.settings (selectCommand aid).clearFrame).run >>= fun r =>
        .done (r.map Reply.data, c.close) := issue_start (selectCommand aid) c.close
  unfold select
  rw [Action.start_modify_bind, Action.start_bind, hissue, bind_assoc]
  congr 1
  funext r
  cases r <;> rfl

theorem updateKey_start (u : KeyUpdate) (keySet : Option UInt8) (c : Card) :
    (updateKey u keySet).start c = match c.session with
      | some s =>
        if s.isValid then
          s.updateKey c.settings u keySet >>= fun e =>
            .done (e.1, { c.dropChallenge with session := some e.2 })
        else .done (.error .sessionInvalidated, c.dropChallenge)
      | none => .done (.error .notAuthenticated, c.dropChallenge) := by
  unfold updateKey
  rw [Action.start_modify_bind, Action.start_get_bind]
  have hdrop : c.dropChallenge.session = c.session := rfl
  simp only [hdrop]
  cases c.session with
  | none => rfl
  | some s =>
    simp only
    split_ifs <;> rfl

/-- A key update is refused without a frame, or goes through the session. -/
theorem updateKey_plays {P : Transcript → Except Error Unit × Card → Prop} {u : KeyUpdate}
    {keySet : Option UInt8} {c : Card} (hrefused : ∀ err, P [] (.error err, c.dropChallenge))
    (hissued : ∀ s, c.session = some s → s.isValid = true →
      (s.updateKey c.settings u keySet).Plays
        fun T e => P T (e.1, { c.dropChallenge with session := some e.2 })) :
    ((updateKey u keySet).start c).Plays P := by
  rw [updateKey_start]
  cases hs : c.session with
  | none => exact hrefused _
  | some s =>
    by_cases hv : s.isValid = true
    · simp only [if_pos hv, Dialogue.plays_bind_done]
      exact hissued s hs hv
    · simp only [if_neg hv]
      exact hrefused _

end Card

end CardLink
