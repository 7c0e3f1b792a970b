import CardLink.Proofs.CommandRequests
import CardLink.Proofs.ExchangePlays

/-!
# Exchanges of a session and of a handle

An exchange moves the counter of a session on exactly if the response verified, and any error that
comes after verification ends the session. So every request that is no handshake leaves the session
as it was, ends it, or has shown one verified exchange and moved the counter on by one.
-/

namespace CardLink

/-! ## Exchanges of a session -/

theorem AesProtection.verifiedIn_nil (p : AesProtection) (settings : Settings) (cmd : Command) :
    p.verifiedIn settings cmd [] = false := by
  unfold verifiedIn
  cases p.protect cmd with
  | error err => simp
  | ok frame => simp [Chaining.responseIn, Reply.ofDeliveries]

theorem AesProtection.verifiedIn_eq {p : AesProtection} {settings : Settings} {cmd : Command}
    {frame : Bytes} (hframe : p.protect cmd = .ok frame) {T : Transcript}
    {r : Except Error Reply} (h : Chaining.RoundTripPlay settings frame T r) :
    p.verifiedIn settings cmd T = (cmd.mode.isSecured && match r with
      | .error _ => false
      | .ok reply => (p.verified reply).isOk) := by
  unfold verifiedIn
  simp only [hframe]
  cases r with
  | ok reply =>
    obtain ⟨hresponse, hstatus⟩ := (h.responseIn reply).mp rfl
    simp [hresponse, hstatus]
  | error err =>
    cases hresponse : Chaining.responseIn settings frame T with
    | none => rfl
    | some reply =>
      have hstatus : reply.status ≠ CardStatus.ok := by
        intro hstatus
        cases (h.responseIn reply).mpr ⟨hresponse, hstatus⟩
      simp [hstatus]

theorem AesProtection.recover_secured (p : AesProtection) {mode : CommMode}
    (hmode : mode.isSecured = true) {r : Reply} (hstatus : CardStatus.check r.status = .ok ()) :
    p.recover mode r = p.verified r >>= fun payload =>
      if mode = .full then p.decrypted payload else .ok payload := by
  unfold recover
  rw [hstatus]
  cases mode with
  | plain => cases hmode
  | mac => cases p.verified r <;> simp [bind, Except.bind]
  | full => simp [bind, Except.bind]

theorem Counter.leavesInStep_next {c : Counter} {err : Error} (h : c.next = .error err) :
    err.leavesInStep = false := by
  unfold next at h
  split_ifs at h
  cases h
  rfl

theorem AesProtection.leavesInStep_step {p : AesProtection} {err : Error}
    (h : p.step = .error err) : err.leavesInStep = false := by
  rcases bind_error h with hnext | ⟨next, -, h⟩
  · exact Counter.leavesInStep_next hnext
  · cases h

/-- Data that verified but cannot be decrypted is not taken for a refusal. -/
theorem AesProtection.leavesInStep_decrypted {p : AesProtection} {payload : Bytes} {err : Error}
    (h : p.decrypted payload = .error err) : err.leavesInStep = false := by
  rcases bind_error h with hnext | ⟨next, -, h⟩
  · exact Counter.leavesInStep_next hnext
  unfold Cbc.decrypt Cbc.checkAligned at h
  split_ifs at h <;> cases h
  rfl

namespace Session

/-- What an exchange makes of a session under AES: the session ends, or it moves on by one counter
exactly if a response verified. -/
def Advances (s : Session) (p : AesProtection) (verified : Bool) (s' : Session) : Prop :=
  s'.protection = none ∨ (verified = false ∧ s' = s) ∨
    (verified = true ∧ ∃ p', p.step = .ok p' ∧ s' = { s with protection := some (.aes p') })

theorem advances_afterFailure {s : Session} {p : AesProtection} {err : Error} {verified : Bool}
    (h : verified = true → err.leavesInStep = false) :
    s.Advances p verified (s.afterFailure err) := by
  unfold afterFailure
  split_ifs with hstep
  · refine Or.inr (Or.inl ⟨?_, rfl⟩)
    cases verified with
    | false => rfl
    | true => rw [h rfl] at hstep; cases hstep
  · exact Or.inl rfl

/-- The data of a secured response, and the session moved on. -/
theorem accept_secured {s : Session} {p : AesProtection} (hp : s.protection = some (.aes p))
    {mode : CommMode} (hmode : mode.isSecured = true) {r : Reply} :
    s.accept mode r = do
      let data ← p.recover mode r
      let p' ← p.step
      return (data, { s with protection := some (.aes p') }) := by
  unfold accept requireProtection
  rw [hp]
  show (p.recover mode r >>= fun data => _) = (p.recover mode r >>= fun data => _)
  congr 1
  funext data
  rw [if_pos hmode]
  show (p.step.map Protection.aes >>= fun p' => _) = _
  cases p.step <;> rfl

theorem advances_settle_accept {s : Session} {p : AesProtection}
    (hp : s.protection = some (.aes p)) (mode : CommMode) {r : Reply}
    (hstatus : r.status = CardStatus.ok) :
    s.Advances p (mode.isSecured && (p.verified r).isOk) (s.settle (s.accept mode r)).2 := by
  by_cases hmode : mode.isSecured = true
  · rw [accept_secured hp hmode, hmode, Bool.true_and]
    rw [p.recover_secured hmode (by rw [hstatus]; rfl)]
    cases hverified : p.verified r with
    | error err => exact advances_afterFailure (by simp [Except.isOk, Except.toBool])
    | ok payload =>
      show s.Advances p true
        (s.settle ((if mode = .full then p.decrypted payload else .ok payload) >>= _)).2
      cases hdata : (if mode = .full then p.decrypted payload else .ok payload) with
      | error err =>
        refine advances_afterFailure fun _ => ?_
        split_ifs at hdata
        exact AesProtection.leavesInStep_decrypted hdata
      | ok data =>
        cases hstep : p.step with
        | error err =>
          refine advances_afterFailure fun _ => ?_
          exact AesProtection.leavesInStep_step hstep
        | ok p' => exact Or.inr (Or.inr ⟨rfl, p', hstep, rfl⟩)
  · have hplain : mode = .plain := by
      cases mode <;> first | rfl | exact absurd rfl hmode
    subst hplain
    have haccept : s.accept .plain r = .ok (r.data, s) := by
      unfold accept requireProtection
      rw [hp]
      show (CardStatus.check r.status >>= fun _ => _) >>= _ = _
      rw [hstatus]
      rfl
    rw [haccept]
    exact Or.inr (Or.inl ⟨rfl, rfl⟩)

theorem issue_advances {s : Session} {p : AesProtection} (hp : s.protection = some (.aes p))
    (settings : Settings) (cmd : Command) :
    (s.issue settings cmd).Plays fun T e => s.Advances p (p.verifiedIn settings cmd T) e.2 := by
  refine (s.issueWith_plays settings cmd (s.accept cmd.mode)).mono ?_
  intro T e hplay
  cases hplay with
  | @refused err _ =>
    show s.Advances p (p.verifiedIn settings cmd []) (s.afterRefusal err)
    rw [AesProtection.verifiedIn_nil]
    unfold afterRefusal
    split_ifs
    · exact Or.inl rfl
    · exact Or.inr (Or.inl ⟨rfl, rfl⟩)
  | @settled q frame _ outcome hq hmax hframe htrip =>
    rw [hp] at hq
    cases hq
    rw [AesProtection.verifiedIn_eq hframe htrip]
    cases outcome with
    | error err => exact advances_afterFailure (by simp)
    | ok reply =>
      exact advances_settle_accept hp cmd.mode (htrip.responseIn reply |>.mp rfl).2

theorem protection_afterFailure (s : Session) (err : Error) :
    (s.afterFailure err).protection = none ∨ s.afterFailure err = s := by
  unfold afterFailure
  split_ifs
  · exact Or.inr rfl
  · exact Or.inl rfl

theorem protection_afterRefusal (s : Session) (err : Error) :
    (s.afterRefusal err).protection = none ∨ s.afterRefusal err = s := by
  unfold afterRefusal
  split_ifs
  · exact Or.inl rfl
  · exact Or.inr rfl

/-- An exchange ends a session, leaves it, or does what `finish` says. -/
theorem issueWith_ends {α : Type} {s : Session} {settings : Settings} {cmd : Command}
    {finish : Reply → Except Error (α × Session)} {P : Session → Prop} (hs : P s)
    (hover : P s.invalidate) (hfinish : ∀ r a s', finish r = .ok (a, s') → P s') :
    (s.issueWith settings cmd finish).Plays fun _ e => P e.2 := by
  refine (s.issueWith_plays settings cmd finish).mono ?_
  intro T e hplay
  cases hplay with
  | @refused err _ =>
    show P (s.afterRefusal err)
    unfold afterRefusal
    split_ifs
    · exact hover
    · exact hs
  | @settled p frame _ outcome =>
    cases h : outcome >>= finish with
    | error err =>
      show P (s.afterFailure err)
      unfold afterFailure
      split_ifs
      · exact hs
      · exact hover
    | ok e =>
      obtain ⟨r, -, hr⟩ := bind_ok h
      exact hfinish r e.1 e.2 hr

/-- A session under triple DES does not turn into one under AES. -/
theorem issue_tripleDes {s : Session} {q : TripleDesProtection}
    (hq : s.protection = some (.tripleDes q)) (settings : Settings) (cmd : Command) :
    (s.issue settings cmd).Plays fun _ e => ∀ p, e.2.protection ≠ some (.aes p) := by
  refine issueWith_ends (P := fun s' => ∀ p, s'.protection ≠ some (.aes p)) ?_ ?_ ?_
  · intro p h
    rw [hq] at h
    cases h
  · intro p h
    cases h
  · intro r data s' h p hp
    unfold accept requireProtection at h
    rw [hq] at h
    obtain ⟨q', hq', h⟩ := bind_ok h
    cases hq'
    obtain ⟨data', -, h⟩ := bind_ok h
    split_ifs at h
    · cases h
      cases hp
    · cases h
      rw [hq] at hp
      cases hp

end Session

/-! ## Exchanges on a handle -/

namespace Card

/-- What a request that is no handshake makes of a handle: it may end the session or leave it, and
if it moves the counter on then it has shown a verified exchange. -/
structure Exchanged (c : Card) (E : List Event) (c' : Card) : Prop where
  challenge : ∀ ch, c'.challenge = some ch → c.challenge = some ch
  session : ∀ s' p', c'.session = some s' → s'.protection = some (.aes p') →
    ∃ s p, c.session = some s ∧ s.protection = some (.aes p) ∧ s'.keyNo = s.keyNo ∧
      ((p' = p ∧ E = []) ∨ (p.step = .ok p' ∧ E = [.verified p.ti p.counter.value.toNat]))

theorem exchanged_refl (c : Card) : Exchanged c [] c where
  challenge _ h := h
  session s p hs hp := ⟨s, p, hs, hp, rfl, Or.inl ⟨rfl, rfl⟩⟩

theorem exchanged_dropChallenge (c : Card) : Exchanged c [] c.dropChallenge where
  challenge _ h := by cases h
  session s p hs hp := ⟨s, p, hs, hp, rfl, Or.inl ⟨rfl, rfl⟩⟩

/-- An operation that left no session behind. -/
theorem exchanged_over {c c' : Card} (E : List Event) (hch : c'.challenge = none)
    (hover : ∀ s' p', c'.session = some s' → s'.protection ≠ some (.aes p')) :
    Exchanged c E c' where
  challenge ch h := by rw [hch] at h; cases h
  session s' p' hs' hp' := absurd hp' (hover s' p' hs')

theorem exchanged_advances {c : Card} {s s' : Session} {p : AesProtection} {verified : Bool}
    (hs : c.session = some s) (hp : s.protection = some (.aes p))
    (h : s.Advances p verified s') :
    Exchanged c (if verified then [.verified p.ti p.counter.value.toNat] else [])
      { c.dropChallenge with session := some s' } where
  challenge _ h := by cases h
  session s'' p'' hs'' hp'' := by
    cases hs''
    rcases h with hover | ⟨rfl, rfl⟩ | ⟨rfl, p', hstep, rfl⟩
    · rw [hover] at hp''
      cases hp''
    · rw [hp] at hp''
      cases hp''
      exact ⟨s', p, hs, hp, rfl, Or.inl ⟨rfl, rfl⟩⟩
    · cases hp''
      exact ⟨s, p, hs, hp, rfl, Or.inr ⟨hstep, rfl⟩⟩

theorem verification_nil (c : Card) (cmd : Command) : c.verification cmd [] = [] := by
  unfold verification
  split
  · rw [AesProtection.verifiedIn_nil]
    rfl
  · rfl

/-- A command without protection shows nothing. -/
theorem verification_of_clear (c : Card) {cmd : Command} (hmode : cmd.mode.isSecured = false)
    (T : Transcript) : c.verification cmd T = [] := by
  unfold verification AesProtection.verifiedIn
  rw [hmode]
  split <;> rfl

theorem issue_exchanged (cmd : Command) (c : Card) :
    ((issue cmd).start c).Plays fun T e => Exchanged c (c.verification cmd T) e.2 := by
  apply issue_plays
  · intro err
    rw [verification_nil]
    exact exchanged_dropChallenge c
  · intro hmode
    simp only [c.verification_of_clear hmode]
    exact Dialogue.plays_of_forall (fun T r => exchanged_dropChallenge c) _
  · intro s hs hv
    unfold verification
    rw [hs]
    obtain ⟨q, hq⟩ := Option.isSome_iff_exists.mp hv
    cases q with
    | aes p =>
      refine (Session.issue_advances hq c.settings cmd).mono ?_
      intro T e h
      simp only [Option.bind_some, hq]
      exact exchanged_advances hs hq h
    | tripleDes q =>
      refine (Session.issue_tripleDes hq c.settings cmd).mono ?_
      intro T e h
      simp only [Option.bind_some, hq]
      refine exchanged_over [] rfl ?_
      rintro s' p' ⟨⟩
      exact h p'

theorem commandEvents_nil (c : Card) (r : Request) : c.commandEvents r [] = [] := by
  unfold commandEvents
  cases c.command? r with
  | none => rfl
  | some cmd => exact c.verification_nil cmd

theorem updateKey_exchanged (u : KeyUpdate) (keySet : Option UInt8) (c : Card) :
    ((updateKey u keySet).start c).Plays fun T e =>
      Exchanged c (c.commandEvents (.updateKey u keySet) T) e.2 := by
  apply updateKey_plays
  · intro err
    rw [commandEvents_nil]
    exact exchanged_dropChallenge c
  · intro s hs _
    unfold Session.updateKey
    have hsame : Exchanged c [] { c.dropChallenge with session := some s } := by
      rw [← hs]
      exact exchanged_dropChallenge c
    cases hcmd : u.commandIn s keySet with
    | error err =>
      show Exchanged c (c.commandEvents _ []) { c.dropChallenge with session := some s }
      rw [commandEvents_nil]
      exact hsame
    | ok cmd =>
      cases hform : u.formIn s with
      | authenticatedSlot =>
        have hnone (T : Transcript) : c.commandEvents (.updateKey u keySet) T = [] := by
          simp [commandEvents, command?, hs, hform]
        simp only [hnone]
        refine Session.issueWith_ends (P := fun s' =>
          Exchanged c [] { c.dropChallenge with session := some s' }) hsame ?_ ?_
        · refine exchanged_over [] rfl ?_
          rintro s' p ⟨⟩ ⟨⟩
        · rintro r a s' ⟨⟩
          refine exchanged_over [] rfl ?_
          rintro s' p ⟨⟩ ⟨⟩
      | otherSlot =>
        have hsome (T : Transcript) :
            c.commandEvents (.updateKey u keySet) T = c.verification cmd T := by
          simp [commandEvents, command?, hs, hform, hcmd, Except.toOption]
        obtain ⟨p, hp, -⟩ := bind_ok hcmd
        have hp := Session.requireAes_eq_ok.mp hp
        simp only [hsome, Dialogue.pure_eq, Dialogue.plays_bind_done]
        refine (Session.issue_advances hp c.settings cmd).mono ?_
        intro T e h
        simp only [verification, hs, Option.bind_some, hp]
        exact exchanged_advances hs hp h

/-! ### Requests -/

theorem IssuesCommand.exchanged {α : Type} {c : Card} {r : Request} {a : Action Card α}
    (ha : c.IssuesCommand r a) :
    (a.start c).Plays fun T e => Exchanged c (c.commandEvents r T) e.2 := by
  rcases ha with ⟨err, ha⟩ | ⟨cmd, hcmd, read, hread, ha⟩
  · rw [ha]
    show Exchanged c (c.commandEvents r []) c
    rw [commandEvents_nil]
    exact exchanged_refl c
  · rw [ha]
    refine Action.plays_bind_reads ?_ hread
    unfold commandEvents
    rw [hcmd]
    exact issue_exchanged cmd c

theorem select_exchanged (aid : Aid) (c : Card) :
    ((select aid).start c).Plays fun T e => Exchanged c (c.commandEvents (.select aid) T) e.2 := by
  rw [select_start, Dialogue.plays_bind]
  refine Dialogue.plays_of_forall (fun T r => ?_) _
  cases r with
  | error err => exact exchanged_over _ rfl fun s p hs => by cases hs
  | ok reply => exact exchanged_over _ rfl fun s p hs => by cases hs

theorem exchanged_perform (c : Card) (r : Request) (hr : r.isHandshake = false) :
    ((perform r).start c).Plays fun T e => Exchanged c (c.commandEvents r T) e.2 := by
  cases hcommand : r.isCommand with
  | true => exact (c.issuesCommand_perform hcommand).exchanged
  | false =>
    cases r with
    | select aid =>
      exact Action.plays_bind_reads (select_exchanged aid c) fun _ => Action.reads_pure _
    | updateKey u keySet =>
      exact Action.plays_bind_reads (updateKey_exchanged u keySet c) fun _ => Action.reads_pure _
    | startFirst | finishFirst | authenticate | reauthenticate | authenticateLegacy => cases hr
    | _ => cases hcommand

end Card

end CardLink
