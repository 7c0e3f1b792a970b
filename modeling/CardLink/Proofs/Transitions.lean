import CardLink.Proofs.CommandRequests
import CardLink.Proofs.ExchangeEffects
import CardLink.Proofs.HandshakePlays

/-!
# What a request makes of a handle

There are few ways in which a handle can come out of a request. Most requests leave less in it than
there was: the challenge is gone, and so may be the session or its protection. Only a handshake that
succeeds puts something in, and only a selection that succeeds changes the application. `Step` lists
the ways once, so that what holds of every handle is shown by cases on it.
-/

namespace CardLink

/-- The request is neither a handshake nor a selection. -/
def Request.isExchange : Request → Bool
  | select _ => false
  | r => !r.isHandshake

/-- The request makes a new session when it succeeds. -/
def Request.opens : Request → Bool
  | finishFirst _ _ | authenticate _ _ _ | authenticateLegacy _ _ _ => true
  | _ => false

namespace Session

/-! ## Exchanges -/

/-- An exchange changes nothing of a session but its protection. -/
theorem issue_protection (s : Session) (settings : Settings) (cmd : Command) :
    (s.issue settings cmd).Plays fun _ e => ∃ p, e.2 = { s with protection := p } := by
  refine issueWith_ends (P := fun s' => ∃ p, s' = { s with protection := p }) ?_ ?_ ?_
  · exact ⟨s.protection, rfl⟩
  · exact ⟨none, rfl⟩
  · intro r data s' h
    obtain ⟨p, -, h⟩ := accept_ok h
    split_ifs at h
    · obtain ⟨p', -, h⟩ := h
      exact ⟨some p', h⟩
    · exact ⟨s.protection, h⟩

theorem updateKey_protection (s : Session) (settings : Settings) (u : KeyUpdate)
    (keySet : Option UInt8) :
    (s.updateKey settings u keySet).Plays fun _ e => ∃ p, e.2 = { s with protection := p } := by
  unfold updateKey
  cases u.commandIn s keySet with
  | error err => exact ⟨s.protection, rfl⟩
  | ok cmd =>
    cases u.formIn s with
    | authenticatedSlot =>
      refine issueWith_ends (P := fun s' => ∃ p, s' = { s with protection := p }) ?_ ?_ ?_
      · exact ⟨s.protection, rfl⟩
      · exact ⟨none, rfl⟩
      · rintro r a s' ⟨⟩
        exact ⟨none, rfl⟩
    | otherSlot =>
      simp only [Dialogue.pure_eq, Dialogue.plays_bind_done]
      exact s.issue_protection settings cmd

end Session

namespace Card

variable {c c' : Card}

/-! ## Less in the handle -/

/-- The second handle holds no challenge and no session but that of the first, whose protection may
be another one or gone. -/
structure Reduced (c c' : Card) : Prop where
  settings : c'.settings = c.settings
  application : c'.application = c.application
  challenge : c'.challenge = none
  session : ∀ s', c'.session = some s' →
    ∃ s p, c.session = some s ∧ s' = { s with protection := p }

theorem reduced_dropChallenge (c : Card) : Reduced c c.dropChallenge where
  settings := rfl
  application := rfl
  challenge := rfl
  session s hs := ⟨s, s.protection, hs, rfl⟩

theorem reduced_close (c : Card) : Reduced c c.close where
  settings := rfl
  application := rfl
  challenge := rfl
  session s hs := by cases hs

theorem reduced_session {s s' : Session} (hs : c.session = some s)
    (h : ∃ p, s' = { s with protection := p }) :
    Reduced c { c.dropChallenge with session := some s' } where
  settings := rfl
  application := rfl
  challenge := rfl
  session := by
    obtain ⟨p, rfl⟩ := h
    rintro s' ⟨⟩
    exact ⟨s, p, hs, rfl⟩

theorem GivenUp.reduced (h : GivenUp c c') : Reduced c c' := by
  cases h with
  | kept => exact reduced_dropChallenge c
  | closed => exact reduced_close c
  | invalidated hs => exact reduced_session hs ⟨none, rfl⟩

/-! ## Steps -/

/-- How a handle can come out of a request, by the frames of a play and the outcome. -/
inductive Step (c : Card) : Request → Transcript → Except Error Outcome → Card → Prop where
  /-- The request failed before any frame, and the handle is as it was. -/
  | refused (r : Request) (err : Error) : Step c r [] (.error err) c
  /-- The request failed, and there is less in the handle. -/
  | failed (r : Request) (T : Transcript) (err : Error) {c' : Card} (h : Reduced c c') :
    Step c r T (.error err) c'
  /-- An exchange went its way. -/
  | exchanged {r : Request} (hr : r.isExchange = true) (T : Transcript)
    (outcome : Except Error Outcome) {c' : Card} (h : Reduced c c') : Step c r T outcome c'
  /-- The card sent a challenge. -/
  | challenged {keyNo : UInt8} {nonce : Bytes} (frame : Bytes)
    (hkey : keyNo ≤ Handshake.maxKeyNo) (hlength : nonce.length = 16) :
    Step c (.startFirst keyNo) [(frame, .ok (CardStatus.additionalFrame :: nonce))] (.ok .done)
      { c.close with challenge := some ⟨.first, keyNo, nonce⟩ }
  /-- A handshake made a new session, in the slot asked for or in that of the challenge. -/
  | opened {r : Request} (hr : r.opens = true) (T : Transcript) {s : Session}
    (hkey : s.keyNo ≤ Handshake.maxKeyNo ∨ ∃ ch, c.challenge = some ch ∧ s.keyNo = ch.keyNo) :
    Step c r T (.ok .done) (c.close.adopt s)
  /-- A handshake renewed the session. -/
  | renewed {keyNo : UInt8} (key : AesKey) (draw : NonceSource) (T : Transcript) {s : Session}
    (p : AesProtection) (hs : c.session = some s) (hkey : keyNo ≤ Handshake.maxKeyNo) :
    Step c (.reauthenticate keyNo key draw) T (.ok .done)
      { c.dropChallenge with session := some { s with protection := some (.aes p), keyNo } }
  /-- The card selected an application. -/
  | selected (aid : Aid) (T : Transcript) :
    Step c (.select aid) T (.ok .done) { c.close with application := aid }

/-- Every play of the request on the handle is a step. -/
def Steps (c : Card) (r : Request) : Prop :=
  ((perform r).start c).Plays fun T e => Step c r T e.1 e.2

theorem HandshakePlay.step {r : Request} {T : Transcript} {outcome : Except Error Outcome}
    (h : HandshakePlay c r T outcome c') : Step c r T outcome c' := by
  cases h with
  | refused r err => exact .refused r err
  | failed r T err h => exact .failed r T err h.reduced
  | challenged frame hkey hlength => exact .challenged frame hkey hlength
  | finished frame reply hch hp hkey hopens hgives => exact .opened rfl _ (Or.inr ⟨_, hch, hkey⟩)
  | authenticated frame frame' reply hbound hp hkey hopens hgives =>
    exact .opened rfl _ (Or.inl (hkey ▸ hbound))
  | renewed frame frame' reply hbound hs hp hgives => exact .renewed _ _ _ _ hs hbound
  | legacy key draw q T hbound => exact .opened rfl T (Or.inl hbound)

/-! ### Exchanges -/

theorem issue_reduced (cmd : Command) (c : Card) :
    ((issue cmd).start c).Plays fun _ e => Reduced c e.2 := by
  apply issue_plays
  · exact fun _ => reduced_dropChallenge c
  · exact fun _ => Dialogue.plays_of_forall (fun T r => reduced_dropChallenge c) _
  · intro s hs _
    exact (s.issue_protection c.settings cmd).mono fun T e h => reduced_session hs h

theorem updateKey_reduced (u : KeyUpdate) (keySet : Option UInt8) (c : Card) :
    ((updateKey u keySet).start c).Plays fun _ e => Reduced c e.2 := by
  apply updateKey_plays
  · exact fun _ => reduced_dropChallenge c
  · intro s hs _
    exact (s.updateKey_protection c.settings u keySet).mono fun T e h => reduced_session hs h

/-- Reading the answer to an exchange is no step of its own. -/
theorem steps_of_reduced {α : Type} {r : Request} (hr : r.isExchange = true)
    {a : Action Card α} (ha : (a.start c).Plays fun _ e => Reduced c e.2)
    {read : α → Action Card Outcome} (hread : ∀ x, (read x).Reads) :
    ((a >>= read).start c).Plays fun T e => Step c r T e.1 e.2 :=
  Action.plays_bind_of_reads ha hread (fun T _ _ h => .exchanged hr T _ h)
    fun T _ _ _ h => .exchanged hr T _ h

theorem isExchange_of_isCommand {r : Request} (hr : r.isCommand = true) : r.isExchange = true := by
  cases r <;> first | rfl | cases hr

theorem steps_of_isCommand (c : Card) {r : Request} (hr : r.isCommand = true) : Steps c r := by
  unfold Steps
  rcases c.issuesCommand_perform hr with ⟨err, h⟩ | ⟨cmd, -, read, hread, h⟩
  · rw [h]
    exact .refused r err
  · rw [h]
    exact steps_of_reduced (isExchange_of_isCommand hr) (issue_reduced cmd c) hread

/-! ### Selections -/

theorem steps_select (c : Card) (aid : Aid) : Steps c (.select aid) := by
  unfold Steps perform
  rw [done_start, Dialogue.plays_bind, select_start, Dialogue.plays_bind]
  refine Dialogue.plays_of_forall (fun T r => ?_) _
  cases r with
  | error err => exact .failed _ _ err (reduced_close c)
  | ok reply => exact .selected aid _

/-! ### Requests -/

/-- **Steps.** Whatever is asked of a handle and whatever comes back, the handle comes out of it by
one of the steps. -/
theorem steps_perform (c : Card) (r : Request) : Steps c r := by
  cases hcommand : r.isCommand with
  | true => exact c.steps_of_isCommand hcommand
  | false =>
    cases hhandshake : r.isHandshake with
    | true => exact (c.handshake_plays hhandshake).mono fun T e h => h.step
    | false =>
      cases r with
      | select aid => exact c.steps_select aid
      | updateKey u keySet =>
        exact steps_of_reduced rfl (updateKey_reduced u keySet c) fun _ => Action.reads_pure _
      | startFirst | finishFirst | authenticate | reauthenticate | authenticateLegacy =>
        cases hhandshake
      | _ => cases hcommand

theorem Step.settings {r : Request} {T : Transcript} {outcome : Except Error Outcome}
    (h : Step c r T outcome c') : c'.settings = c.settings := by
  cases h with
  | failed r T err h => exact h.settings
  | exchanged hr T outcome h => exact h.settings
  | _ => rfl

/-! ### Runs -/

/-- What every step preserves holds of the handle at the end of a run, if it held at the start. -/
theorem invariant_performAll {P : Card → Prop}
    (hstep : ∀ c r T outcome c', Step c r T outcome c' → P c → P c') {σ : Type} (t : Transport σ)
    (rs : List Request) (hc : P c) (w : σ) : P ((performAll rs c).run t w).1.2 := by
  induction rs generalizing c w with
  | nil => exact hc
  | cons r rs ih =>
    have hnext := hstep _ _ _ _ _ ((c.steps_perform r).run t w) hc
    unfold performAll
    rw [Dialogue.run_bind, Dialogue.run_bind]
    exact ih hnext _

end Card

end CardLink
