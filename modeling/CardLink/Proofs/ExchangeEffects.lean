import CardLink.Proofs.Exchanges
import CardLink.Proofs.FailedExchanges

/-!
# What an exchange leaves of a session

Whether a session is kept, moved on or ended depends on how far an exchange came and on its result,
and on nothing else.

1. Once a command is put together, a frame is handed over (`RoundTripPlay.ne_nil`).
2. A reply that is accepted moves the session on (`movesOn_of_accept`).
3. Every other end of an exchange keeps the session or ends it as its error says
   (`issueWith_effect`), and a key update adds no error of its own that would end it
   (`commandIn_error`).
-/

namespace CardLink

variable {α : Type}

namespace Chaining

theorem SendPlay.ne_nil {first : Bytes} {rest : List Bytes} {T : Transcript}
    {r : Except Error Bytes} (h : SendPlay first rest T r) : T ≠ [] := by
  cases h <;> exact List.cons_ne_nil _ _

/-- A round trip hands over a frame if the pieces have room for data. -/
theorem RoundTripPlay.ne_nil {settings : Settings} {frame : Bytes} {T : Transcript}
    {r : Except Error Reply} (h : RoundTripPlay settings frame T r)
    (hmax : 2 ≤ settings.maxFrameLength) : T ≠ [] := by
  cases h with
  | threshold hshort => exact absurd hmax (Nat.not_le_of_lt hshort)
  | unsent h => exact h.ne_nil
  | sent h h' => exact List.append_ne_nil_of_left_ne_nil h.ne_nil _

end Chaining

namespace Session

/-! ## Success -/

/-- The session after an exchange that succeeded: the counter of a session under AES is one higher
if the mode is secured, and nothing else has changed. -/
def MovesOn (s : Session) (mode : CommMode) (s' : Session) : Prop :=
  match s.protection with
  | some (.aes p) =>
    if mode.isSecured then
      ∃ next : Counter, next.value.toNat = p.counter.value.toNat + 1 ∧
        s' = { s with protection := some (.aes { p with counter := next }) }
    else s' = s
  | _ => s' = s

theorem accept_ok {s s' : Session} {mode : CommMode} {reply : Reply} {data : Bytes}
    (h : s.accept mode reply = .ok (data, s')) :
    ∃ p, s.protection = some p ∧
      if mode.isSecured then ∃ p', p.step = .ok p' ∧ s' = { s with protection := some p' }
      else s' = s := by
  obtain ⟨p, hp, h⟩ := bind_ok h
  obtain ⟨data', -, h⟩ := bind_ok h
  refine ⟨p, requireProtection_eq_ok.mp hp, ?_⟩
  split_ifs at h ⊢ with hmode
  · obtain ⟨p', hstep, h⟩ := bind_ok h
    cases h
    exact ⟨p', hstep, rfl⟩
  · cases h
    rfl

/-- A step under AES adds one to the counter. -/
theorem step_aes_ok {p : AesProtection} {p' : Protection}
    (h : (Protection.aes p).step = .ok p') :
    ∃ next : Counter, next.value.toNat = p.counter.value.toNat + 1 ∧
      p' = .aes { p with counter := next } := by
  cases hstep : p.step with
  | error err =>
    simp only [Protection.step, hstep] at h
    cases h
  | ok q =>
    simp only [Protection.step, hstep] at h
    cases h
    obtain ⟨next, hnext, rfl⟩ := AesProtection.step_ok hstep
    exact ⟨next, Counter.toNat_next hnext, rfl⟩

theorem movesOn_of_accept {s s' : Session} {mode : CommMode} {reply : Reply} {data : Bytes}
    (h : s.accept mode reply = .ok (data, s')) : s.MovesOn mode s' := by
  obtain ⟨p, hp, h⟩ := accept_ok h
  unfold MovesOn
  rw [hp]
  cases p with
  | aes p =>
    split_ifs at h ⊢
    · obtain ⟨p', hstep, rfl⟩ := h
      obtain ⟨next, hnext, rfl⟩ := step_aes_ok hstep
      exact ⟨next, hnext, rfl⟩
    · exact h
  | tripleDes q =>
    show s' = s
    split_ifs at h
    · obtain ⟨p', hstep, rfl⟩ := h
      cases hstep
      rw [← hp]
    · exact h

/-! ## Every end -/

/-- What an exchange leaves of a session, by the frames of a play and its result; `done` says what a
success leaves. -/
structure Effect (s : Session) (done : Session → Prop) (T : Transcript) (r : Except Error α)
    (s' : Session) : Prop where
  /-- Without a frame the exchange fails, and only an exhausted counter ends the session. -/
  unsent : T = [] → ∃ err, r = .error err ∧
    s' = if err = .counterExhausted then s.invalidate else s
  succeeded : ∀ a, r = .ok a → done s'
  refused : ∀ status, r = .error (.refused status) → s' = s
  /-- Whatever else goes wrong with an answer ends the session. -/
  broken : T ≠ [] → ∀ err, r = .error err → (∀ status, err ≠ .refused status) →
    (∀ fault, err ≠ .transport fault) → s' = s.invalidate

variable {s s' : Session} {done : Session → Prop} {T : Transcript} {err : Error}

/-- An error before the first frame. -/
theorem effect_afterRefusal : s.Effect done [] (.error err : Except Error α) (s.afterRefusal err) where
  unsent _ := ⟨err, rfl, rfl⟩
  succeeded a h := by cases h
  refused status h := by
    cases h
    rfl
  broken h := absurd rfl h

/-- An error once a frame was handed over. -/
theorem effect_afterFailure (hT : T ≠ []) :
    s.Effect done T (.error err : Except Error α) (s.afterFailure err) where
  unsent h := absurd h hT
  succeeded a h := by cases h
  refused status h := by
    cases h
    rfl
  broken _ err' h hrefused hfault := by
    cases h
    unfold afterFailure
    cases err with
    | refused status => exact absurd rfl (hrefused status)
    | transport fault => exact absurd rfl (hfault fault)
    | _ => rfl

theorem effect_ok (hT : T ≠ []) {a : α} (h : done s') : s.Effect done T (.ok a) s' where
  unsent hnil := absurd hnil hT
  succeeded _ _ := h
  refused status h := by cases h
  broken _ err h := by cases h

theorem issueWith_effect (s : Session) (settings : Settings) (c : Command)
    {finish : Reply → Except Error (α × Session)}
    (hfinish : ∀ reply a s', finish reply = .ok (a, s') → done s') :
    (s.issueWith settings c finish).Plays fun T e => s.Effect done T e.1 e.2 := by
  refine (s.issueWith_plays settings c finish).mono ?_
  intro T e hplay
  cases hplay with
  | refused => exact effect_afterRefusal
  | @settled p frame _ outcome hp hmax hframe htrip =>
    have hT := htrip.ne_nil hmax
    cases h : outcome >>= finish with
    | error err => exact effect_afterFailure hT
    | ok e =>
      obtain ⟨reply, -, hreply⟩ := bind_ok h
      exact effect_ok hT (hfinish reply e.1 e.2 hreply)

theorem issue_effect (s : Session) (settings : Settings) (c : Command) :
    (s.issue settings c).Plays fun T e => s.Effect (s.MovesOn c.mode) T e.1 e.2 :=
  s.issueWith_effect settings c fun _ _ _ => movesOn_of_accept

/-! ## Key updates and commands alike -/

/-- What a success leaves of the session: a command moves it on, a new key for the slot that it was
authenticated with ends it, and a new key for any other slot moves it on as a command in full
mode. -/
def Exchange.Leaves (s : Session) : Exchange α → Session → Prop
  | .command c, s' => s.MovesOn c.mode s'
  | .keyUpdate u _, s' =>
    if u.keyNo = s.keyNo ∧ u.secondApplication = false then s' = s.invalidate
    else s.MovesOn .full s'

theorem commandIn_mode {u : KeyUpdate} {keySet : Option UInt8} {c : Command}
    (h : u.commandIn s keySet = .ok c) : c.mode = .full := by
  obtain ⟨slot, payload, -, -, rfl⟩ := KeyUpdate.commandIn_ok h
  rfl

theorem updateKey_effect (s : Session) (settings : Settings) (u : KeyUpdate)
    (keySet : Option UInt8) :
    (s.updateKey settings u keySet).Plays fun T e =>
      s.Effect ((Exchange.keyUpdate u keySet).Leaves s) T e.1 e.2 := by
  cases hcommand : u.commandIn s keySet with
  | error err =>
    -- The counter is not asked for before the command is written, so this error cannot be about it.
    have hkept : s.afterRefusal err = s := by
      refine if_neg ?_
      rintro rfl
      rcases KeyUpdate.commandIn_error hcommand with h | h | h <;> cases h
    have heffect : s.Effect ((Exchange.keyUpdate u keySet).Leaves s) []
        (.error err : Except Error Unit) (s.afterRefusal err) := effect_afterRefusal
    unfold updateKey
    rw [hcommand]
    rwa [hkept] at heffect
  | ok c =>
    rw [updateKey_eq_issueWith hcommand, commandIn_mode hcommand]
    refine s.issueWith_effect settings c fun reply a s' h => ?_
    unfold KeyUpdate.finishIn KeyUpdate.formIn at h
    split_ifs at h with hslot
    · cases h
      exact (if_pos hslot).mpr rfl
    · obtain ⟨e, he, h⟩ := bind_ok h
      cases h
      exact (if_neg hslot).mpr (movesOn_of_accept he)

/-- **What an exchange leaves of a session.** For every exchange of a session, whatever comes back
for its frames. If no frame was handed over, then the exchange fails and the session is as before,
except that an exhausted counter ends it. If the exchange succeeds, then the session has moved on,
or is over after a new key for its own slot. If the card refuses, then the session is as before. If
anything but a refusal by the card or a fault of the transport stops the exchange once a frame was
handed over, then the session is over. -/
theorem exchange_effect {σ : Type} (s : Session) (settings : Settings) (e : Exchange α)
    (t : Transport σ) (w : σ) :
    s.Effect (e.Leaves s) ((e.conduct s settings).transcript t w)
      ((e.conduct s settings).run t w).1.1 ((e.conduct s settings).run t w).1.2 := by
  cases e with
  | command c => exact (s.issue_effect settings c).run t w
  | keyUpdate u keySet => exact (s.updateKey_effect settings u keySet).run t w

/-- At the last value of the counter a secured command ends the session before any frame. -/
example :
    let s : Session := .start (.aes ⟨⟨Octets.zero 16, Octets.zero 16⟩, Octets.zero 4, ⟨0xFFFF⟩⟩) 0
    (s.issue {} sampleCommand).transcript Script.transport {} = [] ∧
      ((s.issue {} sampleCommand).run Script.transport {}).1 =
        (.error .counterExhausted, s.invalidate) :=
  ⟨rfl, rfl⟩

end Session

end CardLink
