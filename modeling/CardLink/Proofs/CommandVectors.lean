import CardLink.Proofs.EndedSessions
import CardLink.Proofs.Lockstep
import CardLink.Proofs.NoDowngrade
import CardLink.Proofs.SeparateInputs

/-!
# The vectors of a session's commands

A payload in full mode is encrypted under a vector that names transaction and counter, so two
payloads share a vector exactly if they were sent under one counter. Every secured exchange that
runs to its end moves the counter on or ends the session. A command that the card refuses does
neither, and the next one goes out under the same vector.

1. Vectors of one transaction tell the counters apart (`iv_injective`).
2. Every exchange ends the session or leaves it at a counter that is not lower
   (`issue_counts`).
3. So from one command of a run to a later one (`leads_issuedAll`).
4. A later payload therefore has another vector as soon as a secured exchange between was settled,
   and the same one as long as there was none but refusals (`vectors_apart`).
-/

namespace CardLink

/-! ## Vectors -/

/-- Under one key and in one transaction, vectors of one direction differ as their counters do. -/
theorem Protection.iv_injective {d : Direction} {key : Octets 16} {ti : TransactionId}
    {c c' : Counter} (h : iv d key ti c = iv d key ti c') : c = c' :=
  (iv_inj.mp h).2.2

namespace Session

/-! ## Commands issued in a session -/

/-- A command that was issued in a session, and what came of it. -/
structure Issued where
  settings : Settings
  command : Command
  /-- The session that the command was issued in. -/
  session : Session
  frames : Transcript
  outcome : Except Error Bytes

section

variable {σ : Type} (t : Transport σ)

/-- A command with its settings, issued in a session. -/
def issued (x : Settings × Command) (s : Session) (w : σ) : Issued :=
  let d := s.issue x.1 x.2
  ⟨x.1, x.2, s, d.transcript t w, (d.run t w).1.1⟩

/-- Commands issued one after the other, whether or not they succeed. -/
def issuedAll : List (Settings × Command) → Session → σ → List Issued
  | [], _, _ => []
  | x :: xs, s, w =>
    let e := (s.issue x.1 x.2).run t w
    issued t x s w :: issuedAll xs e.1.2 e.2

end

namespace Issued

/-- The card refused the command. -/
def Refused (e : Issued) : Prop := ∃ status, e.outcome = .error (.refused status)

/-- A secured command was handed over, and it was not the card's refusal or a missing connection
that ended the exchange. -/
def Settled (e : Issued) : Prop :=
  e.command.mode.isSecured = true ∧ e.frames ≠ [] ∧ ¬ e.Refused ∧
    e.outcome ≠ .error (.transport .notConnected)

/-- The command was not secured, or not handed over, or the card refused it. -/
def Passed (e : Issued) : Prop :=
  e.command.mode.isSecured = false ∨ e.frames = [] ∨ e.Refused

/-- A command in full mode was handed over. -/
def InFull (e : Issued) : Prop := e.command.mode = .full ∧ e.frames ≠ []

/-- The command was issued at the given counter, and its frames carry its payload encrypted under
the vector of that counter. -/
def EncryptedAt (e : Issued) (p : AesProtection) (c : Counter) : Prop :=
  e.session.protection = some (.aes { p with counter := c }) ∧
    ∃ body tag, Cbc.encrypt (aes p.keys.enc) (Protection.iv .command p.keys.enc p.ti c)
        e.command.payload = .ok body ∧
      Chaining.Carries e.settings.maxFrameLength (e.command.frameWith body ++ tag) e.frames
        e.outcome

end Issued

variable {s : Session} {p : AesProtection} {c c' c'' : Counter} {es : List Issued}

/-! ## One command -/

/-- The counter after some commands, compared with the one before. -/
structure Leads (es : List Issued) (c c' : Counter) : Prop where
  mono : c.value.toNat ≤ c'.value.toNat
  settled : (∃ e ∈ es, e.Settled) → c.value.toNat < c'.value.toNat
  passed : (∀ e ∈ es, e.Passed) → c' = c

theorem leads_nil (c : Counter) : Leads [] c c where
  mono := Nat.le_refl _
  settled := by
    rintro ⟨e, he, -⟩
    cases he
  passed _ := rfl

theorem Leads.cons {e : Issued} (h : Leads [e] c c') (h' : Leads es c' c'') :
    Leads (e :: es) c c'' where
  mono := Nat.le_trans h.mono h'.mono
  settled := by
    rintro ⟨e', he', hsettled⟩
    rcases List.mem_cons.mp he' with rfl | he'
    · exact Nat.lt_of_lt_of_le (h.settled ⟨e', List.mem_singleton_self e', hsettled⟩) h'.mono
    · exact Nat.lt_of_le_of_lt h.mono (h'.settled ⟨e', he', hsettled⟩)
  passed hpassed := by
    obtain ⟨he, hes⟩ := List.forall_mem_cons.mp hpassed
    rw [h'.passed hes, h.passed (List.forall_mem_singleton.mpr he)]

/-- A command that leaves the counter has not been settled. -/
theorem leads_same {e : Issued} (h : ¬ e.Settled) (c : Counter) : Leads [e] c c where
  mono := Nat.le_refl _
  settled := by
    rintro ⟨e', he', hsettled⟩
    rw [List.mem_singleton.mp he'] at hsettled
    exact absurd hsettled h
  passed _ := rfl

/-- A command that moves the counter on has not been passed over. -/
theorem leads_next {e : Issued} (h : ¬ e.Passed) (hnext : c'.value.toNat = c.value.toNat + 1) :
    Leads [e] c c' where
  mono := by omega
  settled _ := by omega
  passed hpassed := absurd (hpassed e (List.mem_singleton_self e)) h

/-- The session is over, or still the same with a counter that the commands lead to. -/
def Counts (p : AesProtection) (es : List Issued) (c : Counter) (s : Session) : Prop :=
  s.protection = none ∨
    ∃ c', s.protection = some (.aes { p with counter := c' }) ∧ Leads es c c'

theorem counts_same {e : Issued} {s' : Session}
    (hs : s.protection = some (.aes { p with counter := c })) (h : ¬ e.Settled) (hsame : s' = s) :
    Counts p [e] c s' :=
  Or.inr ⟨c, hsame ▸ hs, leads_same h c⟩

theorem counts_of_movesOn {e : Issued} {s' : Session}
    (hs : s.protection = some (.aes { p with counter := c })) (hT : e.frames ≠ []) {data : Bytes}
    (hok : e.outcome = .ok data) (hmoves : s.MovesOn e.command.mode s') : Counts p [e] c s' := by
  unfold MovesOn at hmoves
  simp only [hs] at hmoves
  split_ifs at hmoves with hmode
  · obtain ⟨next, hnext, rfl⟩ := hmoves
    refine Or.inr ⟨next, rfl, leads_next ?_ hnext⟩
    rintro (hplain | hnil | ⟨status, hrefused⟩)
    · rw [hmode] at hplain
      cases hplain
    · exact hT hnil
    · rw [hok] at hrefused
      cases hrefused
  · exact counts_same hs (fun h => hmode h.1) hmoves

/-- An exchange ends the session or leaves it at a counter that tells how it went. -/
theorem issue_counts (hs : s.protection = some (.aes { p with counter := c }))
    (x : Settings × Command) :
    (s.issue x.1 x.2).Plays fun T e => Counts p [⟨x.1, x.2, s, T, e.1⟩] c e.2 := by
  have hvalid : s.isValid = true := by
    unfold isValid
    rw [hs]
    rfl
  refine ((s.issue_effect x.1 x.2).and (issue_settlesFault hvalid x.1 x.2)).mono ?_
  rintro T ⟨r, s'⟩ ⟨heffect, hfault⟩
  by_cases hT : T = []
  · obtain ⟨err, -, hs'⟩ := heffect.unsent hT
    split_ifs at hs'
    · exact Or.inl (hs' ▸ rfl)
    · exact counts_same hs (fun h => h.2.1 hT) hs'
  cases r with
  | ok data => exact counts_of_movesOn hs hT rfl (heffect.succeeded data rfl)
  | error err =>
    cases err with
    | refused status =>
      exact counts_same hs (fun h => h.2.2.1 ⟨status, rfl⟩) (heffect.refused status rfl)
    | transport fault =>
      obtain ⟨-, hs' : s' = s.afterFailure (.transport fault)⟩ := hfault fault rfl
      unfold afterFailure at hs'
      split_ifs at hs' with hstep
      · have hconnection : fault = .notConnected := by
          cases fault <;> first | rfl | cases hstep
        subst hconnection
        exact counts_same hs (fun h => h.2.2.2 rfl) hs'
      · exact Or.inl (hs' ▸ rfl)
    | _ =>
      refine Or.inl ?_
      rw [heffect.broken hT _ rfl (fun _ h => by cases h) fun _ h => by cases h]
      rfl

/-- The frames of a command in full mode carry its payload encrypted. -/
theorem issue_encryptedAt (hs : s.protection = some (.aes { p with counter := c }))
    (x : Settings × Command) (hfull : x.2.mode = .full) :
    (s.issue x.1 x.2).Plays fun T e =>
      T ≠ [] → Issued.EncryptedAt ⟨x.1, x.2, s, T, e.1⟩ p c := by
  have hsecured : x.2.mode.isSecured = true := by
    rw [hfull]
    rfl
  refine (s.issueWith_guarded x.1 hsecured (s.accept x.2.mode)).mono ?_
  rintro T ⟨r, s'⟩ hguarded hT
  cases hguarded with
  | unsent err => exact absurd rfl hT
  | carried hs' hp hcmd _ hmessage hseals hcarries =>
    cases hs'
    cases hcmd
    rw [hs] at hp
    cases hp
    obtain ⟨body, hbody, rfl⟩ := hseals _ rfl
    unfold AesProtection.body at hbody
    rw [hfull] at hbody
    obtain ⟨u, -, hbody⟩ := bind_ok hbody
    exact ⟨hs, body, _, hbody, hcarries⟩

/-! ## Runs -/

section

variable {σ : Type} {t : Transport σ} {w : σ} {xs : List (Settings × Command)}
variable {before after : List Issued} {e : Issued}

theorem issuedAll_eq_cons (h : issuedAll t xs s w = e :: after) :
    ∃ x xs', xs = x :: xs' ∧ e = issued t x s w ∧
      issuedAll t xs' ((s.issue x.1 x.2).run t w).1.2 ((s.issue x.1 x.2).run t w).2 = after := by
  cases xs with
  | nil => cases h
  | cons x xs =>
    obtain ⟨rfl, hrest⟩ := List.cons.inj h
    exact ⟨x, xs, rfl, rfl, hrest⟩

/-- A session that is over hands over nothing. -/
theorem frames_of_over (hs : s.protection = none)
    (h : issuedAll t xs s w = before ++ e :: after) : e.frames = [] := by
  have hplay (x : Settings × Command) (w : σ) : (issued t x s w).frames = [] ∧
      ((s.issue x.1 x.2).run t w).1.2 = s := by
    have hconduct : ((Use.issue x.1 x.2).conduct s).Plays (Futile s []) := issue_of_over hs x.1 x.2
    have hfutile := ((Dialogue.plays_bind_done _ _).mp hconduct).run t w
    exact ⟨List.map_eq_nil_iff.mp hfutile.1, hfutile.2.2⟩
  induction before generalizing xs w with
  | nil =>
    obtain ⟨x, xs, rfl, rfl, -⟩ := issuedAll_eq_cons h
    exact (hplay x w).1
  | cons e' before ih =>
    obtain ⟨x, xs, rfl, -, hrest⟩ := issuedAll_eq_cons h
    rw [(hplay x w).2] at hrest
    exact ih hrest

/-- What was issued from some point on was issued in the session at that point. -/
theorem issuedAll_split (h : issuedAll t xs s w = before ++ e :: after) :
    ∃ x xs' w', e = issued t x e.session w' ∧
      issuedAll t (x :: xs') e.session w' = e :: after := by
  induction before generalizing xs s w with
  | nil =>
    obtain ⟨x, xs, rfl, rfl, -⟩ := issuedAll_eq_cons h
    exact ⟨x, xs, w, rfl, h⟩
  | cons e' before ih =>
    obtain ⟨x, xs, rfl, -, hrest⟩ := issuedAll_eq_cons h
    exact ih hrest

/-- From one command to a later one that is handed over, the counter is as the commands before the
later one lead it. -/
theorem leads_issuedAll (hs : s.protection = some (.aes { p with counter := c }))
    (h : issuedAll t xs s w = before ++ e :: after) (hsent : e.frames ≠ []) :
    ∃ c', e.session.protection = some (.aes { p with counter := c' }) ∧ Leads before c c' := by
  induction before generalizing xs s w c with
  | nil =>
    obtain ⟨x, xs, rfl, rfl, -⟩ := issuedAll_eq_cons h
    exact ⟨c, hs, leads_nil c⟩
  | cons e' before ih =>
    obtain ⟨x, xs, rfl, rfl, hrest⟩ := issuedAll_eq_cons h
    rcases (issue_counts hs x).run t w with hover | ⟨c', hs', hleads⟩
    · exact absurd (frames_of_over hover hrest) hsent
    · obtain ⟨c'', he, hleads'⟩ := ih hs' hrest
      exact ⟨c'', he, hleads.cons hleads'⟩

theorem encryptedAt_of_inFull (h : issuedAll t xs s w = before ++ e :: after) (hfull : e.InFull)
    (he : e.session.protection = some (.aes { p with counter := c })) : e.EncryptedAt p c := by
  obtain ⟨x, xs', w', hissued, -⟩ := issuedAll_split h
  obtain ⟨hmode, hsent⟩ := hfull
  rw [hissued] at hmode hsent ⊢
  exact (issue_encryptedAt he x hmode).run t w' hsent

end

/-- **The vectors of a session's commands.** For every run of commands in an EV2 session and
whatever comes back: two commands in full mode that are handed over are encrypted under vectors of
this transaction, each that of the counter that its command was issued at. If one of the secured
commands from the earlier up to the later was settled, then the later counter is higher and the
vectors differ. If all that was handed over in between was not secured or was refused by the card,
the earlier command included, then the two share the counter. -/
theorem vectors_apart {σ : Type} (t : Transport σ) (w : σ) (s : Session) (p : AesProtection)
    (hs : s.protection = some (.aes p)) (xs : List (Settings × Command))
    {before between after : List Issued} {e e' : Issued}
    (h : issuedAll t xs s w = before ++ e :: between ++ e' :: after)
    (he : e.InFull) (he' : e'.InFull) :
    ∃ c c', e.EncryptedAt p c ∧ e'.EncryptedAt p c' ∧
      ((∃ x ∈ e :: between, x.Settled) → c.value.toNat < c'.value.toNat ∧
        Protection.iv .command p.keys.enc p.ti c ≠ Protection.iv .command p.keys.enc p.ti c') ∧
      ((∀ x ∈ e :: between, x.Passed) → c' = c) := by
  have hsplit : issuedAll t xs s w = before ++ e :: (between ++ e' :: after) := by
    rw [h, List.append_assoc, List.cons_append]
  obtain ⟨c, hc, -⟩ := leads_issuedAll (p := p) (c := p.counter) hs hsplit he.2
  obtain ⟨x, xs', w', -, hrest⟩ := issuedAll_split hsplit
  have hlater : issuedAll t (x :: xs') e.session w' = (e :: between) ++ e' :: after := hrest
  obtain ⟨c', hc', hleads⟩ := leads_issuedAll hc hlater he'.2
  refine ⟨c, c', encryptedAt_of_inFull hsplit he hc, encryptedAt_of_inFull h he' hc', ?_,
    hleads.passed⟩
  intro hsettled
  have hlt := hleads.settled hsettled
  refine ⟨hlt, fun hiv => ?_⟩
  rw [Protection.iv_injective hiv] at hlt
  exact Nat.lt_irrefl _ hlt

/-! ### Two payloads -/

/-- A command in full mode with a payload of one block. -/
def sampleWrite (b : UInt8) : Settings × Command :=
  ({}, { code := 0x8D, mode := .full, header := [1], payload := List.replicate 16 b })

/-- The first command succeeds, and the second is encrypted under another vector. -/
theorem vectors_apart_after_success :
    let w : Script := { replies := [.ok (CardStatus.ok ::
      HonestCard.sealed samplePeer .full ⟨1⟩ []), .ok [0x9D]] }
    ∃ e e' c c', issuedAll Script.transport [sampleWrite 1, sampleWrite 2] sample w = [e, e'] ∧
      e.EncryptedAt samplePeer c ∧ e'.EncryptedAt samplePeer c' ∧
      Protection.iv .command samplePeer.keys.enc samplePeer.ti c ≠
        Protection.iv .command samplePeer.keys.enc samplePeer.ti c' := by
  intro w
  let e := issued Script.transport (sampleWrite 1) sample w
  let after := (sample.issue (sampleWrite 1).1 (sampleWrite 1).2).run Script.transport w
  let e' := issued Script.transport (sampleWrite 2) after.1.2 after.2
  obtain ⟨houtcome, hframes⟩ : e.outcome = .ok [] ∧ e.frames ≠ [] ∧ e'.frames ≠ [] := by
    decide +kernel
  have hsettled : e.Settled := by
    refine ⟨rfl, hframes.1, ?_, by rw [houtcome]; decide⟩
    rintro ⟨status, h⟩
    rw [houtcome] at h
    cases h
  obtain ⟨c, c', hc, hc', hapart, -⟩ := vectors_apart Script.transport w sample samplePeer
    rfl [sampleWrite 1, sampleWrite 2] (show _ = [] ++ e :: [] ++ e' :: [] from rfl)
    ⟨rfl, hframes.1⟩ ⟨rfl, hframes.2⟩
  exact ⟨e, e', c, c', rfl, hc, hc', (hapart ⟨e, List.mem_cons_self, hsettled⟩).2⟩

/-- The card refuses the first command, and another payload is encrypted under the same vector. -/
theorem vector_shared_after_refusal :
    let w : Script := { replies := [.ok [0x9D], .ok [0x9D]] }
    ∃ e e' c, issuedAll Script.transport [sampleWrite 1, sampleWrite 2] sample w = [e, e'] ∧
      e.InFull ∧ e'.InFull ∧ e.command.payload ≠ [] ∧ e'.command.payload ≠ [] ∧
      e.frames.map Prod.snd = [.ok [0x9D]] ∧ e'.frames.map Prod.snd = [.ok [0x9D]] ∧
      e.EncryptedAt samplePeer c ∧ e'.EncryptedAt samplePeer c := by
  intro w
  let e := issued Script.transport (sampleWrite 1) sample w
  let after := (sample.issue (sampleWrite 1).1 (sampleWrite 1).2).run Script.transport w
  let e' := issued Script.transport (sampleWrite 2) after.1.2 after.2
  have hframes : e.frames ≠ [] ∧ e'.frames ≠ [] := by decide +kernel
  have hkept : after.1.2.protection = some (.aes samplePeer) := by decide +kernel
  have hlog : issuedAll Script.transport [sampleWrite 1, sampleWrite 2] sample w = [e, e'] := rfl
  exact ⟨e, e', .start, hlog, ⟨rfl, hframes.1⟩, ⟨rfl, hframes.2⟩, by decide, by decide,
    by decide +kernel, by decide +kernel,
    encryptedAt_of_inFull (show _ = [] ++ e :: [e'] from hlog) ⟨rfl, hframes.1⟩ rfl,
    encryptedAt_of_inFull (show _ = [e] ++ e' :: [] from hlog) ⟨rfl, hframes.2⟩ hkept⟩

end Session

end CardLink
