import CardLink.Card.Request
import CardLink.Proofs.Agreements
import CardLink.Proofs.Chains

/-!
# The history of a handle

What a run has shown, request by request: challenges, agreements, and commands whose response
verified. Every event is read off the frames that went back and forth and the outcome of the
request; what the request left in the handle plays no part in it. `Accounted` says that the history
accounts for what the handle holds.
-/

namespace CardLink

/-- Something that a run has shown. -/
inductive Event where
  /-- The card answered the first pass of a first authentication. -/
  | challenged (keyNo : UInt8) (nonce : Bytes)
  /-- A first authentication succeeded. -/
  | opened (a : Agreement)
  /-- A renewed authentication succeeded. -/
  | renewed (a : Agreement)
  /-- The response to a secured command verified; it was made under the given counter. -/
  | verified (ti : TransactionId) (counter : Nat)
  deriving DecidableEq

namespace Event

/-- The agreement of a renewed authentication. -/
def renewed? : Event → Option Agreement
  | renewed a => some a
  | _ => none

/-- The transaction and counter of a verified exchange. -/
def verified? : Event → Option (TransactionId × Nat)
  | verified ti counter => some (ti, counter)
  | _ => none

end Event

/-- The protected command of a play, and a response to it that verifies. -/
def AesProtection.verifiedIn (p : AesProtection) (settings : Settings) (cmd : Command)
    (T : Transcript) : Bool :=
  cmd.mode.isSecured && match p.protect cmd with
    | .error _ => false
    | .ok frame => match Chaining.responseIn settings frame T with
      | none => false
      | some reply => reply.status == CardStatus.ok && (p.verified reply).isOk

/-- The request is a handshake, or one pass of one. -/
def Request.isHandshake : Request → Bool
  | startFirst _ | finishFirst _ _ | authenticate _ _ _ | reauthenticate _ _ _ => true
  | authenticateLegacy _ _ _ => true
  | _ => false

namespace Card

/-! ## Events -/

/-- The mode of a command that is protected as soon as there is a session. -/
def preferredMode (c : Card) : CommMode := if c.session.isSome then .mac else .plain

/-- The command that a request issues in the session of the handle, if it gets as far as that. A
selection has ended the session by then, and the response to a new key for the slot of the session
is not protected. -/
def command? (c : Card) : Request → Option Command
  | .issue cmd => some cmd
  | .applicationIds => some { code := 0x6A, mode := c.preferredMode }
  | .version => some { code := 0x60, mode := c.preferredMode }
  | .uid => some { code := 0x51, mode := .full }
  | .keySettings => some { code := 0x45, mode := c.preferredMode }
  | .replaceKeySettings settings =>
    some { code := 0x54, mode := .full, payload := Padding.pad [settings] }
  | .keyVersion keyNo => some { code := 0x64, mode := c.preferredMode, header := [keyNo] }
  | .readRange file offset length mode => (readCommand file offset length mode).toOption
  | .writeRange file offset data mode => (writeCommand file offset data mode).toOption
  | .commit => some { code := 0xC7, mode := c.preferredMode }
  | .format => if c.application = Aid.card then some { code := 0xFC, mode := .mac } else none
  | .configure option data =>
    some { code := 0x5C, mode := .full, header := [option], payload := Padding.pad data }
  | .updateKey u keySet => c.session.bind fun s =>
    if u.formIn s = .otherSlot then (u.commandIn s keySet).toOption else none
  | _ => none

/-- What a command issued in the session of the handle has shown. -/
def verification (c : Card) (cmd : Command) (T : Transcript) : List Event :=
  match c.session.bind Session.protection with
  | some (.aes p) =>
    if p.verifiedIn c.settings cmd T then [.verified p.ti p.counter.value.toNat] else []
  | _ => []

/-- What a command that a request issues has shown. -/
def commandEvents (c : Card) (r : Request) (T : Transcript) : List Event :=
  (c.command? r).elim [] fun cmd => c.verification cmd T

/-- What a request on a handle has shown, by the frames of its play and its outcome. -/
def events (c : Card) (request : Request) (T : Transcript) (outcome : Except Error Outcome) :
    List Event :=
  match request, outcome, T with
  | .startFirst keyNo, .ok _, [(_, .ok (_ :: nonce))] => [.challenged keyNo nonce]
  | .finishFirst key draw, .ok _, [(_, .ok reply)] =>
    c.challenge.toList.map fun ch =>
      .opened ⟨ch.keyNo, key, draw 16, ch.encryptedNonce, reply⟩
  | .authenticate keyNo key draw, .ok _, [(_, .ok (_ :: nonce)), (_, .ok reply)] =>
    [.challenged keyNo nonce, .opened ⟨keyNo, key, draw 16, nonce, reply⟩]
  | .reauthenticate keyNo key draw, .ok _, [(_, .ok (_ :: nonce)), (_, .ok reply)] =>
    [.renewed ⟨keyNo, key, draw 16, nonce, reply⟩]
  | request, _, T => c.commandEvents request T

/-- What a run of a handle has shown, in order. -/
def history {σ : Type} (t : Transport σ) : List Request → Card → σ → List Event
  | [], _, _ => []
  | r :: rs, c, w =>
    let d := (perform r).start c
    c.events r (d.transcript t w) (d.run t w).1.1 ++ history t rs (d.run t w).1.2 (d.run t w).2

end Card

/-! ## What a session rests on -/

/-- The agreement that gave the keys in force: the last renewal, or else the first
authentication. -/
def latest (o : Agreement) (after : List Event) : Agreement :=
  (after.filterMap Event.renewed?).getLast?.getD o

/-- The history accounts for a session: a first authentication opened its transaction after the card
was challenged for it, the latest agreement since then gave its keys and slot, and the verified
exchanges since then are those of its transaction under the counters below its own, one each. -/
def Founded (H : List Event) (keyNo : UInt8) (p : AesProtection) : Prop :=
  ∃ before o after, H = before ++ .opened o :: after ∧ (∀ a, .opened a ∉ after) ∧
    .challenged o.keyNo o.challenge ∈ before ∧ o.Opens p.ti ∧
    (latest o after).Gives p.keys ∧ keyNo = (latest o after).keyNo ∧
    after.filterMap Event.verified? =
      (List.range p.counter.value.toNat).map fun n => (p.ti, n)

/-- The history accounts for what a handle holds. -/
structure Accounted (H : List Event) (c : Card) : Prop where
  challenge : ∀ ch, c.challenge = some ch → .challenged ch.keyNo ch.encryptedNonce ∈ H
  session : ∀ s p, c.session = some s → s.protection = some (.aes p) → Founded H s.keyNo p

/-! ## Growing a history -/

theorem Counter.toNat_next {c next : Counter} (h : c.next = .ok next) :
    next.value.toNat = c.value.toNat + 1 := by
  unfold Counter.next at h
  split_ifs at h with hlast
  cases h
  have hne : c.value.toNat ≠ 65535 := fun heq => hlast (UInt16.toNat_inj.mp heq)
  have hlt := c.value.toNat_lt
  show (c.value + 1).toNat = _
  rw [UInt16.toNat_add]
  show (c.value.toNat + 1) % 2 ^ 16 = _
  omega

theorem AesProtection.step_of_next {p : AesProtection} {next : Counter}
    (h : p.counter.next = .ok next) : p.step = .ok { p with counter := next } := by
  unfold step
  rw [h]
  rfl

theorem AesProtection.step_ok {p p' : AesProtection} (h : p.step = .ok p') :
    ∃ next, p.counter.next = .ok next ∧ p' = { p with counter := next } := by
  obtain ⟨next, hnext, h⟩ := bind_ok h
  cases h
  exact ⟨next, hnext, rfl⟩

theorem latest_renewed (o a : Agreement) (after : List Event) :
    latest o (after ++ [.renewed a]) = a := by
  simp [latest, Event.renewed?]

theorem latest_verified (o : Agreement) (after : List Event) (ti : TransactionId) (n : Nat) :
    latest o (after ++ [.verified ti n]) = latest o after := by
  simp [latest, Event.renewed?]

variable {H : List Event} {keyNo : UInt8} {p p' : AesProtection}

/-- A first authentication after a challenge. -/
theorem founded_opened {a : Agreement} {ti : TransactionId} {keys : SessionKeys}
    (hch : .challenged a.keyNo a.challenge ∈ H) (hopens : a.Opens ti) (hgives : a.Gives keys) :
    Founded (H ++ [.opened a]) a.keyNo { keys, ti } :=
  ⟨H, a, [], rfl, fun _ => List.not_mem_nil, hch, hopens, hgives, rfl, rfl⟩

/-- A renewed authentication changes keys and slot only. -/
theorem Founded.renewed (h : Founded H keyNo p) {a : Agreement} {keys : SessionKeys}
    (hgives : a.Gives keys) : Founded (H ++ [.renewed a]) a.keyNo (p.withKeys keys) := by
  obtain ⟨before, o, after, rfl, hfree, hch, hopens, -, -, hcount⟩ := h
  refine ⟨before, o, after ++ [.renewed a], by simp, ?_, hch, hopens, ?_, ?_, ?_⟩
  · intro b hb
    rcases List.mem_append.mp hb with hb | hb
    · exact hfree b hb
    · cases List.mem_singleton.mp hb
  · rw [latest_renewed]
    exact hgives
  · rw [latest_renewed]
  · rw [List.filterMap_append, hcount]
    exact List.append_nil _

/-- A verified exchange adds the counter that it was made under. -/
theorem Founded.verified (h : Founded H keyNo p) (hstep : p.step = .ok p') :
    Founded (H ++ [.verified p.ti p.counter.value.toNat]) keyNo p' := by
  obtain ⟨before, o, after, rfl, hfree, hch, hopens, hgives, hslot, hcount⟩ := h
  obtain ⟨next, hnext, rfl⟩ := AesProtection.step_ok hstep
  refine ⟨before, o, after ++ [.verified p.ti p.counter.value.toNat], by simp, ?_, hch, hopens,
    ?_, ?_, ?_⟩
  · intro b hb
    rcases List.mem_append.mp hb with hb | hb
    · exact hfree b hb
    · cases List.mem_singleton.mp hb
  · rw [latest_verified]
    exact hgives
  · rw [latest_verified]
    exact hslot
  · rw [List.filterMap_append, hcount, Counter.toNat_next hnext, List.range_succ, List.map_append]
    rfl

/-! ## Comparing histories -/

/-- The last opening of a history is one event. -/
theorem last_opened_unique {before before' after after' : List Event} {o o' : Agreement}
    (hfree : ∀ a, .opened a ∉ after) (hfree' : ∀ a, .opened a ∉ after')
    (h : before ++ .opened o :: after = before' ++ .opened o' :: after') :
    o = o' ∧ after = after' := by
  rcases List.append_eq_append_iff.mp h with ⟨mid, hbefore', hafter⟩ | ⟨mid, hbefore, hafter⟩
  · cases mid with
    | nil =>
      cases hafter
      exact ⟨rfl, rfl⟩
    | cons e mid =>
      obtain ⟨-, rfl⟩ := List.cons.inj hafter
      exact absurd (by simp) (hfree o')
  · cases mid with
    | nil =>
      cases hafter
      exact ⟨rfl, rfl⟩
    | cons e mid =>
      obtain ⟨-, rfl⟩ := List.cons.inj hafter
      exact absurd (by simp) (hfree' o)

/-- While no transaction is opened, the transaction stays and the counter grows by the number of
verified exchanges. -/
theorem Founded.continued {keyNo' : UInt8} {E : List Event} (h : Founded H keyNo p)
    (h' : Founded (H ++ E) keyNo' p') (hfree : ∀ a, .opened a ∉ E) :
    p'.ti = p.ti ∧
      p'.counter.value.toNat =
        p.counter.value.toNat + (E.filterMap Event.verified?).length := by
  obtain ⟨before, o, after, rfl, hafter, -, hopens, -, -, hcount⟩ := h
  obtain ⟨before', o', after', heq, hafter', -, hopens', -, -, hcount'⟩ := h'
  have hfree' : ∀ a, .opened a ∉ after ++ E := by
    intro a ha
    rcases List.mem_append.mp ha with ha | ha
    · exact hafter a ha
    · exact hfree a ha
  rw [List.append_assoc, List.cons_append] at heq
  obtain ⟨rfl, rfl⟩ := last_opened_unique hfree' hafter' heq
  refine ⟨hopens'.unique hopens, ?_⟩
  have hlength := congrArg List.length hcount'
  rw [List.filterMap_append, hcount] at hlength
  simpa using hlength.symm

end CardLink
