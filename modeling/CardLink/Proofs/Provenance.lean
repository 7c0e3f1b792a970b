import CardLink.Proofs.Exchanges
import CardLink.Proofs.HandshakePlays

/-!
# Where a session comes from

A handle never holds an EV2 session that its history does not account for. Each handshake replaces
the session or ends it, and every other request at most moves its counter on.

1. Every request keeps the history accounted for (`accounted_perform`).
2. So does every run (`accounted_performAll`).
3. The history therefore tells transaction, keys, slot and counter (`session_provenance`).
-/

namespace CardLink

theorem Accounted.exchanged {H E : List Event} {c c' : Card} (h : Accounted H c)
    (hc : c.Exchanged E c') : Accounted (H ++ E) c' where
  challenge ch hch := List.mem_append_left E (h.challenge ch (hc.challenge ch hch))
  session s' p' hs' hp' := by
    obtain ⟨s, p, hs, hp, hkey, ⟨rfl, rfl⟩ | ⟨hstep, rfl⟩⟩ := hc.session s' p' hs' hp'
    · rw [List.append_nil, hkey]
      exact h.session s p' hs hp
    · rw [hkey]
      exact (h.session s p hs hp).verified hstep

namespace Card

variable {H : List Event}

/-! ## Handshakes -/

/-- The request leaves a handle that the history accounts for, together with what it has shown. -/
def Accounts (H : List Event) (c : Card) (r : Request) : Prop :=
  ((perform r).start c).Plays fun T e => Accounted (H ++ c.events r T e.1) e.2

theorem GivenUp.exchanged {c c' : Card} (h : GivenUp c c') : Exchanged c [] c' := by
  cases h with
  | kept => exact exchanged_dropChallenge c
  | closed => exact exchanged_over [] rfl fun s p hs => by cases hs
  | invalidated hs =>
    refine exchanged_over [] rfl ?_
    rintro s p ⟨⟩ ⟨⟩

theorem events_of_error (c : Card) {r : Request} (hr : r.isHandshake = true) (T : Transcript)
    (err : Error) : c.events r T (.error err) = [] := by
  cases r with
  | startFirst | finishFirst | authenticate | reauthenticate | authenticateLegacy => rfl
  | _ => cases hr

theorem events_of_exchange (c : Card) {r : Request} (hr : r.isHandshake = false) (T : Transcript)
    (outcome : Except Error Outcome) : c.events r T outcome = c.commandEvents r T := by
  cases r with
  | startFirst | finishFirst | authenticate | reauthenticate | authenticateLegacy => cases hr
  | _ => rfl

theorem accounted_opened {c : Card} {a : Agreement} {s : Session} {keys : SessionKeys}
    {ti : TransactionId} (hch : .challenged a.keyNo a.challenge ∈ H)
    (hp : s.protection = some (.aes { keys, ti })) (hkey : s.keyNo = a.keyNo) (hopens : a.Opens ti)
    (hgives : a.Gives keys) : Accounted (H ++ [.opened a]) (c.close.adopt s) where
  challenge _ h := by cases h
  session := by
    rintro s' p ⟨⟩ hp'
    have hp' : s.protection = some (.aes p) := hp'
    rw [hp] at hp'
    cases hp'
    show Founded _ s.keyNo _
    rw [hkey]
    exact founded_opened hch hopens hgives

/-- What a handshake has shown accounts for what it leaves in the handle. -/
theorem HandshakePlay.accounted {c c' : Card} {r : Request} {T : Transcript}
    {outcome : Except Error Outcome} (h : HandshakePlay c r T outcome c')
    (hr : r.isHandshake = true) (hc : Accounted H c) :
    Accounted (H ++ c.events r T outcome) c' := by
  cases h with
  | refused r err =>
    rw [events_of_error c hr]
    exact hc.exchanged (exchanged_refl c)
  | failed r T err h =>
    rw [events_of_error c hr]
    exact hc.exchanged h.exchanged
  | challenged frame hkey hlength =>
    refine ⟨?_, fun s p hs => by cases hs⟩
    rintro ch ⟨⟩
    exact List.mem_append_right _ List.mem_cons_self
  | @finished key draw ch keys ti s frame reply hch hp hkey hopens hgives =>
    have hevents : c.events (.finishFirst key draw) [(frame, .ok reply)] (.ok .done) =
        [.opened ⟨ch.keyNo, key, draw 16, ch.encryptedNonce, reply⟩] := by
      simp [events, hch]
    rw [hevents]
    exact accounted_opened (hc.challenge ch hch) hp hkey hopens hgives
  | @authenticated keyNo key draw nonce keys ti s frame frame' reply hbound hp hkey hopens hgives =>
    show Accounted
      (H ++ [.challenged keyNo nonce, .opened ⟨keyNo, key, draw 16, nonce, reply⟩]) _
    rw [List.append_cons]
    refine accounted_opened ?_ hp hkey hopens hgives
    exact List.mem_append_right _ List.mem_cons_self
  | @renewed keyNo key draw nonce s p keys frame frame' reply hbound hs hp hgives =>
    show Accounted (H ++ [.renewed ⟨keyNo, key, draw 16, nonce, reply⟩]) _
    refine ⟨by rintro ch ⟨⟩, ?_⟩
    rintro s' p' ⟨⟩ ⟨⟩
    exact (hc.session s p hs hp).renewed hgives
  | legacy key draw q T hbound =>
    refine hc.exchanged (exchanged_over _ rfl ?_)
    rintro s' p ⟨⟩ ⟨⟩

/-! ## Runs -/

theorem accounted_perform {c : Card} (h : Accounted H c) (r : Request) : Accounts H c r := by
  cases hr : r.isHandshake with
  | false =>
    unfold Accounts
    simp only [events_of_exchange c hr]
    exact (exchanged_perform c r hr).mono fun T e hc => h.exchanged hc
  | true => exact (c.handshake_plays hr).mono fun T e hplay => hplay.accounted hr h

theorem accounted_performAll {σ : Type} (t : Transport σ) (rs : List Request) {c : Card}
    (h : Accounted H c) (w : σ) :
    Accounted (H ++ history t rs c w) ((performAll rs c).run t w).1.2 := by
  induction rs generalizing H c w with
  | nil =>
    unfold history
    rw [List.append_nil]
    exact h
  | cons r rs ih =>
    have hstep := (accounted_perform h r).run t w
    have hrest := ih hstep (((perform r).start c).run t w).2
    unfold history performAll
    rw [Dialogue.run_bind, Dialogue.run_bind, ← List.append_assoc]
    exact hrest

theorem accounted_fresh (settings : Settings) : Accounted [] { settings } where
  challenge _ h := by cases h
  session _ _ h := by cases h

/-- **Provenance of an EV2 session.** Whenever a run from a fresh handle ends with a valid EV2
session, its history has a last first authentication. The card had been challenged for it; its
answer in clear carries the host's nonce, rotated, and begins with the transaction in use. Keys and
slot are those of the latest handshake since then. The exchanges that verified since then are those
of this transaction under the counters 0, 1, … below the one in use, each once. As long as no
further run opens a transaction, it stays the same and the counter grows by the exchanges that
verify. -/
theorem session_provenance {σ : Type} (t : Transport σ) (w : σ) (settings : Settings)
    (rs : List Request) (s : Session) (p : AesProtection)
    (hs : ((performAll rs { settings }).run t w).1.2.session = some s)
    (hp : s.protection = some (.aes p)) :
    Founded (history t rs { settings } w) s.keyNo p ∧
    ∀ rs' s' p', let e := (performAll rs { settings }).run t w
      let E := history t rs' e.1.2 e.2
      ((performAll rs' e.1.2).run t e.2).1.2.session = some s' →
      s'.protection = some (.aes p') → (∀ a, .opened a ∉ E) →
      p'.ti = p.ti ∧ p'.counter.value.toNat =
        p.counter.value.toNat + (E.filterMap Event.verified?).length := by
  have h := accounted_performAll t rs (accounted_fresh settings) w
  have hfounded := h.session s p hs hp
  refine ⟨hfounded, ?_⟩
  intro rs' s' p' e E hs' hp' hfree
  have h' := accounted_performAll t rs' h e.2
  exact hfounded.continued (h'.session s' p' hs' hp') hfree

/-! ### A session under the zero key -/

/-- The host's nonce. -/
def sampleNonce : Nonce :=
  ⟨[0x13, 0xC5, 0xDB, 0x8A, 0x59, 0x30, 0x43, 0x9F, 0xC3, 0xDE, 0xF9, 0xA4, 0xC6, 0x75, 0x36, 0x0F],
    rfl⟩

/-- The card's messages in a first authentication. -/
def sampleReplies : List Delivery :=
  [.ok [0xAF, 0xA0, 0x4C, 0x12, 0x42, 0x13, 0xC1, 0x86, 0xF2, 0x23, 0x99, 0xD3, 0x3A, 0xC2, 0xA3,
      0x02, 0x15],
    .ok [0x00, 0x3F, 0xA6, 0x4D, 0xB5, 0x44, 0x6D, 0x1F, 0x34, 0xCD, 0x6E, 0xA3, 0x11, 0x16, 0x7F,
      0x5E, 0x49, 0x85, 0xB8, 0x96, 0x90, 0xC0, 0x4A, 0x05, 0xF1, 0x7F, 0xA7, 0xAB, 0x2F, 0x08,
      0x12, 0x06, 0x63]]

/-- The transaction that the card assigns. -/
def sampleTi : TransactionId := ⟨[0x9D, 0x00, 0xC4, 0xDF], rfl⟩

/-- A first authentication under the zero key. -/
def sampleOpening : Request := .authenticate 0 (Octets.zero 16) (.repeating sampleNonce.toList)

theorem session_provenance_opening :
    ∃ s p, ((performAll [sampleOpening] { settings := {} }).run Script.transport
        { replies := sampleReplies }).1.2.session = some s ∧
      s.protection = some (.aes p) ∧ p.ti = sampleTi ∧
      Founded (history Script.transport [sampleOpening] { settings := {} }
        { replies := sampleReplies }) s.keyNo p := by
  have h := session_provenance Script.transport { replies := sampleReplies } {} [sampleOpening]
  have hti : ((performAll [sampleOpening] { settings := {} }).run Script.transport
      { replies := sampleReplies }).1.2.session.bind Session.ti? = some sampleTi := by
    decide +kernel
  obtain ⟨s, hs, hti⟩ := Option.bind_eq_some_iff.mp hti
  obtain ⟨q, hq, hti⟩ := Option.bind_eq_some_iff.mp hti
  cases q with
  | tripleDes q => cases hti
  | aes p => exact ⟨s, p, hs, hq, Option.some.inj hti, (h s p hs hq).1⟩

end Card

end CardLink
