import CardLink.Proofs.Transitions

/-!
# Coherent handles

A handle has two places for the outcome of a handshake, one for a challenge and one for a session,
and it keeps the application apart from the one that the session remembers. In a coherent handle the
two places are never both taken, and the two records agree. Every request leaves a coherent handle
coherent.
-/

namespace CardLink

/-- A session of the newer generation is one with a transaction and a counter. -/
theorem Session.generation?_eq_ev2 (s : Session) :
    s.generation? = some .ev2 ↔ s.ti?.isSome = true ∧ s.counter?.isSome = true := by
  unfold generation? ti? counter?
  rcases s.protection with _ | p | q
  · exact iff_of_false (by intro h; cases h) (by rintro ⟨h, -⟩; cases h)
  · exact iff_of_true rfl ⟨rfl, rfl⟩
  · exact iff_of_false (by intro h; cases h) (by rintro ⟨h, -⟩; cases h)

namespace Card

variable {c c' : Card}

/-- What holds of every handle between two requests. -/
structure Coherent (c : Card) : Prop where
  /-- There is one context at most in which an authentication counts. -/
  exclusive : c.challenge = none ∨ c.session = none
  /-- A challenge is one of a first authentication. -/
  challenge : ∀ ch, c.challenge = some ch →
    ch.kind = .first ∧ ch.encryptedNonce.length = 16 ∧ ch.keyNo ≤ Handshake.maxKeyNo
  /-- A session, in use or over, was made in the selected application. -/
  session : ∀ s, c.session = some s →
    s.application = c.application ∧ s.keyNo ≤ Handshake.maxKeyNo

/-- A handle that holds nothing. -/
theorem coherent_of_none (hch : c.challenge = none) (hs : c.session = none) : Coherent c where
  exclusive := Or.inl hch
  challenge ch h := by
    rw [hch] at h
    cases h
  session s h := by
    rw [hs] at h
    cases h

/-! ## Changes of a handle -/

theorem Coherent.reduced (h : Coherent c) (hc : Reduced c c') : Coherent c' where
  exclusive := Or.inl hc.challenge
  challenge ch hch := by
    rw [hc.challenge] at hch
    cases hch
  session s' hs' := by
    obtain ⟨s, p, hs, rfl⟩ := hc.session s' hs'
    rw [hc.application]
    exact h.session s hs

/-- A closed handle with a challenge. -/
theorem coherent_challenged (c : Card) {ch : Challenge} (hkind : ch.kind = .first)
    (hlength : ch.encryptedNonce.length = 16) (hkey : ch.keyNo ≤ Handshake.maxKeyNo) :
    Coherent { c.close with challenge := some ch } where
  exclusive := Or.inr rfl
  challenge := by
    rintro ch ⟨⟩
    exact ⟨hkind, hlength, hkey⟩
  session s hs := by cases hs

/-- A handle without a challenge whose session was made in the selected application. -/
theorem coherent_session {s : Session} (hch : c.challenge = none) (hs : c.session = some s)
    (happ : s.application = c.application) (hkey : s.keyNo ≤ Handshake.maxKeyNo) : Coherent c where
  exclusive := Or.inl hch
  challenge ch h := by
    rw [hch] at h
    cases h
  session s' hs' := by
    rw [hs] at hs'
    cases hs'
    exact ⟨happ, hkey⟩

theorem Coherent.opened (h : Coherent c) {s : Session}
    (hkey : s.keyNo ≤ Handshake.maxKeyNo ∨ ∃ ch, c.challenge = some ch ∧ s.keyNo = ch.keyNo) :
    Coherent (c.close.adopt s) := by
  have hbound : s.keyNo ≤ Handshake.maxKeyNo := by
    rcases hkey with hkey | ⟨ch, hch, hkey⟩
    · exact hkey
    · rw [hkey]
      exact (h.challenge ch hch).2.2
  exact coherent_session rfl rfl rfl hbound

/-! ## Requests -/

theorem Coherent.step (h : Coherent c) {r : Request} {T : Transcript}
    {outcome : Except Error Outcome} (hstep : Step c r T outcome c') : Coherent c' := by
  cases hstep with
  | refused r err => exact h
  | failed r T err hc => exact h.reduced hc
  | exchanged hr T outcome hc => exact h.reduced hc
  | challenged frame hkey hlength => exact c.coherent_challenged rfl hlength hkey
  | opened hr T hkey => exact h.opened hkey
  | renewed key draw T p hs hkey => exact coherent_session rfl rfl (h.session _ hs).1 hkey
  | selected aid T => exact coherent_of_none rfl rfl

/-- A handle shows a pending handshake exactly if it holds a challenge: no session shows one. -/
theorem state_eq_handshakePending (c : Card) :
    c.state = .handshakePending ↔ c.challenge.isSome = true := by
  unfold state
  by_cases hch : c.challenge.isSome = true
  · rw [if_pos hch]
    exact iff_of_true rfl hch
  · rw [if_neg hch]
    refine iff_of_false ?_ hch
    cases c.session with
    | none => exact fun h => by cases h
    | some s =>
      show s.state ≠ .handshakePending
      unfold Session.state
      split <;> exact fun h => by cases h

/-- **Coherence.** However many requests are made of a fresh handle, whether they succeed or fail
and whatever the transport does: the handle is coherent, it shows a pending handshake exactly if it
holds a challenge, and a valid session in it is of the newer generation exactly if it has a
transaction and a counter. -/
theorem coherent_performAll {σ : Type} (t : Transport σ) (w : σ) (settings : Settings)
    (rs : List Request) :
    let c := ((performAll rs { settings }).run t w).1.2
    Coherent c ∧ (c.state = .handshakePending ↔ c.challenge.isSome = true) ∧
      ∀ s, c.session = some s → s.isValid = true →
        (s.generation? = some .ev2 ↔ s.ti?.isSome = true ∧ s.counter?.isSome = true) := by
  intro c
  have hcoherent : Coherent c :=
    invariant_performAll (fun _ _ _ _ _ hstep h => h.step hstep) t rs (coherent_of_none rfl rfl) w
  exact ⟨hcoherent, c.state_eq_handshakePending, fun s _ _ => s.generation?_eq_ev2⟩

end Card

end CardLink
