import CardLink.Proofs.AuthenticReplies
import CardLink.Proofs.LegacyAuthentication

/-!
# Protection by triple DES as a codec

Nothing in a frame under triple DES would show a mistake: the host decrypts whatever comes. So what
the two sides make of a frame has to agree for every mode and every length.

1. A payload is encrypted exactly if the mode is full and there is something to encrypt
   (`protect_clear`, `protect_full`); an answer is decrypted under the same conditions
   (`recover_clear`, `recover_full_iff`).
2. A length that is no whole number of blocks is refused on both sides (`protect_unaligned`,
   `recover_unaligned`).
-/

namespace CardLink.TripleDesProtection

variable {p : TripleDesProtection} {c : Command} {r : Reply}

/-! ## Commands -/

theorem protect_clear (h : c.mode ≠ .full ∨ c.payload = []) : p.protect c = .ok c.clearFrame := by
  unfold protect Command.clearFrame
  by_cases hfull : c.mode = .full
  · have hempty : c.payload = [] := h.resolve_left (not_not.mpr hfull)
    rw [if_pos hfull, hempty]
    rfl
  · exact if_neg hfull

/-- In full mode the frame ends with the encrypted payload. -/
theorem protect_full (hfull : c.mode = .full) (haligned : c.payload.length % 8 = 0) :
    ∃ body, p.protect c = .ok (c.frameWith body) ∧
      Cbc.encrypt p.key.cipher iv c.payload = .ok body := by
  have hencrypt := Cbc.encrypt_of_aligned p.key.cipher iv haligned
  refine ⟨_, ?_, hencrypt⟩
  unfold protect Cbc.checkAligned
  rw [if_pos hfull, if_pos haligned, hencrypt]
  rfl

theorem protect_unaligned (hfull : c.mode = .full) (h : c.payload.length % 8 ≠ 0) :
    p.protect c = .error (.wrongLength (.fullPayload 8) (Cbc.nextMultiple 8 c.payload.length)
      c.payload.length) := by
  unfold protect Cbc.checkAligned
  rw [if_pos hfull, if_neg h]
  rfl

/-! ## Answers -/

theorem recover_refused (mode : CommMode) (h : ¬ r.Passes) :
    p.recover mode r = .error (.refused ⟨r.status⟩) := by
  have hcheck : CardStatus.check r.status = .error (.refused ⟨r.status⟩) := if_neg h
  rw [recover, hcheck]
  rfl

/-- What the mode asks for is done once the status has passed. -/
theorem recover_of_passes (mode : CommMode) (h : r.Passes) :
    p.recover mode r = if mode = .full then
      Cbc.checkAligned 8 (.fullResponse 8) r.data >>= fun _ => Cbc.decrypt p.key.cipher iv r.data
    else .ok r.data := by
  rw [recover, h.check]
  rfl

theorem recover_clear {mode : CommMode} (hr : r.Passes) (h : mode ≠ .full ∨ r.data = []) :
    p.recover mode r = .ok r.data := by
  rw [recover_of_passes mode hr]
  by_cases hfull : mode = .full
  · have hempty : r.data = [] := h.resolve_left (not_not.mpr hfull)
    rw [if_pos hfull, hempty]
    rfl
  · exact if_neg hfull

/-- In full mode the host reads exactly the text whose encryption has come. -/
theorem recover_full_iff (hr : r.Passes) {plain : Bytes} :
    p.recover .full r = .ok plain ↔ Cbc.encrypt p.key.cipher iv plain = .ok r.data := by
  rw [Cbc.encrypt_eq_ok_iff p.key.cipher_invertible, recover_of_passes .full hr, if_pos rfl,
    bind_eq_ok]
  constructor
  · rintro ⟨u, -, h⟩
    exact h
  · intro h
    exact ⟨(), if_pos (Cbc.decrypt_ok h).1, h⟩

theorem recover_unaligned (hr : r.Passes) (h : r.data.length % 8 ≠ 0) :
    p.recover .full r = .error (.wrongLength (.fullResponse 8) (Cbc.nextMultiple 8 r.data.length)
      r.data.length) := by
  rw [recover_of_passes .full hr, if_pos rfl, Cbc.checkAligned, if_neg h]
  rfl

/-! ## Sessions -/

/-- Whatever is exchanged under triple DES, it leaves the session as it is or ends it. -/
theorem issue_keeps {s : Session} (hs : s.protection = some (.tripleDes p)) (settings : Settings)
    (c : Command) : (s.issue settings c).Plays fun _ e => e.2 = s ∨ e.2 = s.invalidate := by
  refine Session.issueWith_ends (P := fun s' => s' = s ∨ s' = s.invalidate) (Or.inl rfl)
    (Or.inr rfl) fun r data s' h => Or.inl ?_
  unfold Session.accept at h
  obtain ⟨q, hq, h⟩ := bind_ok h
  rw [Session.requireProtection_eq_ok, hs] at hq
  cases hq
  obtain ⟨data', -, h⟩ := bind_ok h
  split_ifs at h
  · cases h
    rw [← hs]
  · cases h
    rfl

/-! ## Both directions -/

/-- What becomes of a command. -/
structure Written (p : TripleDesProtection) (c : Command) : Prop where
  /-- Without anything to encrypt the frame is the one without protection. -/
  clear : c.mode ≠ .full ∨ c.payload = [] → p.protect c = .ok c.clearFrame
  /-- A payload is encrypted behind code and header, and is read again from an answer with the same
  bytes. -/
  encrypted : c.mode = .full → c.payload ≠ [] → c.payload.length % 8 = 0 → ∃ body,
    p.protect c = .ok (c.code :: c.header ++ body) ∧
      Cbc.decrypt p.key.cipher (Octets.zero 8) body = .ok c.payload ∧
      ∀ r : Reply, r.Passes → r.data = body → p.recover .full r = .ok c.payload
  unaligned : c.mode = .full → c.payload.length % 8 ≠ 0 → p.protect c = .error (.wrongLength
    (.fullPayload 8) (Cbc.nextMultiple 8 c.payload.length) c.payload.length)

/-- What becomes of an answer. -/
structure Read (p : TripleDesProtection) (r : Reply) : Prop where
  refused : ¬ r.Passes → ∀ mode, p.recover mode r = .error (.refused ⟨r.status⟩)
  /-- Without anything to decrypt the data is the one that came. -/
  clear : r.Passes → ∀ mode, mode ≠ .full ∨ r.data = [] → p.recover mode r = .ok r.data
  /-- Every whole number of blocks is decrypted. -/
  decrypted : r.Passes → r.data.length % 8 = 0 → ∃ plain,
    p.recover .full r = .ok plain ∧ Cbc.encrypt p.key.cipher (Octets.zero 8) plain = .ok r.data
  unaligned : r.Passes → r.data.length % 8 ≠ 0 → p.recover .full r = .error (.wrongLength
    (.fullResponse 8) (Cbc.nextMultiple 8 r.data.length) r.data.length)

theorem written (p : TripleDesProtection) (c : Command) : p.Written c where
  clear := protect_clear
  encrypted hfull _ haligned := by
    obtain ⟨body, hprotect, hencrypt⟩ := protect_full hfull haligned
    exact ⟨body, hprotect, Cbc.decrypt_encrypt p.key.cipher_invertible hencrypt,
      fun r hr hdata => (recover_full_iff hr).mpr (hdata ▸ hencrypt)⟩
  unaligned := protect_unaligned

theorem read (p : TripleDesProtection) (r : Reply) : p.Read r where
  refused h mode := recover_refused mode h
  clear hr _ := recover_clear hr
  decrypted hr haligned := by
    have hdecrypt := Cbc.decrypt_of_aligned p.key.cipher iv haligned
    have hencrypt := Cbc.encrypt_decrypt p.key.cipher_invertible hdecrypt
    exact ⟨_, (recover_full_iff hr).mpr hencrypt, hencrypt⟩
  unaligned := recover_unaligned

/-- **Triple DES as a codec.** Under every key, of two parts or three: a command in full mode with a
payload of whole blocks is its code, its header and the encrypted payload under the zero vector, and
an answer of the same bytes gives the payload back; so does every answer of whole blocks give the
text whose encryption it is. Every other length is refused. Other modes and empty strings go through
as they are, every status but success and a further frame is reported as a refusal, and no exchange
changes the protection: it leaves the session as it is or ends it. -/
theorem confidential_codec (p : TripleDesProtection) :
    (∀ c, p.Written c) ∧ (∀ r, p.Read r) ∧
      Protection.step (.tripleDes p) = .ok (.tripleDes p) ∧
      ∀ (s : Session) (settings : Settings) (c : Command), s.protection = some (.tripleDes p) →
        (s.issue settings c).Plays fun _ e => e.2 = s ∨ e.2 = s.invalidate :=
  ⟨p.written, p.read, rfl, fun _ settings c hs => issue_keeps hs settings c⟩

/-- A block goes through, and part of a block does not. -/
theorem confidential_codec_block :
    let p : TripleDesProtection := ⟨.threeKey (Octets.zero 24)⟩
    let c : Command := { code := 0x8D, mode := .full, header := [1], payload := Bytes.zeros 8 }
    (∃ body, p.protect c = .ok (0x8D :: [1] ++ body) ∧
      p.recover .full ⟨CardStatus.ok, body⟩ = .ok c.payload) ∧
      p.protect { c with payload := [2] } = .error (.wrongLength (.fullPayload 8) 8 1) ∧
      p.protect { c with mode := .mac } = .ok c.clearFrame := by
  intro p c
  obtain ⟨hwritten, -⟩ := confidential_codec p
  obtain ⟨body, hbody, -, hread⟩ := (hwritten c).encrypted rfl (List.cons_ne_nil _ _) (by decide)
  have hrefused :=
    (hwritten { code := 0x8D, mode := .full, header := [1], payload := [2] }).unaligned rfl
      (by decide)
  exact ⟨⟨body, hbody, hread _ (Or.inl rfl) rfl⟩, hrefused,
    (hwritten { c with mode := .mac }).clear (Or.inl nofun)⟩

end CardLink.TripleDesProtection
