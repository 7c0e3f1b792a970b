import CardLink.Proofs.CodecRoundTrips

/-!
# Authentic replies

The tag of a secured reply is compared in full, and before anything else is done with the reply. So
a reply is read exactly if it is authentic, and one that is not tells nothing: neither its mode nor
its length nor what it carries changes the verdict on it.

1. The verdict on a reply in the order in which it is reached: length, tag, blocks
   (`recover_verdict`).
2. Two replies that differ in their tags alone are not both authentic (`Authentic.eq_of_payload`).
-/

namespace CardLink

namespace Reply

/-- The status lets the host go on with the reply. -/
def Passes (r : Reply) : Prop :=
  r.status = CardStatus.ok ∨ r.status = CardStatus.additionalFrame

theorem Passes.check {r : Reply} (h : r.Passes) : CardStatus.check r.status = .ok () := if_pos h

end Reply

namespace AesProtection

variable {p : AesProtection} {next : Counter} {mode : CommMode} {r r' : Reply}

/-! ## The verdict on a reply -/

/-- The reply ends with the tag of its status and payload under the given counter. -/
def Authentic (p : AesProtection) (next : Counter) (r : Reply) : Prop :=
  r.tag = (Protection.responseTag p.keys.mac p.ti r.status next r.payload).toList

/-- The reply is long enough to have a tag, and the tag is wrong. -/
def Forged (p : AesProtection) (next : Counter) (r : Reply) : Prop :=
  Reply.tagLength ≤ r.data.length ∧ ¬ p.Authentic next r

/-- What a reply is found to be, with what is reported of it. -/
inductive Verdict (p : AesProtection) (next : Counter) (mode : CommMode) (r : Reply) :
    Except Error Bytes → Prop where
  | short (h : r.data.length < Reply.tagLength) :
    Verdict p next mode r (.error (.wrongLength .securedResponse Reply.tagLength r.data.length))
  | forged (h : p.Forged next r) : Verdict p next mode r (.error .macMismatch)
  | misaligned (h : p.Authentic next r) (hfull : mode = .full) (hblocks : r.payload.length % 16 ≠ 0) :
    Verdict p next mode r (.error (.wrongLength (.fullResponse 16)
      (Cbc.nextMultiple 16 r.payload.length) r.payload.length))
  | authentic (h : p.Authentic next r) (hblocks : mode = .full → r.payload.length % 16 = 0)
    (data : Bytes) : Verdict p next mode r (.ok data)

/-- A tag that is right has its eight bytes. -/
theorem Authentic.le_length (h : p.Authentic next r) : Reply.tagLength ≤ r.data.length := by
  have hlength := congrArg List.length h
  rw [Octets.length_toList, Reply.tag, List.length_drop] at hlength
  simp only [Reply.tagLength] at hlength ⊢
  omega

/-- An answer of the card is authentic. -/
theorem authentic_answer (p : AesProtection) (next : Counter) (body : Bytes) :
    p.Authentic next (p.answer next body) := by
  have htag := (Protection.responseTag p.keys.mac p.ti CardStatus.ok next body).length_toList
  rw [Authentic, answer, Reply.tag_append _ _ htag, Reply.payload_append _ _ htag]

theorem verified_of_short (hnext : p.counter.next = .ok next)
    (h : r.data.length < Reply.tagLength) :
    p.verified r = .error (.wrongLength .securedResponse Reply.tagLength r.data.length) := by
  rw [verified, hnext, Reply.detachTag_of_short h]
  rfl

theorem verified_of_le (hnext : p.counter.next = .ok next) (h : Reply.tagLength ≤ r.data.length) :
    p.verified r = if Bytes.sameAs r.tag
        (Protection.responseTag p.keys.mac p.ti r.status next r.payload).toList = true
      then .ok r.payload else .error .macMismatch := by
  rw [verified, hnext, Reply.detachTag_of_le h]
  rfl

theorem verified_of_authentic (hnext : p.counter.next = .ok next) (h : p.Authentic next r) :
    p.verified r = .ok r.payload := by
  rw [verified_of_le hnext h.le_length, if_pos (Bytes.sameAs_iff.mpr h)]

theorem verified_of_forged (hnext : p.counter.next = .ok next) (h : p.Forged next r) :
    p.verified r = .error .macMismatch := by
  rw [verified_of_le hnext h.1, if_neg (mt Bytes.sameAs_iff.mp h.2)]

theorem decrypted_verdict (hnext : p.counter.next = .ok next) (h : p.Authentic next r) :
    p.Verdict next .full r (p.decrypted r.payload) := by
  by_cases hblocks : r.payload.length % 16 = 0
  · have hdecrypt := Cbc.decrypt_of_aligned (aes p.keys.enc)
      (Protection.iv .response p.keys.enc p.ti next) hblocks
    rw [(decrypted_eq_ok hnext).mpr hdecrypt]
    exact .authentic h (fun _ => hblocks) _
  · have hrefused : p.decrypted r.payload = .error (.wrongLength (.fullResponse 16)
        (Cbc.nextMultiple 16 r.payload.length) r.payload.length) := by
      rw [decrypted, hnext, Cbc.checkAligned, if_neg hblocks]
      rfl
    rw [hrefused]
    exact .misaligned h rfl hblocks

/-- The length of a reply is looked at first, then its tag, and only then what it carries. -/
theorem recover_verdict (hnext : p.counter.next = .ok next) (hmode : mode.isSecured = true)
    (hr : r.Passes) : p.Verdict next mode r (p.recover mode r) := by
  rw [p.recover_secured hmode hr.check]
  by_cases hlength : r.data.length < Reply.tagLength
  · rw [verified_of_short hnext hlength]
    exact .short hlength
  by_cases htag : p.Authentic next r
  · rw [verified_of_authentic hnext htag]
    cases mode with
    | plain => cases hmode
    | mac =>
      have hclear : CommMode.mac = .full → r.payload.length % 16 = 0 := nofun
      exact .authentic htag hclear r.payload
    | full => exact decrypted_verdict hnext htag
  · have hforged : p.Forged next r := ⟨Nat.le_of_not_lt hlength, htag⟩
    rw [verified_of_forged hnext hforged]
    exact .forged hforged

/-! ## Forged replies -/

/-- With the same status and payload only one tag is right. -/
theorem Authentic.eq_of_payload (h : p.Authentic next r) (h' : p.Authentic next r')
    (hstatus : r'.status = r.status) (hpayload : r'.payload = r.payload) : r' = r := by
  have htag : r'.tag = r.tag := by
    rw [h, h', hstatus, hpayload]
  have hdata : r'.data = r.data := by
    rw [← r'.payload_append_tag, hpayload, htag, r.payload_append_tag]
  cases r
  cases r'
  cases hstatus
  cases hdata
  rfl

theorem recover_forged (hnext : p.counter.next = .ok next) (hmode : mode.isSecured = true)
    (hr : r.Passes) (h : p.Forged next r) : p.recover mode r = .error .macMismatch := by
  have hverdict := recover_verdict hnext hmode hr
  generalize p.recover mode r = x at hverdict ⊢
  cases hverdict with
  | short hlength => exact absurd h.1 (Nat.not_le_of_lt hlength)
  | forged => rfl
  | misaligned htag | authentic htag => exact absurd htag h.2

/-- How replies are judged under the given counter, if their status lets the host go on. -/
structure Authenticates (p : AesProtection) (next : Counter) : Prop where
  /-- A reply is read exactly if its tag is right and what has to be decrypted is whole. -/
  accepts : ∀ {mode : CommMode} {r : Reply}, mode.isSecured = true → r.Passes →
    ((∃ data, p.recover mode r = .ok data) ↔ Reply.tagLength ≤ r.data.length ∧
      p.Authentic next r ∧ (mode = .full → r.payload.length % 16 = 0))
  /-- With any other tag a reply that is read would be rejected. -/
  tampered : ∀ {mode : CommMode} {r r' : Reply}, mode.isSecured = true → r.Passes →
    (∃ data, p.recover mode r = .ok data) → r'.status = r.status →
      r'.data.length = r.data.length → r'.payload = r.payload → r' ≠ r →
        p.recover mode r' = .error .macMismatch
  /-- No two forged replies can be told apart by the error, nor by the mode that they are read in. -/
  uniform : ∀ {mode mode' : CommMode} {r r' : Reply}, mode.isSecured = true →
    mode'.isSecured = true → r.Passes → r'.Passes → p.Forged next r → p.Forged next r' →
      p.recover mode r = .error .macMismatch ∧ p.recover mode' r' = p.recover mode r
  /-- The length of a payload is objected to only under the right tag. -/
  lengths : ∀ {mode : CommMode} {r : Reply} {what : Measured} {expected actual : Nat},
    mode.isSecured = true → r.Passes → Reply.tagLength ≤ r.data.length →
      p.recover mode r = .error (.wrongLength what expected actual) → p.Authentic next r
  /-- The key of encryption makes a difference only under the right tag. -/
  decrypts : ∀ {mode : CommMode} {r : Reply} {enc : AesKey}, mode.isSecured = true → r.Passes →
    Reply.tagLength ≤ r.data.length →
      p.recover mode r ≠ AesProtection.recover { p with keys := { p.keys with enc } } mode r →
        p.Authentic next r

/-- **Authentic replies.** At every counter but the last, a secured reply whose status lets the host
go on is read exactly if it has eight bytes, the last eight are the tag of all bytes before under
the next counter, and these are whole blocks if they have to be decrypted. No other tag is accepted
for the same payload, and every reply with a wrong tag ends with one and the same error. -/
theorem recover_authenticates (p : AesProtection) (h : p.counter.value.toNat < 65535) :
    ∃ next : Counter, next.value.toNat = p.counter.value.toNat + 1 ∧ p.Authenticates next := by
  obtain ⟨next, hnext⟩ := exists_next h
  have haccepts {mode : CommMode} {r : Reply} (hmode : mode.isSecured = true) (hr : r.Passes) :
      (∃ data, p.recover mode r = .ok data) ↔ Reply.tagLength ≤ r.data.length ∧
        p.Authentic next r ∧ (mode = .full → r.payload.length % 16 = 0) := by
    have hverdict := recover_verdict hnext hmode hr
    generalize p.recover mode r = x at hverdict ⊢
    cases hverdict with
    | short hlength => simp [Nat.not_le_of_lt hlength]
    | forged h => simp [h.2]
    | misaligned h hfull hblocks => simp [hfull, hblocks]
    | authentic h hblocks data => simpa [h, h.le_length] using hblocks
  refine ⟨next, Counter.toNat_next hnext, haccepts, ?_, ?_, ?_, ?_⟩
  · intro mode r r' hmode hr hread hstatus hlength hpayload hne
    obtain ⟨hle, htag, -⟩ := (haccepts hmode hr).mp hread
    have hr' : r'.Passes := by
      unfold Reply.Passes
      rwa [hstatus]
    refine recover_forged hnext hmode hr' ⟨hlength ▸ hle, fun htag' => hne ?_⟩
    exact htag.eq_of_payload htag' hstatus hpayload
  · intro mode mode' r r' hmode hmode' hr hr' h h'
    have hforged := recover_forged hnext hmode hr h
    exact ⟨hforged, by rw [hforged, recover_forged hnext hmode' hr' h']⟩
  · intro mode r what expected actual hmode hr hle herr
    by_contra htag
    rw [recover_forged hnext hmode hr ⟨hle, htag⟩] at herr
    cases herr
  · intro mode r enc hmode hr hle hne
    by_contra htag
    have hforged : p.Forged next r := ⟨hle, htag⟩
    refine hne ?_
    rw [recover_forged hnext hmode hr hforged]
    exact (recover_forged (p := { p with keys := { p.keys with enc } }) hnext hmode hr hforged).symm

/-! ### An answer with another tag -/

theorem recover_authenticates_other_tag :
    let r : Reply := samplePeer.answer ⟨1⟩ [1, 2]
    let r' : Reply := ⟨CardStatus.ok, [1, 2] ++ Bytes.zeros 8⟩
    samplePeer.counter.value.toNat < 65535 ∧
      (∃ data, samplePeer.recover .mac r = .ok data) ∧
      samplePeer.recover .mac r' = .error .macMismatch ∧
      samplePeer.recover .full r' = samplePeer.recover .mac r' := by
  intro r r'
  have hcounter : samplePeer.counter.value.toNat < 65535 := by decide
  obtain ⟨next, hvalue, h⟩ := recover_authenticates samplePeer hcounter
  have hnext : next = ⟨1⟩ := congrArg Counter.mk (UInt16.toNat_inj.mp hvalue)
  subst hnext
  have htag : samplePeer.Authentic ⟨1⟩ r := authentic_answer samplePeer ⟨1⟩ [1, 2]
  have htag' : ¬ samplePeer.Authentic ⟨1⟩ r' := by
    show Bytes.zeros 8 ≠ (Protection.responseTag _ _ _ _ [1, 2]).toList
    decide +kernel
  have hread : ∃ data, samplePeer.recover .mac r = .ok data :=
    (h.accepts rfl (Or.inl rfl)).mpr ⟨htag.le_length, htag, nofun⟩
  have hlength : r'.data.length = r.data.length := by
    simp [r, r', answer]
  have hpayload : r'.payload = r.payload :=
    (Reply.payload_append CardStatus.ok [1, 2] (Octets.length_toList _)).symm
  have hforged : samplePeer.Forged ⟨1⟩ r' := ⟨by decide, htag'⟩
  refine ⟨hcounter, hread, ?_, ?_⟩
  · exact h.tampered rfl (Or.inl rfl) hread rfl hlength hpayload fun heq => htag' (heq ▸ htag)
  · exact (h.uniform rfl rfl (Or.inl rfl) (Or.inl rfl) hforged hforged).2

end AesProtection

end CardLink
