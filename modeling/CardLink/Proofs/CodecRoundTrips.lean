import CardLink.Proofs.Lockstep

/-!
# Round trips of the codec

What the host writes a card can read, and what a card writes the host can read, each with the same
keys, transaction and counter and nothing else. The card's reader is written against the layout of a
frame: a code, a header whose length the card knows, the payload, and a tag over all of it.

1. Encrypting and decrypting a payload undo each other (`body_eq_ok_iff`).
2. A card reads a command from exactly the frame that the host writes for it
   (`readCommand_eq_some_iff`).
3. The host reads the body of an answer whose tag is right, and in full mode exactly the text whose
   encryption that body is (`recover_full_answer_iff`).
-/

namespace CardLink.AesProtection

/-! ## The card's reader -/

/-- The clear text of the bytes that take the place of a payload. -/
def payloadOf (p : AesProtection) (mode : CommMode) (body : Bytes) : Except Error Bytes :=
  match mode with
  | .plain | .mac => .ok body
  | .full =>
    Cbc.decrypt (aes p.keys.enc) (Protection.iv .command p.keys.enc p.ti p.counter) body

/-- What a card reads from a frame that ends with the right tag, for a command whose mode and length
of header it knows. -/
def readCommand (p : AesProtection) (mode : CommMode) (headerLength : Nat) (frame : Bytes) :
    Option Command :=
  match frame with
  | [] => none
  | code :: rest =>
    let body := rest.take (rest.length - Reply.tagLength)
    if HonestCard.authentic p (code :: rest) ∧ headerLength ≤ body.length then
      (p.payloadOf mode (body.drop headerLength)).toOption.map fun payload =>
        { code, mode, header := body.take headerLength, payload }
    else none

variable {p : AesProtection} {c : Command} {frame : Bytes}

theorem readCommand_cons (p : AesProtection) (mode : CommMode) (headerLength : Nat) (code : UInt8)
    (body : Bytes) (tag : Octets 8) :
    p.readCommand mode headerLength (code :: (body ++ tag.toList)) =
      if HonestCard.authentic p (code :: (body ++ tag.toList)) ∧ headerLength ≤ body.length then
        (p.payloadOf mode (body.drop headerLength)).toOption.map fun payload =>
          { code, mode, header := body.take headerLength, payload }
      else none := by
  have hlength : (body ++ tag.toList).length - Reply.tagLength = body.length := by
    rw [List.length_append, tag.length_toList]
    exact Nat.add_sub_cancel _ _
  simp only [readCommand, hlength, List.take_left]

/-- A frame that ends with the right tag is a code, a body and the tag of both. -/
theorem exists_body_of_authentic (h : HonestCard.authentic p frame = true) :
    ∃ code body, frame = code :: (body ++
      (Protection.commandTag p.keys.mac p.ti code p.counter [] body).toList) := by
  cases frame with
  | nil => cases h
  | cons code rest =>
    have htag := beq_iff_eq.mp h
    refine ⟨code, rest.take (rest.length - Reply.tagLength), ?_⟩
    rw [← htag, List.take_append_drop]

/-! ## Commands -/

theorem body_eq_ok_iff {body : Bytes} :
    p.body c = .ok body ↔ p.payloadOf c.mode body = .ok c.payload := by
  unfold AesProtection.body payloadOf
  cases c.mode with
  | plain | mac => exact ⟨fun h => by cases h; rfl, fun h => by cases h; rfl⟩
  | full =>
    simp only
    rw [← Cbc.encrypt_eq_ok_iff (aes_invertible p.keys.enc), bind_eq_ok]
    constructor
    · rintro ⟨u, -, h⟩
      exact h
    · intro h
      exact ⟨(), if_pos (Cbc.encrypt_ok h).1, h⟩

/-- The host writes the code and header of a secured command as they are, then the body, and then
the tag. -/
theorem frame_eq_ok_iff (hsecured : c.mode.isSecured = true) :
    p.frame c = .ok frame ↔
      ∃ body, p.body c = .ok body ∧ frame = c.frameWith body ++ (p.tag c body).toList := by
  unfold AesProtection.frame
  simp only [bind_eq_ok, if_pos hsecured]
  constructor
  · rintro ⟨body, hbody, h⟩
    cases h
    exact ⟨body, hbody, rfl⟩
  · rintro ⟨body, hbody, rfl⟩
    exact ⟨body, hbody, rfl⟩

/-- Where the counter has a next value, a secured command is written as its frame. -/
theorem protect_eq_frame (hsecured : c.mode.isSecured = true) {next : Counter}
    (hnext : p.counter.next = .ok next) : p.protect c = p.frame c := by
  unfold protect
  rw [if_pos hsecured, hnext]
  rfl

theorem readCommand_frame (hsecured : c.mode.isSecured = true) (h : p.frame c = .ok frame) :
    p.readCommand c.mode c.header.length frame = some c := by
  obtain ⟨body, hbody, rfl⟩ := (frame_eq_ok_iff hsecured).mp h
  have hauthentic : HonestCard.authentic p
      (c.code :: ((c.header ++ body) ++ (p.tag c body).toList)) = true :=
    HonestCard.authentic_frame p c body
  have hlength : c.header.length ≤ (c.header ++ body).length := by
    rw [List.length_append]
    exact Nat.le_add_right _ _
  show p.readCommand _ _ (c.code :: ((c.header ++ body) ++ (p.tag c body).toList)) = some c
  rw [readCommand_cons, if_pos ⟨hauthentic, hlength⟩, List.drop_left, List.take_left,
    body_eq_ok_iff.mp hbody]
  rfl

/-- A frame from which the card reads a command is laid out as the host lays it out. -/
theorem frame_of_readCommand {mode : CommMode} {headerLength : Nat}
    (h : p.readCommand mode headerLength frame = some c) :
    c.mode = mode ∧ c.header.length = headerLength ∧
      ∃ body, p.payloadOf mode body = .ok c.payload ∧
        frame = c.frameWith body ++ (p.tag c body).toList := by
  by_cases hauthentic : HonestCard.authentic p frame = true
  · obtain ⟨code, body, rfl⟩ := exists_body_of_authentic hauthentic
    rw [readCommand_cons] at h
    split_ifs at h with hlength
    obtain ⟨payload, hpayload, rfl⟩ := Option.map_eq_some_iff.mp h
    refine ⟨rfl, List.length_take_of_le hlength.2, body.drop headerLength,
      eq_ok_of_toOption hpayload, ?_⟩
    simp only [Command.frameWith, tag, Protection.commandTag, List.cons_append,
      List.take_append_drop, List.nil_append]
  · cases frame with
    | nil => cases h
    | cons code rest =>
      simp only [readCommand, hauthentic, Bool.false_eq_true, false_and, if_false] at h
      cases h

/-- A card reads a command from exactly the frame that the host writes for it. -/
theorem readCommand_eq_some_iff (hsecured : c.mode.isSecured = true) :
    p.readCommand c.mode c.header.length frame = some c ↔ p.frame c = .ok frame := by
  refine ⟨fun h => ?_, readCommand_frame hsecured⟩
  obtain ⟨-, -, body, hpayload, hframe⟩ := frame_of_readCommand h
  exact (frame_eq_ok_iff hsecured).mpr ⟨body, body_eq_ok_iff.mpr hpayload, hframe⟩

/-- The host writes a secured command, unless its payload would have to be encrypted and is no whole
number of blocks. -/
theorem exists_frame (hsecured : c.mode.isSecured = true)
    (haligned : c.mode = .full → c.payload.length % 16 = 0) : ∃ frame, p.frame c = .ok frame := by
  have hbody : ∃ body, p.body c = .ok body := by
    unfold AesProtection.body
    cases hmode : c.mode with
    | plain | mac => exact ⟨_, rfl⟩
    | full =>
      have hencrypt := Cbc.encrypt_of_aligned (aes p.keys.enc)
        (Protection.iv .command p.keys.enc p.ti p.counter) (haligned hmode)
      exact ⟨_, bind_eq_ok.mpr ⟨(), if_pos (haligned hmode), hencrypt⟩⟩
  obtain ⟨body, hbody⟩ := hbody
  exact ⟨_, (frame_eq_ok_iff hsecured).mpr ⟨body, hbody, rfl⟩⟩

theorem frame_unaligned (hfull : c.mode = .full) (h : c.payload.length % 16 ≠ 0) :
    p.frame c = .error (.wrongLength (.fullPayload 16) (Cbc.nextMultiple 16 c.payload.length)
      c.payload.length) := by
  unfold AesProtection.frame AesProtection.body Cbc.checkAligned
  rw [hfull, if_neg h]
  rfl

/-! ## Answers -/

/-- A body as the card protects it under the given counter. -/
def answer (p : AesProtection) (next : Counter) (body : Bytes) : Reply where
  status := CardStatus.ok
  data := body ++ (Protection.responseTag p.keys.mac p.ti CardStatus.ok next body).toList

variable {next : Counter} {body plain : Bytes}

theorem recover_mac_answer (hnext : p.counter.next = .ok next) :
    p.recover .mac (p.answer next body) = .ok body :=
  recover_sealed (show CommMode.mac.isSecured = true from rfl) hnext nofun

theorem decrypted_eq_ok (hnext : p.counter.next = .ok next) :
    p.decrypted body = .ok plain ↔
      Cbc.decrypt (aes p.keys.enc) (Protection.iv .response p.keys.enc p.ti next) body =
        .ok plain := by
  unfold decrypted
  rw [hnext]
  simp only [bind_eq_ok]
  constructor
  · rintro ⟨next', hnext', u, -, h⟩
    cases hnext'
    exact h
  · intro h
    exact ⟨next, rfl, (), if_pos (Cbc.decrypt_ok h).1, h⟩

/-- In full mode the host reads exactly the text whose encryption the body is. -/
theorem recover_full_answer_iff (hnext : p.counter.next = .ok next) :
    p.recover .full (p.answer next body) = .ok plain ↔
      Cbc.encrypt (aes p.keys.enc) (Protection.iv .response p.keys.enc p.ti next) plain =
        .ok body := by
  have hverified : p.verified (p.answer next body) = .ok body := verified_sealed .mac hnext body
  rw [recover_secured p rfl rfl, hverified, Cbc.encrypt_eq_ok_iff (aes_invertible p.keys.enc),
    ← decrypted_eq_ok hnext]
  rfl

/-! ## Both directions -/

theorem exists_next (h : p.counter.value.toNat < 65535) : ∃ next, p.counter.next = .ok next := by
  have hne : p.counter.value ≠ 0xFFFF := by
    intro heq
    rw [heq] at h
    exact absurd h (by decide)
  exact ⟨_, if_neg hne⟩

/-- **Round trips of the codec.** At every counter but the last. For every secured command whose
payload is a whole number of blocks if it has to be encrypted, the host writes a frame, and this is
the one frame from which a card reads that command; a payload that cannot be encrypted is refused.
And from the card's answer under the next counter the host reads any body in MAC mode, and in full
mode exactly the text whose encryption the body is, which every whole number of blocks has. -/
theorem codec_round_trips (p : AesProtection) (h : p.counter.value.toNat < 65535) :
    (∀ c : Command, c.mode.isSecured = true → p.protect c = p.frame c ∧
      ((c.mode = .full → c.payload.length % 16 = 0) → ∃ frame, p.frame c = .ok frame ∧
        ∀ frame', p.readCommand c.mode c.header.length frame' = some c ↔ frame' = frame) ∧
      (c.mode = .full → c.payload.length % 16 ≠ 0 → p.frame c = .error (.wrongLength
        (.fullPayload 16) (Cbc.nextMultiple 16 c.payload.length) c.payload.length))) ∧
    ∃ next : Counter, next.value.toNat = p.counter.value.toNat + 1 ∧
      (∀ body, p.recover .mac (p.answer next body) = .ok body) ∧
      (∀ body plain, p.recover .full (p.answer next body) = .ok plain ↔
        Cbc.encrypt (aes p.keys.enc) (Protection.iv .response p.keys.enc p.ti next) plain =
          .ok body) ∧
      ∀ plain : Bytes, plain.length % 16 = 0 → ∃ body,
        Cbc.encrypt (aes p.keys.enc) (Protection.iv .response p.keys.enc p.ti next) plain =
          .ok body := by
  obtain ⟨next, hnext⟩ := exists_next h
  refine ⟨fun c hsecured => ⟨protect_eq_frame hsecured hnext, fun haligned => ?_, frame_unaligned⟩,
    next, Counter.toNat_next hnext, fun body => recover_mac_answer hnext,
    fun body plain => recover_full_answer_iff hnext,
    fun plain haligned => ⟨_, Cbc.encrypt_of_aligned _ _ haligned⟩⟩
  obtain ⟨frame, hframe⟩ := exists_frame hsecured haligned
  refine ⟨frame, hframe, fun frame' => ?_⟩
  rw [readCommand_eq_some_iff hsecured, hframe]
  constructor
  · intro h
    cases h
    rfl
  · intro h
    rw [h]

/-! ### A command and an answer of one block -/

theorem codec_round_trips_block :
    let c : Command :=
      { code := 0x8D, mode := .full, header := [1, 2], payload := List.replicate 16 7 }
    samplePeer.counter.value.toNat < 65535 ∧ ∃ frame body next,
      samplePeer.readCommand .full 2 frame = some c ∧
      samplePeer.recover .full (samplePeer.answer next body) = .ok c.payload := by
  intro c
  have hcounter : samplePeer.counter.value.toNat < 65535 := by decide
  have haligned : c.payload.length % 16 = 0 := by decide
  obtain ⟨hcommand, next, -, -, hfull, hencrypt⟩ := codec_round_trips samplePeer hcounter
  obtain ⟨frame, -, hread⟩ := (hcommand c rfl).2.1 fun _ => haligned
  obtain ⟨body, hbody⟩ := hencrypt c.payload haligned
  exact ⟨hcounter, frame, body, next, (hread frame).mpr rfl, (hfull body c.payload).mpr hbody⟩

end CardLink.AesProtection
