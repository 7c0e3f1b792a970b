import CardLink.Proofs.FileExchange
import CardLink.Proofs.HandleSteps

/-!
# Data written to a file is read back

A handle writes to a file of a card that it agrees with, and then reads the same range. The line may
lose frames, and the card cuts its answers as it likes.

1. A range that three bytes cannot name is refused at once (`rangeHeader_eq`); any other goes into a
   command that suits the file (`suits_writeCommand`, `suits_readCommand`).
2. A write that succeeds has stored the data (`writeRange_ok`), and a read that succeeds has read
   what is stored (`readRange_ok`). Both succeed if nothing stands in their way
   (`writeRange_answered`, `readRange_answered`).
3. So what was written is read back (`stored_data_read_back`).
-/

namespace CardLink

/-! ## The two commands -/

namespace Card

/-- A header has room for three bytes of an offset and of a length. -/
theorem rangeHeader_eq (file : UInt8) (offset length : Nat) :
    rangeHeader file offset length =
      if offset < 0x1000000 ∧ length < 0x1000000 then
        .ok (file :: (Bytes.little 3 offset ++ Bytes.little 3 length))
      else .error (.malformed .exceeds24Bits) := by
  unfold rangeHeader threeBytes
  split_ifs
  · rfl
  · omega
  · omega
  · rfl
  · omega
  · rfl
  · omega
  · rfl

theorem readCommand_eq (file : UInt8) (offset length : Nat) (mode : CommMode) :
    readCommand file offset length mode =
      if offset < 0x1000000 ∧ length < 0x1000000 then
        .ok { code := 0xAD, mode
              header := file :: (Bytes.little 3 offset ++ Bytes.little 3 length) }
      else .error (.malformed .exceeds24Bits) := by
  unfold readCommand
  rw [rangeHeader_eq]
  split_ifs <;> rfl

theorem writeCommand_eq (file : UInt8) (offset : Nat) (data : Bytes) (mode : CommMode) :
    writeCommand file offset data mode =
      if 0x100000000 ≤ data.length then .error (.malformed .dataTooLong)
      else if offset < 0x1000000 ∧ data.length < 0x1000000 then
        .ok { code := 0x8D, mode
              header := file :: (Bytes.little 3 offset ++ Bytes.little 3 data.length)
              payload := if mode = .full then Padding.pad data else data }
      else .error (.malformed .exceeds24Bits) := by
  unfold writeCommand
  rw [rangeHeader_eq]
  by_cases hlong : 0x100000000 ≤ data.length
  · rw [if_pos hlong, if_pos hlong]
    rfl
  · rw [if_neg hlong, if_neg hlong]
    split_ifs <;> rfl

theorem writeCommand_error (file : UInt8) {offset : Nat} {data : Bytes} (mode : CommMode)
    (h : 0xFFFFFF < offset ∨ 0xFFFFFF < data.length) :
    ∃ cause, writeCommand file offset data mode = .error (.malformed cause) := by
  have hbounds : ¬(offset < 0x1000000 ∧ data.length < 0x1000000) := by omega
  rw [writeCommand_eq, if_neg hbounds]
  by_cases hlong : 0x100000000 ≤ data.length
  · exact ⟨_, if_pos hlong⟩
  · exact ⟨_, if_neg hlong⟩

end Card

/-! ## What the card does on them -/

namespace DataFile

/-- The host pads what the file wants padded. -/
theorem payload_eq_carried (f : DataFile) (data : Bytes) :
    (if f.mode = .full then Padding.pad data else data) = f.carried data := by
  unfold carried
  simp only [mode_eq_full]

/-- The host takes away the padding that the file adds. -/
theorem readContent_eq_delivered (f : DataFile) (length : Nat) (bytes : Bytes) :
    Card.readContent f.mode (some .ev2) length bytes = f.delivered bytes := by
  unfold Card.readContent delivered
  simp only [ne_eq, mode_eq_full, if_true]
  split_ifs <;> rfl

/-- The host reads data as it was before it was carried. -/
theorem readContent_carried (f : DataFile) (length : Nat) (data : Bytes) :
    Card.readContent f.mode (some .ev2) length (f.carried data) = .ok data := by
  rw [f.readContent_eq_delivered, f.delivered_carried]

end DataFile

namespace Files

variable {files : Files} {no : UInt8} {f : DataFile} {offset : Nat} {cmd : Command}

theorem named?_header (files : Files) (file : UInt8) {offset length : Nat} (ho : offset < 0x1000000)
    (hl : length < 0x1000000) :
    files.named? (file :: (Bytes.little 3 offset ++ Bytes.little 3 length)) = files file := by
  unfold named?
  rw [range?_header file ho hl]
  rfl

theorem suits_readCommand (hf : files no = some f) {length : Nat}
    (h : Card.readCommand no offset length f.mode = .ok cmd) : files.Suits cmd := by
  rw [Card.readCommand_eq] at h
  split_ifs at h with hbounds
  cases h
  refine ⟨?_, ?_, rfl⟩
  · exact (mode_of_named ((files.named?_header no hbounds.1 hbounds.2).trans hf)).symm
  · simp [headerLength]

theorem suits_writeCommand (hf : files no = some f) {data : Bytes}
    (h : Card.writeCommand no offset data f.mode = .ok cmd) : files.Suits cmd := by
  rw [Card.writeCommand_eq, f.payload_eq_carried] at h
  split_ifs at h with hlong hbounds
  cases h
  have hnamed := (files.named?_header no hbounds.1 hbounds.2).trans hf
  refine ⟨(mode_of_named hnamed).symm, ?_, ?_⟩
  · simp [headerLength]
  · simp only [payloadLength, range?_header no hbounds.1 hbounds.2, hnamed, if_true,
      f.length_carried]

theorem execute_read (hf : files no = some f) {length : Nat}
    (h : Card.readCommand no offset length f.mode = .ok cmd) {stored : Bytes}
    (hread : f.read offset length = some stored) :
    files.execute cmd = .ok (f.carried stored, files) := by
  rw [Card.readCommand_eq] at h
  split_ifs at h with hbounds
  cases h
  have hnamed := (files.named?_header no hbounds.1 hbounds.2).trans hf
  simp only [execute, range?_header no hbounds.1 hbounds.2, hnamed, if_true, DataFile.answer, hread]
  rfl

theorem execute_write (hf : files no = some f) {data : Bytes}
    (h : Card.writeCommand no offset data f.mode = .ok cmd)
    (hfits : offset + data.length ≤ f.content.length) :
    files.execute cmd =
      .ok ([], Function.update files no (some (f.overwrite offset data))) := by
  rw [Card.writeCommand_eq, f.payload_eq_carried] at h
  split_ifs at h with hlong hbounds
  cases h
  have hnamed := (files.named?_header no hbounds.1 hbounds.2).trans hf
  have hcode : (0x8D : UInt8) ≠ 0xAD := by decide
  have hstore : f.store ⟨no, offset, data.length⟩ (f.carried data) =
      .ok (f.overwrite offset data) := DataFile.store_carried rfl hfits
  simp only [execute, range?_header no hbounds.1 hbounds.2, hnamed, hcode, if_false, hstore]
  rfl

end Files

/-! ## Exchanges of a handle -/

namespace Card

variable {c c' : Card} {s : Session} {w w' : FileLine} {cmd : Command}

theorem readRange_start (file : UInt8) (offset length : Nat) (mode : CommMode) (c : Card) :
    (readRange file offset length mode).start c = match readCommand file offset length mode with
      | .error err => .done (.error err, c)
      | .ok cmd => (issue cmd).start c >>= fun e =>
        .done (e.1 >>= readContent mode e.2.generation? length, e.2) := by
  unfold readRange
  rw [Action.start_liftM_bind]
  cases readCommand file offset length mode with
  | error err => rfl
  | ok cmd =>
    simp only [Action.start_bind, Action.start_get, Action.start_liftM]
    congr 1
    funext ⟨r, c'⟩
    cases r <;> rfl

theorem writeRange_start (file : UInt8) (offset : Nat) (data : Bytes) (mode : CommMode) (c : Card) :
    (writeRange file offset data mode).start c = match writeCommand file offset data mode with
      | .error err => .done (.error err, c)
      | .ok cmd => (issue cmd).start c >>= fun e => .done (e.1 >>= fun _ => .ok (), e.2) := by
  unfold writeRange
  rw [Action.start_liftM_bind]
  cases writeCommand file offset data mode with
  | error err => rfl
  | ok cmd =>
    simp only [Action.start_bind]
    congr 1
    funext ⟨r, c'⟩
    cases r <;> rfl

/-- An operation that succeeds had an answer that could be read. -/
theorem answer_of_run {α β : Type} {d : Dialogue (Except Error α × Card)}
    (read : Card → α → Except Error β) {b : β}
    (hrun : (d >>= fun e => .done (e.1 >>= read e.2, e.2)).run FileLine.transport w =
      ((.ok b, c'), w')) :
    ∃ a, d.run FileLine.transport w = ((.ok a, c'), w') ∧ read c' a = .ok b := by
  rw [Dialogue.run_bind] at hrun
  generalize d.run FileLine.transport w = e at hrun ⊢
  obtain ⟨⟨r, c₁⟩, w₁⟩ := e
  obtain ⟨hresult, rfl⟩ := Prod.mk.inj hrun
  obtain ⟨hread, rfl⟩ := Prod.mk.inj hresult
  obtain ⟨a, rfl, ha⟩ := bind_ok hread
  exact ⟨a, rfl, ha⟩

/-- A command of a handle in step is an exchange of its session. -/
theorem run_issue (hs : c.session = some s) (hstep : InStep s w.card.base) (cmd : Command) :
    let e := (s.issue c.settings cmd).run FileLine.transport w
    ((issue cmd).start c).run FileLine.transport w =
      ((e.1.1, { c.dropChallenge with session := some e.1.2 }), e.2) := by
  obtain ⟨p, hp, -⟩ := hstep
  have hvalid : s.isValid = true := by simp [Session.isValid, hp]
  rw [issue_start, hs]
  simp only [hvalid, if_true, Dialogue.run_bind]
  rfl

/-- What a secured command that succeeds leaves of a handle and of the line: the two are in step
again, one value of the counter later. -/
structure Succeeded (c : Card) (s : Session) (w : FileLine) (c' : Card) (w' : FileLine) : Prop where
  settings : c'.settings = c.settings
  cuts : w'.card.cuts = w.card.cuts.tail
  session : ∃ s', c'.session = some s' ∧ InStep s' w'.card.base
  counter : ∀ s', c'.session = some s' → ∀ k', s'.counter? = some k' →
    ∃ k, s.counter? = some k ∧ k'.value.toNat = k.value.toNat + 1

theorem Succeeded.generation (h : Succeeded c s w c' w') : c'.generation? = some .ev2 := by
  obtain ⟨s', hs', p, hp, -⟩ := h.session
  unfold generation?
  rw [hs', Option.bind_some, Session.generation?, hp]
  rfl

/-- A command that succeeds was carried out by the card. -/
theorem issue_ok (hs : c.session = some s) (hstep : InStep s w.card.base)
    (hsuits : w.card.files.Suits cmd) {data : Bytes}
    (hrun : ((issue cmd).start c).run FileLine.transport w = ((.ok data, c'), w')) :
    w.card.files.execute cmd = .ok (data, w'.card.files) ∧ Succeeded c s w c' w' := by
  rw [run_issue hs hstep cmd] at hrun
  obtain ⟨hkept, hdone⟩ := issue_onFiles hstep hsuits c.settings
  have hmoves := ((s.issue_effect c.settings cmd).run FileLine.transport w).succeeded
  generalize (s.issue c.settings cmd).run FileLine.transport w = e at hrun hkept hdone hmoves
  obtain ⟨⟨r, s'⟩, w''⟩ := e
  cases hrun
  obtain ⟨hexecute, hcuts⟩ := hdone data rfl
  have hmoves := hmoves data rfl
  obtain ⟨p, hp, -⟩ := hstep
  unfold Session.MovesOn at hmoves
  simp only [hp, hsuits.secured, if_true] at hmoves
  obtain ⟨next, hnext, rfl⟩ := hmoves
  refine ⟨hexecute, rfl, hcuts, ⟨_, rfl, ?_⟩, ?_⟩
  -- Host and card are in step unless the session is over, and one that has moved on is not.
  · exact hkept.inStep.resolve_left (by simp)
  · rintro _ ⟨⟩ k' ⟨⟩
    exact ⟨p.counter, by simp [Session.counter?, hp, Protection.counter?], hnext⟩

end Card

/-! ## Undisturbed exchanges -/

/-- Nothing stands between a host and the next answers of the card, as many as given: the line loses
nothing, frames have room for a command, no answer comes in more frames than the host allows, and
the counter does not run out. -/
structure FileLine.Undisturbed (w : FileLine) (settings : Settings) (s : Session) (answers : Nat) :
    Prop where
  lossless : w.fates = []
  room : 2 ≤ settings.maxFrameLength
  cuts : ∀ cut ∈ w.card.cuts, cut.length ≤ settings.maxResponseFrames - 1
  counter : ∀ k, s.counter? = some k → k.value.toNat + answers ≤ 0xFFFF

/-- A line that loses nothing goes on so. -/
theorem FileLine.lossless_run {α : Type} (d : Dialogue α) {w : FileLine} (h : w.fates = []) :
    (d.run FileLine.transport w).2.fates = [] := by
  induction d generalizing w with
  | done a => exact h
  | send frame next ih =>
    refine ih _ ?_
    show (FileLine.transmit frame w).2.fates = []
    unfold FileLine.transmit
    rw [h]
    rfl

namespace Card

variable {c c' : Card} {s : Session} {w w' : FileLine} {cmd : Command} {answers : Nat}

/-- The host can put a command together that is a whole number of blocks where it is encrypted. -/
theorem exists_protectedFrame {settings : Settings} (hstep : InStep s w.card.base)
    (hroom : w.Undisturbed settings s (answers + 1)) (hsecured : cmd.mode.isSecured = true)
    (haligned : cmd.mode = .full → cmd.payload.length % 16 = 0) :
    ∃ frame, s.protectedFrame settings cmd = .ok frame := by
  obtain ⟨p, hp, -⟩ := hstep
  have hcounter : p.counter.value.toNat < 65535 := by
    have hk := hroom.counter p.counter (by simp [Session.counter?, hp, Protection.counter?])
    omega
  obtain ⟨next, hnext⟩ := AesProtection.exists_next hcounter
  have hprotect : p.protect cmd = p.frame cmd := AesProtection.protect_eq_frame hsecured hnext
  obtain ⟨frame, hframe⟩ := AesProtection.exists_frame (p := p) hsecured haligned
  refine ⟨frame, bind_eq_ok.mpr ⟨(), ?_, bind_eq_ok.mpr ⟨.aes p, ?_, hprotect.trans hframe⟩⟩⟩
  · exact if_neg (Nat.not_lt_of_le hroom.room)
  · exact Session.requireProtection_eq_ok.mpr hp

/-- A command that the card carries out succeeds if nothing stands in its way. -/
theorem issue_answered (hs : c.session = some s) (hstep : InStep s w.card.base)
    (hsuits : w.card.files.Suits cmd) (h : w.Undisturbed c.settings s (answers + 1))
    (haligned : cmd.mode = .full → cmd.payload.length % 16 = 0) {plain : Bytes} {files : Files}
    (hdone : w.card.files.execute cmd = .ok (plain, files)) :
    (((issue cmd).start c).run FileLine.transport w).1.1 = .ok plain := by
  rw [run_issue hs hstep cmd]
  refine (issue_onFiles hstep hsuits c.settings).1.answered plain ⟨rfl, h.lossless, ?_, ?_⟩
  · exact exists_protectedFrame hstep h hsuits.secured haligned
  · obtain ⟨hplain, hverdict⟩ := FileCard.verdict_ok hsuits hdone
    refine ⟨_, hplain, hverdict, ?_⟩
    cases hcuts : w.card.cuts with
    | nil => exact Nat.zero_le _
    | cons cut cuts => exact h.cuts cut (by simp [hcuts])

theorem Succeeded.undisturbed (hdone : Succeeded c s w c' w') (hfates : w'.fates = [])
    (h : w.Undisturbed c.settings s (answers + 1)) {s' : Session} (hs' : c'.session = some s') :
    w'.Undisturbed c'.settings s' answers where
  lossless := hfates
  room := hdone.settings ▸ h.room
  cuts := by
    rw [hdone.cuts, hdone.settings]
    exact fun cut hcut => h.cuts cut (List.mem_of_mem_tail hcut)
  counter k' hk' := by
    obtain ⟨k, hk, hnext⟩ := hdone.counter s' hs' k' hk'
    have := h.counter k hk
    omega

/-! ## Writing and reading -/

variable {no : UInt8} {f : DataFile} {offset : Nat}

section

variable (hs : c.session = some s) (hstep : InStep s w.card.base) (hf : w.card.files no = some f)

include hs hstep hf

/-- A write that succeeds has stored the data. -/
theorem writeRange_ok {data : Bytes} (hfits : offset + data.length ≤ f.content.length)
    (hrun : ((writeRange no offset data f.mode).start c).run FileLine.transport w =
      ((.ok (), c'), w')) :
    w'.card.files = Function.update w.card.files no (some (f.overwrite offset data)) ∧
      Succeeded c s w c' w' := by
  rw [writeRange_start] at hrun
  cases hcmd : writeCommand no offset data f.mode with
  | error err =>
    rw [hcmd] at hrun
    cases hrun
  | ok cmd =>
    simp only [hcmd] at hrun
    obtain ⟨answer, he, -⟩ := answer_of_run (fun _ _ => .ok ()) hrun
    obtain ⟨hexecute, hdone⟩ := issue_ok hs hstep (Files.suits_writeCommand hf hcmd) he
    rw [Files.execute_write hf hcmd hfits] at hexecute
    obtain ⟨-, hfiles⟩ := Prod.mk.inj (Except.ok.inj hexecute)
    exact ⟨hfiles.symm, hdone⟩

/-- A read that succeeds has read what is stored. -/
theorem readRange_ok {length : Nat} {stored got : Bytes}
    (hread : f.read offset length = some stored)
    (hrun : ((readRange no offset length f.mode).start c).run FileLine.transport w =
      ((.ok got, c'), w')) :
    got = stored ∧ w'.card.files = w.card.files := by
  rw [readRange_start] at hrun
  cases hcmd : readCommand no offset length f.mode with
  | error err =>
    rw [hcmd] at hrun
    cases hrun
  | ok cmd =>
    simp only [hcmd] at hrun
    obtain ⟨answer, he, hcontent⟩ :=
      answer_of_run (fun c' => readContent f.mode c'.generation? length) hrun
    obtain ⟨hexecute, hdone⟩ := issue_ok hs hstep (Files.suits_readCommand hf hcmd) he
    rw [Files.execute_read hf hcmd hread] at hexecute
    obtain ⟨rfl, hfiles⟩ := Prod.mk.inj (Except.ok.inj hexecute)
    rw [hdone.generation, f.readContent_carried] at hcontent
    exact ⟨(Except.ok.inj hcontent).symm, hfiles.symm⟩

/-- A write that nothing stands in the way of succeeds. -/
theorem writeRange_answered {data : Bytes} (ho : offset < 0x1000000)
    (hl : data.length < 0x1000000) (hfits : offset + data.length ≤ f.content.length)
    (h : w.Undisturbed c.settings s (answers + 1)) :
    (((writeRange no offset data f.mode).start c).run FileLine.transport w).1.1 = .ok () := by
  obtain ⟨cmd, hcmd, haligned⟩ : ∃ cmd, writeCommand no offset data f.mode = .ok cmd ∧
      (cmd.mode = .full → cmd.payload.length % 16 = 0) := by
    rw [writeCommand_eq, if_neg (by omega), if_pos ⟨ho, hl⟩, f.payload_eq_carried]
    exact ⟨_, rfl, fun hmode => DataFile.carried_aligned hmode data⟩
  have hanswer := issue_answered hs hstep (Files.suits_writeCommand hf hcmd) h haligned
    (Files.execute_write hf hcmd hfits)
  rw [writeRange_start, hcmd]
  simp only [Dialogue.run_bind]
  show ((((issue cmd).start c).run FileLine.transport w).1.1 >>= fun _ => .ok ()) = _
  rw [hanswer]
  rfl

/-- A read that nothing stands in the way of succeeds. -/
theorem readRange_answered {length : Nat} (ho : offset < 0x1000000) (hl : length < 0x1000000)
    {stored : Bytes} (hread : f.read offset length = some stored)
    (h : w.Undisturbed c.settings s (answers + 1)) :
    (((readRange no offset length f.mode).start c).run FileLine.transport w).1.1 = .ok stored := by
  obtain ⟨cmd, hcmd, haligned⟩ : ∃ cmd, readCommand no offset length f.mode = .ok cmd ∧
      (cmd.mode = .full → cmd.payload.length % 16 = 0) := by
    rw [readCommand_eq, if_pos ⟨ho, hl⟩]
    exact ⟨_, rfl, fun _ => rfl⟩
  have hsuits := Files.suits_readCommand hf hcmd
  have hanswer := issue_answered hs hstep hsuits h haligned (Files.execute_read hf hcmd hread)
  rcases he : ((issue cmd).start c).run FileLine.transport w with ⟨⟨r, c₁⟩, w₁⟩
  rw [he] at hanswer
  obtain rfl : r = .ok (f.carried stored) := hanswer
  obtain ⟨-, hdone⟩ := issue_ok hs hstep hsuits he
  rw [readRange_start, hcmd]
  simp only [Dialogue.run_bind, he]
  show readContent f.mode c₁.generation? length (f.carried stored) = .ok stored
  rw [hdone.generation, f.readContent_carried]

end

/-- **Data written to a file is read back.** Let a handle and a card with files be in step, and let
the data, not empty, fit a file from an offset on. The handle writes it in the mode of the file and
then reads the same range, whatever the line loses and however the card cuts its answers. If both
succeed, then what is read is the data, and the card's file has it in that range and is otherwise as
before, like all other files. Both do succeed if nothing stands in their way and three bytes can
name offset and length. And a handle in any state refuses an offset or length beyond three bytes in
either operation, before any frame and without a change of the handle. -/
theorem stored_data_read_back {c : Card} {s : Session} {w : FileLine} {no : UInt8} {f : DataFile}
    (hs : c.session = some s) (hstep : InStep s w.card.base) (hf : w.card.files no = some f)
    (offset : Nat) {data : Bytes} (hne : data ≠ [])
    (hfits : offset + data.length ≤ f.content.length) :
    let e := ((writeRange no offset data f.mode).start c).run FileLine.transport w
    let e' := ((readRange no offset data.length f.mode).start e.1.2).run FileLine.transport e.2
    (e.1.1 = .ok () → ∀ got, e'.1.1 = .ok got → got = data ∧
      e'.2.card.files = Function.update w.card.files no (some (f.overwrite offset data))) ∧
    (offset ≤ 0xFFFFFF → data.length ≤ 0xFFFFFF → w.Undisturbed c.settings s 2 →
      e.1.1 = .ok () ∧ e'.1.1 = .ok data) ∧
    ∀ (c : Card) (no : UInt8) (offset : Nat) (mode : CommMode),
      (∀ length, 0xFFFFFF < offset ∨ 0xFFFFFF < length →
        (readRange no offset length mode).start c = .done (.error (.malformed .exceeds24Bits), c)) ∧
      ∀ data : Bytes, 0xFFFFFF < offset ∨ 0xFFFFFF < data.length → ∃ cause,
        (writeRange no offset data mode).start c = .done (.error (.malformed cause), c) := by
  intro e e'
  have hread := DataFile.read_overwrite hne hfits
  -- A write that succeeds leaves everything in place for the read.
  have hwritten (hok : e.1.1 = .ok ()) : e.2.card.files no = some (f.overwrite offset data) ∧
      e.2.card.files = Function.update w.card.files no (some (f.overwrite offset data)) ∧
      Succeeded c s w e.1.2 e.2 := by
    obtain ⟨hfiles, hdone⟩ := writeRange_ok hs hstep hf hfits (Prod.ext (Prod.ext hok rfl) rfl)
    exact ⟨by rw [hfiles, Function.update_self], hfiles, hdone⟩
  refine ⟨fun hok got hgot => ?_, fun ho hl hcalm => ?_, fun c no offset mode => ⟨?_, ?_⟩⟩
  · obtain ⟨hf', hfiles, hdone⟩ := hwritten hok
    obtain ⟨s', hs', hstep'⟩ := hdone.session
    have hrun : e' = ((.ok got, e'.1.2), e'.2) := Prod.ext (Prod.ext hgot rfl) rfl
    obtain ⟨rfl, hsame⟩ := readRange_ok hs' hstep' hf' hread hrun
    exact ⟨rfl, hsame.trans hfiles⟩
  · have hok : e.1.1 = .ok () :=
      writeRange_answered hs hstep hf (by omega) (by omega) hfits hcalm
    obtain ⟨hf', -, hdone⟩ := hwritten hok
    obtain ⟨s', hs', hstep'⟩ := hdone.session
    have hcalm' := hdone.undisturbed (FileLine.lossless_run _ hcalm.lossless) hcalm hs'
    exact ⟨hok, readRange_answered hs' hstep' hf' (by omega) (by omega) hread hcalm'⟩
  · intro length h
    rw [readRange_start, readCommand_eq, if_neg (by omega)]
  · intro data h
    obtain ⟨cause, hcause⟩ := writeCommand_error no mode h
    exact ⟨cause, by rw [writeRange_start, hcause]⟩

/-! ### Data that ends like padding -/

/-- A file of two blocks that travels encrypted. -/
def sampleFile : DataFile := { content := Bytes.zeros 32, encrypted := true }

/-- A card with that file, which cuts its answers. -/
def sampleFileLine : FileLine where
  card :=
    { base := { link := some samplePeer }
      files := fun no => if no = 1 then some sampleFile else none
      cuts := [[3], [5, 0, 7]] }

def sampleSession : Session := .start (.aes samplePeer) 0

/-- A handle in step with that card, whose frames are short. -/
def sampleHandle : Card := { session := some sampleSession, settings := { maxFrameLength := 7 } }

/-- Data that would be padding if it came after other data. -/
def sampleData : Bytes := [0x2A, 0x80, 0x00, 0x00]

theorem stored_data_read_back_lookalike :
    InStep sampleSession sampleFileLine.card.base ∧
      sampleFileLine.card.files 1 = some sampleFile ∧ sampleData ≠ [] ∧
      3 + sampleData.length ≤ sampleFile.content.length ∧
      let e := ((writeRange 1 3 sampleData sampleFile.mode).start sampleHandle).run
        FileLine.transport sampleFileLine
      let e' := ((readRange 1 3 sampleData.length sampleFile.mode).start e.1.2).run
        FileLine.transport e.2
      e'.1.1 = .ok sampleData ∧ e'.2.card.files 1 = some (sampleFile.overwrite 3 sampleData) := by
  have hstep : InStep sampleSession sampleFileLine.card.base := ⟨samplePeer, rfl, rfl, rfl, rfl⟩
  have hfile : sampleFileLine.card.files 1 = some sampleFile := rfl
  have hne : sampleData ≠ [] := List.cons_ne_nil _ _
  have hfits : 3 + sampleData.length ≤ sampleFile.content.length := by decide
  have hcalm : sampleFileLine.Undisturbed sampleHandle.settings sampleSession 2 := by
    refine ⟨rfl, by decide, by decide, ?_⟩
    rintro k ⟨⟩
    decide
  obtain ⟨hback, hanswered, -⟩ :=
    @stored_data_read_back sampleHandle sampleSession _ _ _ rfl hstep hfile 3 _ hne hfits
  obtain ⟨hwritten, hread⟩ := hanswered (by decide) (by decide) hcalm
  have hfiles := congrFun (hback hwritten sampleData hread).2 1
  exact ⟨hstep, hfile, hne, hfits, hread, hfiles.trans (Function.update_self ..)⟩

end Card

end CardLink
