import CardLink.Cipher.AesInverse
import CardLink.Proofs.Exchanges
import CardLink.Proofs.HonestCard

/-!
# One exchange with an honest card

Between the host's loops and the card lies a line that loses frames. What gets through is intact,
and an exchange that gets through to its end has carried the command to the card and the answer
back.

1. A command that is sent to its end was concluded by the card (`SendPlay.concluded`), and an answer
   that is collected is the one that the card gave (`CollectPlay.served`).
2. The host reads that answer as the card meant it (`recover_sealed`).
3. Any other end of either loop leaves it open whether the card has noticed
   (`SendPlay.lost`, `CollectPlay.served`).
-/

namespace CardLink

/-! ## Commands -/

theorem AesProtection.protect_secured {p : AesProtection} {c : Command}
    (hmode : c.mode.isSecured = true) {frame : Bytes} (h : p.protect c = .ok frame) :
    ∃ body next, p.counter.next = .ok next ∧ body.length = c.payload.length ∧
      frame = c.frameWith body ++ (p.tag c body).toList := by
  unfold protect at h
  rw [if_pos hmode] at h
  obtain ⟨next, hnext, h⟩ := bind_ok h
  obtain ⟨body, hbody, h⟩ := bind_ok h
  cases h
  refine ⟨body, next, hnext, ?_, by rw [if_pos hmode]⟩
  unfold AesProtection.body at hbody
  split at hbody
  · cases hbody; rfl
  · cases hbody; rfl
  · obtain ⟨u, -, hbody⟩ := bind_ok hbody
    exact Cbc.length_encrypt hbody

/-- The frame of a call has the length that the card expects. -/
theorem Call.length_frame {x : Call} {p : AesProtection} {frame : Bytes}
    (h : p.protect x.command = .ok frame) : frame.length = x.length := by
  obtain ⟨body, next, -, hbody, rfl⟩ := AesProtection.protect_secured x.secured h
  simp only [Command.frameWith, length, Reply.tagLength, List.cons_append, List.length_cons,
    List.length_append, hbody, Octets.length_toList]
  omega

theorem Call.frame_ne_nil {x : Call} {p : AesProtection} {frame : Bytes}
    (h : p.protect x.command = .ok frame) : frame ≠ [] := by
  obtain ⟨body, next, -, -, rfl⟩ := AesProtection.protect_secured x.secured h
  exact List.cons_ne_nil _ _

namespace HonestCard

theorem authentic_cons (p : AesProtection) (code : UInt8) (body : Bytes) {tag : Bytes}
    (htag : tag.length = Reply.tagLength) :
    authentic p (code :: (body ++ tag)) =
      (tag == (Protection.commandTag p.keys.mac p.ti code p.counter [] body).toList) := by
  have hlength : (body ++ tag).length - Reply.tagLength = body.length := by
    rw [List.length_append, htag]
    exact Nat.add_sub_cancel _ _
  simp only [authentic, hlength, List.drop_left, List.take_left]

/-- The card finds the tag right on every command that the host protects. -/
theorem authentic_frame (p : AesProtection) (c : Command) (body : Bytes) :
    authentic p (c.frameWith body ++ (p.tag c body).toList) = true := by
  show authentic p (c.code :: (c.header ++ body ++ (p.tag c body).toList)) = true
  rw [authentic_cons p c.code _ (p.tag c body).length_toList]
  exact beq_iff_eq.mpr rfl

/-- What the card makes of a command that the host protected. -/
theorem conclude_frame {x : Call} {card : HonestCard} {p : AesProtection}
    (hlink : card.link = some p) {frame : Bytes} (hframe : p.protect x.command = .ok frame) :
    ∃ next, p.counter.next = .ok next ∧ card.conclude x frame = match x.verdict with
      | .refuse status _ => ([status], card.rest)
      | .answer plain cuts _ =>
        serve { link := some { p with counter := next }, said := card.said ++ [plain],
                queue := frames cuts (sealed p x.command.mode next plain) } := by
  obtain ⟨body, next, hnext, -, rfl⟩ := AesProtection.protect_secured x.secured hframe
  refine ⟨next, hnext, ?_⟩
  unfold conclude
  rw [hlink]
  cases x.verdict <;> simp only [authentic_frame, if_true, AesProtection.step_of_next hnext]

/-! ## Answers -/

theorem frames_ne_nil (cuts : List Nat) (bs : Bytes) : frames cuts bs ≠ [] := by
  cases cuts <;> exact List.cons_ne_nil _ _

/-- A frame of an answer is the last one and brings what is left, or announces another one. -/
theorem frames_cases {frame bs : Bytes} {queue : List Bytes} {cuts : List Nat}
    (h : frame :: queue = frames cuts bs) :
    (frame = CardStatus.ok :: bs ∧ queue = []) ∨
      ∃ n cuts', cuts = n :: cuts' ∧ frame = CardStatus.additionalFrame :: bs.take n ∧
        queue = frames cuts' (bs.drop n) := by
  cases cuts with
  | nil => exact Or.inl (List.cons.inj h)
  | cons n cuts => exact Or.inr ⟨n, cuts, rfl, List.cons.inj h⟩

end HonestCard

namespace Reply

/-! ## The parts of a secured reply -/

/-- The bytes before the tag. -/
def payload (r : Reply) : Bytes := r.data.take (r.data.length - tagLength)

/-- The last eight bytes. -/
def tag (r : Reply) : Bytes := r.data.drop (r.data.length - tagLength)

theorem payload_append_tag (r : Reply) : r.payload ++ r.tag = r.data := List.take_append_drop _ _

theorem payload_append (status : UInt8) (body : Bytes) {tag : Bytes} (h : tag.length = tagLength) :
    payload ⟨status, body ++ tag⟩ = body := by
  rw [payload, List.length_append, h, Nat.add_sub_cancel]
  exact List.take_left

theorem tag_append (status : UInt8) (body : Bytes) {tag : Bytes} (h : tag.length = tagLength) :
    Reply.tag ⟨status, body ++ tag⟩ = tag := by
  rw [Reply.tag, List.length_append, h, Nat.add_sub_cancel]
  exact List.drop_left

theorem detachTag_of_short {r : Reply} (h : r.data.length < tagLength) :
    r.detachTag = .error (.wrongLength .securedResponse tagLength r.data.length) := if_pos h

theorem detachTag_of_le {r : Reply} (h : tagLength ≤ r.data.length) :
    r.detachTag = .ok (r.payload, r.tag) := by
  rw [detachTag, if_neg (Nat.not_lt_of_le h), List.splitAt_eq]
  rfl

theorem detachTag_append (status : UInt8) (body : Bytes) {tag : Bytes}
    (htag : tag.length = tagLength) :
    detachTag ⟨status, body ++ tag⟩ = .ok (body, tag) := by
  have hlength : tagLength ≤ (body ++ tag).length := by
    rw [List.length_append, htag]
    exact Nat.le_add_left _ _
  rw [detachTag_of_le hlength, payload_append _ _ htag, tag_append _ _ htag]

end Reply

/-! ## The answer as the host reads it -/

theorem AesProtection.verified_sealed {p : AesProtection} (mode : CommMode) {next : Counter}
    (hnext : p.counter.next = .ok next) (plain : Bytes) :
    p.verified ⟨CardStatus.ok, HonestCard.sealed p mode next plain⟩ =
      .ok (HonestCard.body p mode next plain) := by
  have htag : (Protection.responseTag p.keys.mac p.ti CardStatus.ok next
      (HonestCard.body p mode next plain)).toList.length = Reply.tagLength :=
    Octets.length_toList _
  unfold verified HonestCard.sealed
  rw [hnext, Reply.detachTag_append _ _ htag]
  exact if_pos (Bytes.sameAs_iff.mpr rfl)

/-- The host reads a sealed answer as the card meant it. -/
theorem AesProtection.recover_sealed {p : AesProtection} {mode : CommMode}
    (hmode : mode.isSecured = true) {next : Counter} (hnext : p.counter.next = .ok next)
    {plain : Bytes} (haligned : mode = .full → plain.length % 16 = 0) :
    p.recover mode ⟨CardStatus.ok, HonestCard.sealed p mode next plain⟩ = .ok plain := by
  rw [p.recover_secured hmode rfl, p.verified_sealed mode hnext]
  cases mode with
  | plain => cases hmode
  | mac => rfl
  | full =>
    have hencrypt : Cbc.encrypt (aes p.keys.enc) (Protection.iv .response p.keys.enc p.ti next)
        plain = .ok (HonestCard.body p .full next plain) :=
      Cbc.encrypt_of_aligned _ _ (haligned rfl)
    have hbody : (HonestCard.body p .full next plain).length % 16 = 0 := by
      rw [Cbc.length_encrypt hencrypt]
      exact haligned rfl
    show p.decrypted (HonestCard.body p .full next plain) = .ok plain
    unfold decrypted Cbc.checkAligned
    rw [hnext, if_pos hbody]
    exact Cbc.decrypt_encrypt (aes_invertible p.keys.enc) hencrypt

/-! ## The line -/

namespace Line

variable {x : Call} {frame answer : Bytes} {line : Line}

theorem transmit_unsent (hunsent : line.unsent = true) :
    transmit x frame line = (.error .notConnected, line) := by
  unfold transmit
  rw [hunsent]
  rfl

/-- An answer that comes through is the card's answer to the frame. -/
theorem transmit_ok (hsent : line.unsent = false)
    (h : (transmit x frame line).1 = .ok answer) :
    answer = (line.card.react x frame).1 ∧
      (transmit x frame line).2 =
        { line with card := (line.card.react x frame).2, fates := line.fates.tail } := by
  unfold transmit at h ⊢
  rw [hsent] at h ⊢
  rcases hfate : line.fates.headD .arrives with _ | _ | _
  · simp only [hfate] at h ⊢
    cases h
    exact ⟨rfl, rfl⟩
  · simp only [hfate] at h
    cases h
  · simp only [hfate] at h
    cases h

/-- A fault on a line with a connection is a loss. -/
theorem transmit_error {fault : TransportFault} (hsent : line.unsent = false)
    (h : (transmit x frame line).1 = .error fault) :
    fault.maybeSent = true ∧ line.fates ≠ [] := by
  unfold transmit at h
  rw [hsent] at h
  cases hfates : line.fates with
  | nil =>
    rw [hfates] at h
    cases h
  | cons fate fates =>
    rw [hfates] at h
    refine ⟨?_, List.cons_ne_nil _ _⟩
    cases fate with
    | arrives => cases h
    | frameLost fault' hfault => cases h; exact hfault
    | answerLost fault' hfault => cases h; exact hfault

end Line

/-! ## Sending -/

/-- The host is about to send `first` and then `rest`, and with them the card will have gathered the
command. -/
structure Gathering (x : Call) (command : Bytes) (line : Line) (first : Bytes)
    (rest : List Bytes) : Prop where
  sent : line.unsent = false
  queue : line.card.queue = []
  gathered : ∃ (sofar : Bytes) (pieces : List Bytes),
    HonestCard.gather line.card.received first = some sofar ∧ sofar ≠ [] ∧
    rest = pieces.map (Chaining.continuation :: ·) ∧ (∀ q ∈ pieces, q ≠ []) ∧
    sofar ++ pieces.flatten = command

theorem gathering_start {x : Call} {frame : Bytes} {line : Line} {max : Nat}
    (hsent : line.unsent = false) (hqueue : line.card.queue = [])
    (hreceived : line.card.received = []) (hframe : frame ≠ []) (hmax : 2 ≤ max) :
    Gathering x frame line (frame.take max) (Chaining.followers max frame) where
  sent := hsent
  queue := hqueue
  gathered := by
    refine ⟨frame.take max, Chaining.pieces (max - 2) (frame.drop max), ?_, ?_, rfl, ?_, ?_⟩
    · rw [hreceived]
      rfl
    · obtain ⟨b, bs, rfl⟩ := List.exists_cons_of_ne_nil hframe
      obtain ⟨k, rfl⟩ := Nat.exists_eq_add_of_le' hmax
      exact List.cons_ne_nil _ _
    · exact fun q hq => Chaining.ne_nil_of_mem_pieces hq
    · rw [Chaining.flatten_pieces, List.take_append_drop]

namespace Gathering

variable {x : Call} {command first next : Bytes} {rest : List Bytes} {line : Line}

theorem react_last (h : Gathering x command line first []) (hlength : command.length = x.length) :
    line.card.react x first = line.card.conclude x command := by
  obtain ⟨sofar, pieces, hgather, -, hpieces, -, hcommand⟩ := h.gathered
  have hnil : pieces = [] := List.map_eq_nil_iff.mp hpieces.symm
  subst hnil
  rw [List.flatten_nil, List.append_nil] at hcommand
  unfold HonestCard.react
  rw [if_neg (not_not.mpr h.queue), hgather]
  simp only [hcommand, hlength, Nat.lt_irrefl, if_false]

/-- A piece that is not the last one is asked to be continued. -/
theorem react_next (h : Gathering x command line first (next :: rest))
    (hlength : command.length = x.length) :
    (line.card.react x first).1 = [CardStatus.additionalFrame] ∧
      ∀ fates, let line' : Line := { line with card := (line.card.react x first).2, fates }
        Gathering x command line' next rest ∧
          line'.card.conclude x command = line.card.conclude x command := by
  obtain ⟨sofar, pieces, hgather, hne, hpieces, hall, hcommand⟩ := h.gathered
  cases pieces with
  | nil => cases hpieces
  | cons q pieces =>
    obtain ⟨hnext, hrest⟩ := List.cons.inj hpieces
    have hq : 0 < q.length := List.length_pos_iff.mpr (hall q List.mem_cons_self)
    have hshort : sofar.length < x.length := by
      rw [← hlength, ← hcommand, List.flatten_cons, List.length_append, List.length_append]
      omega
    have hreact : line.card.react x first =
        ([CardStatus.additionalFrame], { line.card with received := sofar }) := by
      unfold HonestCard.react
      rw [if_neg (not_not.mpr h.queue), hgather]
      simp only [hshort, if_true]
    rw [hreact]
    refine ⟨rfl, fun fates => ⟨⟨h.sent, h.queue, sofar ++ q, pieces, ?_, ?_, hrest, ?_, ?_⟩, rfl⟩⟩
    · rw [hnext]
      obtain ⟨b, bs, rfl⟩ := List.exists_cons_of_ne_nil hne
      rfl
    · simp [hne]
    · exact fun q' hq' => hall q' (List.mem_cons_of_mem q hq')
    · rw [← hcommand, List.flatten_cons, List.append_assoc]

end Gathering

namespace Chaining

open Dialogue

/-- A command that was sent to its end is concluded by the card, and the answer is the card's. -/
theorem SendPlay.concluded {x : Call} {command first answer : Bytes} {rest : List Bytes}
    {T : Transcript} {r : Except Error Bytes} (h : SendPlay first rest T r) (hr : r = .ok answer)
    (hlength : command.length = x.length) {line line' : Line}
    (hg : Gathering x command line first rest) (hreach : Reaches (Line.transport x) line T line') :
    line'.unsent = false ∧ (line.fates = [] → line'.fates = []) ∧
      (answer, line'.card) = line.card.conclude x command := by
  induction h generalizing line with
  | fault first rest fault => cases hr
  | last first answer' =>
    cases hr
    obtain ⟨hanswer, rfl⟩ := hreach
    obtain ⟨hfirst, hline⟩ := Line.transmit_ok hg.sent hanswer
    rw [hg.react_last hlength] at hfirst hline
    refine ⟨?_, ?_, ?_⟩
    · exact (congrArg Line.unsent hline).trans hg.sent
    · intro hfates
      exact (congrArg Line.fates hline).trans (by rw [hfates]; rfl)
    · rw [hfirst]
      exact Prod.ext rfl (congrArg Line.card hline)
  | stopped h => cases hr
  | next h hrest ih =>
    obtain ⟨hanswer, hreach⟩ := hreach
    obtain ⟨-, hline⟩ := Line.transmit_ok hg.sent hanswer
    have hreach := hline ▸ hreach
    obtain ⟨hg', hconclude⟩ := (hg.react_next hlength).2 line.fates.tail
    obtain ⟨hsent', hfates', hend⟩ := ih hr hg' hreach
    exact ⟨hsent', fun hfates => hfates' (by rw [hfates]; rfl), hend.trans hconclude⟩

/-- A command that was not sent to its end was stopped by a loss, so that the card may have seen
it. -/
theorem SendPlay.lost {x : Call} {command first : Bytes} {rest : List Bytes} {err : Error}
    {T : Transcript} {r : Except Error Bytes} (h : SendPlay first rest T r) (hr : r = .error err)
    (hlength : command.length = x.length) {line line' : Line}
    (hg : Gathering x command line first rest) (hreach : Reaches (Line.transport x) line T line') :
    err.leavesInStep = false ∧ line.fates ≠ [] := by
  induction h generalizing line with
  | fault first rest fault =>
    cases hr
    obtain ⟨hfault, hfates⟩ := Line.transmit_error hg.sent hreach.1
    exact ⟨by simp [Error.leavesInStep, hfault], hfates⟩
  | last first answer' => cases hr
  | stopped h =>
    obtain ⟨hfirst, -⟩ := Line.transmit_ok hg.sent hreach.1
    rw [hfirst, (hg.react_next hlength).1] at h
    cases h
  | next h hrest ih =>
    obtain ⟨hanswer, hreach⟩ := hreach
    obtain ⟨-, hline⟩ := Line.transmit_ok hg.sent hanswer
    have hreach := hline ▸ hreach
    obtain ⟨herr, hfates⟩ := ih hr ((hg.react_next hlength).2 line.fates.tail).1 hreach
    refine ⟨herr, fun hnil => hfates ?_⟩
    show line.fates.tail = []
    rw [hnil]
    rfl

/-- Without a connection the first frame fails, and nothing else happens. -/
theorem SendPlay.unsent {x : Call} {first : Bytes} {rest : List Bytes} {T : Transcript}
    {r : Except Error Bytes} (h : SendPlay first rest T r) {line line' : Line}
    (hunsent : line.unsent = true) (hreach : Reaches (Line.transport x) line T line') :
    r = .error (.transport .notConnected) ∧ line' = line := by
  have htransmit : (Line.transport x).transmit first line = (.error .notConnected, line) :=
    Line.transmit_unsent hunsent
  have hfails (answer : Bytes) : ((Line.transport x).transmit first line).1 ≠ .ok answer := by
    rw [htransmit]
    intro hanswer
    cases hanswer
  cases h with
  | fault fault =>
    obtain ⟨hfault, hend⟩ := hreach
    rw [htransmit] at hfault hend
    cases hfault
    exact ⟨rfl, hend⟩
  | last => exact absurd hreach.1 (hfails _)
  | stopped h => exact absurd hreach.1 (hfails _)
  | next h hrest => exact absurd hreach.1 (hfails _)

end Chaining

/-! ## Collecting -/

namespace HonestCard

theorem react_continuation (x : Call) {card : HonestCard} {next : Bytes} {queue : List Bytes}
    (h : card.queue = next :: queue) :
    card.react x [Chaining.continuation] = (next, { card with queue }) := by
  unfold react serve
  rw [h, if_pos (List.cons_ne_nil _ _)]
  rfl

end HonestCard

namespace Chaining

open Dialogue HonestCard

/-- An answer that is collected is the whole answer of the card. What stops the collection is a loss
or the limit, and leaves it open whether the card has noticed. -/
theorem CollectPlay.served {x : Call} {limit more : Nat} {before frame : Bytes} {T : Transcript}
    {r : Except Error Reply} (h : CollectPlay limit more before frame T r) {cuts : List Nat}
    {bs : Bytes} {line line' : Line} (hsent : line.unsent = false)
    (hframes : frame :: line.card.queue = frames cuts bs)
    (hreach : Reaches (Line.transport x) line T line') :
    (∀ err, r = .error err →
      err.leavesInStep = false ∧ (line.fates ≠ [] ∨ more < cuts.length)) ∧
    ∀ reply, r = .ok reply → reply = ⟨CardStatus.ok, before ++ bs⟩ ∧
      line'.card = { line.card with queue := [] } := by
  induction h generalizing cuts bs line with
  | empty more before =>
    rcases frames_cases hframes with ⟨hframe, -⟩ | ⟨n, cuts', -, hframe, -⟩
    · cases hframe
    · cases hframe
  | refused more before data h =>
    rcases frames_cases hframes with ⟨hframe, -⟩ | ⟨n, cuts', -, hframe, -⟩
    · cases hframe
      cases h
    · cases hframe
      cases h
  | last more before data =>
    rcases frames_cases hframes with ⟨hframe, hqueue⟩ | ⟨n, cuts', -, hframe, -⟩
    · cases hframe
      refine ⟨by rintro err ⟨⟩, ?_⟩
      rintro reply ⟨⟩
      refine ⟨rfl, ?_⟩
      rw [hreach, ← hqueue]
    · cases hframe
  | exceeded before data =>
    refine ⟨?_, fun reply hr => by cases hr⟩
    rintro err ⟨⟩
    rcases frames_cases hframes with ⟨hframe, -⟩ | ⟨n, cuts', rfl, -, -⟩
    · cases hframe
    · exact ⟨rfl, Or.inr (Nat.succ_pos _)⟩
  | fault more before data fault =>
    refine ⟨?_, fun reply hr => by cases hr⟩
    rintro err ⟨⟩
    obtain ⟨hfault, hfates⟩ := Line.transmit_error hsent hreach.1
    exact ⟨by simp [Error.leavesInStep, hfault], Or.inl hfates⟩
  | next data h ih =>
    rcases frames_cases hframes with ⟨hframe, -⟩ | ⟨n, cuts', rfl, hframe, hqueue⟩
    · cases hframe
    · cases hframe
      obtain ⟨hanswer, hreach⟩ := hreach
      obtain ⟨hfirst, hline⟩ := Line.transmit_ok hsent hanswer
      have hreach := hline ▸ hreach
      obtain ⟨next, queue, hnext⟩ := List.exists_cons_of_ne_nil (frames_ne_nil cuts' (bs.drop n))
      rw [react_continuation x (hqueue.trans hnext)] at hfirst hreach
      let line₁ : Line :=
        { line with card := { line.card with queue }, fates := line.fates.tail }
      obtain ⟨herr, hok⟩ := @ih cuts' (bs.drop n) line₁ hsent (by rw [hfirst, hnext]) hreach
      refine ⟨fun err hr => ?_, fun reply hr => ?_⟩
      · obtain ⟨hleaves, hcause⟩ := herr err hr
        refine ⟨hleaves, hcause.imp (fun hfates hnil => hfates ?_) Nat.succ_lt_succ⟩
        show line.fates.tail = []
        rw [hnil]
        rfl
      · obtain ⟨hreply, hend⟩ := hok reply hr
        rw [hreply, List.append_assoc, List.take_append_drop]
        exact ⟨rfl, hend⟩

end Chaining

end CardLink
