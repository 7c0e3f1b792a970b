import CardLink.Proofs.ExchangeEffects
import CardLink.Proofs.FileCard

/-!
# Exchanges with a card that stores files

For a command that suits its files, such a card is an honest card whose verdict is what it does with
the files. So whatever holds of an exchange with an honest card holds of an exchange with it, and a
success means that the card has carried the command out.

1. The card reads from a frame the command that the host put into it (`conclude_frame`), and decides
   as the honest card does (`concludesAs_call`).
2. It treats the pieces of a command and the calls for an answer as the honest card does
   (`SendPlay.onFiles`, `CollectPlay.onFiles`), and nothing but a whole command touches the files.
3. An exchange that succeeds has carried out its command (`issue_onFiles`).
-/

namespace CardLink

namespace FileCard

variable {card : FileCard} {c : Command} {p : AesProtection} {frame : Bytes}

/-! ## Verdicts -/

/-- What the card decides on a command. -/
def verdict (card : FileCard) (h : card.files.Suits c) : Verdict c.mode :=
  match hdone : card.files.execute c with
  | .error refusal => .refuse refusal.code refusal.refuses
  | .ok (plain, _) =>
    .answer plain (card.cuts.headD []) fun hmode => Files.execute_aligned (h.mode ▸ hmode) hdone

theorem verdict_error (h : card.files.Suits c) {refusal : Refusal}
    (hdone : card.files.execute c = .error refusal) :
    card.verdict h = .refuse refusal.code refusal.refuses := by
  unfold verdict
  split
  · rename_i hdone'
    rw [hdone] at hdone'
    cases hdone'
    rfl
  · rename_i hdone'
    rw [hdone] at hdone'
    cases hdone'

theorem verdict_ok (h : card.files.Suits c) {plain : Bytes} {files : Files}
    (hdone : card.files.execute c = .ok (plain, files)) :
    ∃ haligned, card.verdict h = .answer plain (card.cuts.headD []) haligned := by
  unfold verdict
  split
  · rename_i hdone'
    rw [hdone] at hdone'
    cases hdone'
  · rename_i hdone'
    rw [hdone] at hdone'
    cases hdone'
    exact ⟨fun hmode => Files.execute_aligned (h.mode ▸ hmode) hdone, rfl⟩

/-! ## Whole commands -/

/-- The card carries out the command that the host put into the frame. -/
theorem conclude_frame (h : card.files.Suits c) (hlink : card.base.link = some p)
    (hframe : p.protect c = .ok frame) :
    ∃ next, p.counter.next = .ok next ∧ card.conclude frame = match card.files.execute c with
      | .error refusal => ([refusal.code], { card with base := card.base.rest })
      | .ok (plain, files) =>
        let served := HonestCard.serve
          { link := some { p with counter := next }, said := card.base.said ++ [plain],
            queue := HonestCard.frames (card.cuts.headD [])
              (HonestCard.sealed p c.mode next plain) }
        (served.1, { base := served.2, files, cuts := card.cuts.tail }) := by
  obtain ⟨body, next, hnext, -, hshape⟩ := AesProtection.protect_secured h.secured hframe
  have hprotect : p.protect c = p.frame c := AesProtection.protect_eq_frame h.secured hnext
  have hread : p.readCommand c.mode c.header.length frame = some c :=
    AesProtection.readCommand_frame h.secured (hprotect.symm.trans hframe)
  have hcons : frame = c.code :: (c.header ++ body ++ (p.tag c body).toList) := hshape
  have hheader : (c.header ++ body ++ (p.tag c body).toList).take c.header.length = c.header := by
    rw [List.append_assoc]
    exact List.take_left
  refine ⟨next, hnext, ?_⟩
  rw [hcons] at hread ⊢
  unfold conclude
  simp only [hlink, ← h.header, hheader, ← h.mode, hread]
  cases card.files.execute c with
  | error refusal => rfl
  | ok done => simp only [AesProtection.step_of_next hnext]

end FileCard

/-- The call that a command is to an honest card in the place of the card with files. -/
def FileLine.call (w : FileLine) (settings : Settings) {c : Command} (h : w.card.files.Suits c) :
    Call where
  settings := settings
  command := c
  secured := h.secured
  verdict := w.card.verdict h
  fates := w.fates

namespace FileCard

/-- The card concludes a command as an honest card that gets the call, but for the files. -/
def ConcludesAs (x : Call) (card : FileCard) (command : Bytes) : Prop :=
  ((card.conclude command).1, (card.conclude command).2.base) = card.base.conclude x command

/-- The card treats a frame as an honest card that gets the call, but for the files. -/
def ReactsAs (x : Call) (card : FileCard) (frame : Bytes) : Prop :=
  ((card.react frame).1, (card.react frame).2.base) = card.base.react x frame

variable {card : FileCard} {c : Command} {p : AesProtection} {frame : Bytes}

theorem concludesAs_call {w : FileLine} (settings : Settings) (h : w.card.files.Suits c)
    (hlink : w.card.base.link = some p) (hframe : p.protect c = .ok frame) :
    w.card.ConcludesAs (w.call settings h) frame := by
  obtain ⟨next, hnext, hconclude⟩ := conclude_frame h hlink hframe
  obtain ⟨next', hnext', hbase⟩ :=
    HonestCard.conclude_frame (x := w.call settings h) hlink hframe
  rw [hnext] at hnext'
  cases hnext'
  unfold ConcludesAs
  rw [hconclude, hbase]
  cases hdone : w.card.files.execute c with
  | error refusal =>
    rw [show (w.call settings h).verdict = _ from verdict_error h hdone]
  | ok done =>
    obtain ⟨haligned, hverdict⟩ := verdict_ok h hdone
    rw [show (w.call settings h).verdict = _ from hverdict]
    rfl

/-- A concluded command is what the card has heard, done and said. -/
theorem conclude_leaves (h : card.files.Suits c) (hlink : card.base.link = some p)
    (hframe : p.protect c = .ok frame) :
    (card.conclude frame).2.base.received = [] ∧ match card.files.execute c with
      | .error _ => (card.conclude frame).2.base.said = card.base.said
      | .ok (plain, files) => (card.conclude frame).2.base.said = card.base.said ++ [plain] ∧
        (card.conclude frame).2.files = files ∧
        (card.conclude frame).2.cuts = card.cuts.tail := by
  obtain ⟨next, -, hconclude⟩ := conclude_frame h hlink hframe
  rw [hconclude]
  cases card.files.execute c with
  | error refusal => exact ⟨rfl, rfl⟩
  | ok done =>
    obtain ⟨first, queue, hframes⟩ := List.exists_cons_of_ne_nil (HonestCard.frames_ne_nil
      (card.cuts.headD []) (HonestCard.sealed p c.mode next done.1))
    simp only [hframes, HonestCard.serve]
    exact ⟨trivial, trivial, trivial, trivial⟩

/-! ## Frames -/

theorem react_of_gather {piece sofar : Bytes} (hqueue : card.base.queue = [])
    (hgather : HonestCard.gather card.base.received piece = some sofar) :
    card.react piece = if sofar.length < card.files.expected sofar then
        ([CardStatus.additionalFrame], { card with base := { card.base with received := sofar } })
      else card.conclude sofar := by
  unfold react
  rw [if_neg (not_not.mpr hqueue), hgather]

/-- It is enough that the card sees the end of a command where the honest card does, and concludes
it alike. -/
theorem reactsAs_of_gather {x : Call} {piece : Bytes}
    (h : ∀ sofar, card.base.queue = [] → HonestCard.gather card.base.received piece = some sofar →
      (sofar.length < card.files.expected sofar ↔ sofar.length < x.length) ∧
        (¬ sofar.length < x.length → card.ConcludesAs x sofar)) : card.ReactsAs x piece := by
  unfold ReactsAs HonestCard.react
  by_cases hqueue : card.base.queue = []
  · rw [if_neg (not_not.mpr hqueue)]
    cases hgather : HonestCard.gather card.base.received piece with
    | none =>
      unfold react
      rw [if_neg (not_not.mpr hqueue), hgather]
      rfl
    | some sofar =>
      obtain ⟨hlength, hconclude⟩ := h sofar hqueue hgather
      simp only [react_of_gather hqueue hgather, hlength]
      split_ifs with hshort
      · rfl
      · exact hconclude hshort
  · unfold react
    simp only [if_pos hqueue]

end FileCard

namespace FileLine

variable {x : Call} {w : FileLine} {frame answer : Bytes}

/-- On the line a frame fares as on the line to an honest card that treats it alike. -/
theorem transmit_line (h : w.card.ReactsAs x frame) :
    Line.transmit x frame w.line = ((transmit frame w).1, (transmit frame w).2.line) := by
  unfold FileCard.ReactsAs at h
  unfold transmit Line.transmit
  simp only [line, Bool.false_eq_true, if_false, ← h]
  cases w.fates.headD .arrives <;> rfl

theorem reaches_cons {w' : FileLine} {r : Delivery} {T : Transcript}
    (h : w.card.ReactsAs x frame) (hfirst : (transmit frame w).1 = r)
    (hrest : Dialogue.Reaches (Line.transport x) (transmit frame w).2.line T w'.line) :
    Dialogue.Reaches (Line.transport x) w.line ((frame, r) :: T) w'.line := by
  show (Line.transmit x frame w.line).1 = r ∧
    Dialogue.Reaches _ (Line.transmit x frame w.line).2 T w'.line
  rw [transmit_line h]
  exact ⟨hfirst, hrest⟩

theorem transmit_ok (h : (transmit frame w).1 = .ok answer) :
    answer = (w.card.react frame).1 ∧
      (transmit frame w).2 = { card := (w.card.react frame).2, fates := w.fates.tail } := by
  unfold transmit at h ⊢
  cases hfate : w.fates.headD .arrives with
  | arrives =>
    simp only [hfate] at h
    cases h
    exact ⟨rfl, by simp only⟩
  | frameLost fault _ =>
    simp only [hfate] at h
    cases h
  | answerLost fault _ =>
    simp only [hfate] at h
    cases h

end FileLine

/-! ## Sending -/

/-- The card can tell the beginnings of a frame from the whole. -/
def Files.Tells (files : Files) (command : Bytes) : Prop :=
  ∀ part more, part ≠ [] → part ++ more = command →
    (part.length < files.expected part ↔ more ≠ [])

theorem Files.Suits.tells {files : Files} {c : Command} (h : files.Suits c) {p : AesProtection}
    {frame : Bytes} (hframe : p.protect c = .ok frame) : files.Tells frame := by
  obtain ⟨body, next, -, hbody, rfl⟩ := AesProtection.protect_secured h.secured hframe
  exact fun part more hne hparts => h.length_lt_expected_iff hbody (p.tag c body) hne hparts

namespace Gathering

variable {x : Call} {command first next : Bytes} {rest : List Bytes} {w : FileLine}

/-- With the next frame the card has a beginning of the command, and with the last one the whole. -/
theorem exists_part (h : Gathering x command w.line first rest) :
    w.card.base.queue = [] ∧ ∃ part more,
      HonestCard.gather w.card.base.received first = some part ∧ part ≠ [] ∧
        part ++ more = command ∧ (more = [] ↔ rest = []) := by
  obtain ⟨part, pieces, hgather, hne, hrest, hall, hcommand⟩ := h.gathered
  refine ⟨h.queue, part, pieces.flatten, hgather, hne, hcommand, ?_⟩
  rw [hrest, List.map_eq_nil_iff]
  cases pieces with
  | nil => simp
  | cons q pieces => simp [hall q List.mem_cons_self]

/-- The last piece of a command makes the card conclude it. -/
theorem files_last (h : Gathering x command w.line first []) (htells : w.card.files.Tells command) :
    w.card.react first = w.card.conclude command := by
  obtain ⟨hqueue, part, more, hgather, hne, hcommand, hmore⟩ := h.exists_part
  have hwhole : ¬ part.length < w.card.files.expected part :=
    fun hshort => (htells part more hne hcommand).mp hshort (hmore.mpr rfl)
  rw [FileCard.react_of_gather hqueue hgather, if_neg hwhole, ← hcommand, hmore.mpr rfl,
    List.append_nil]

/-- Any other piece is put to those before it. -/
theorem files_next (h : Gathering x command w.line first (next :: rest))
    (htells : w.card.files.Tells command) :
    ∃ part, w.card.react first = ([CardStatus.additionalFrame],
      { w.card with base := { w.card.base with received := part } }) := by
  obtain ⟨hqueue, part, more, hgather, hne, hcommand, hmore⟩ := h.exists_part
  have hshort : part.length < w.card.files.expected part :=
    (htells part more hne hcommand).mpr fun hnil => List.cons_ne_nil _ _ (hmore.mp hnil)
  exact ⟨part, by rw [FileCard.react_of_gather hqueue hgather, if_pos hshort]⟩

/-- While a command is sent, the card treats its pieces as an honest card. -/
theorem reactsAs (h : Gathering x command w.line first rest) (hlength : command.length = x.length)
    (htells : w.card.files.Tells command) (hconclude : w.card.ConcludesAs x command) :
    w.card.ReactsAs x first := by
  obtain ⟨-, part, more, hgather, hne, hcommand, -⟩ := h.exists_part
  have hsum : part.length + more.length = x.length := by
    rw [← hlength, ← hcommand, List.length_append]
  refine FileCard.reactsAs_of_gather fun part' _ hgather' => ?_
  obtain rfl : part = part' := Option.some.inj (hgather.symm.trans hgather')
  have hmore : part.length < x.length ↔ more ≠ [] := by
    rw [← List.length_pos_iff]
    omega
  refine ⟨(htells part more hne hcommand).trans hmore.symm, fun hwhole => ?_⟩
  have hnil : more = [] := not_not.mp (mt hmore.mpr hwhole)
  rw [hnil, List.append_nil] at hcommand
  rw [hcommand]
  exact hconclude

end Gathering

namespace Chaining

open Dialogue

/-- A command is sent to the card as it would be to an honest card, which then concludes it. -/
theorem SendPlay.onFiles {x : Call} {command first : Bytes} {rest : List Bytes} {T : Transcript}
    {r : Except Error Bytes} (h : SendPlay first rest T r) (hlength : command.length = x.length)
    {w w' : FileLine} (hg : Gathering x command w.line first rest)
    (htells : w.card.files.Tells command) (hconclude : w.card.ConcludesAs x command)
    (hreach : Reaches FileLine.transport w T w') :
    Reaches (Line.transport x) w.line T w'.line ∧
      ∀ answer, r = .ok answer → (answer, w'.card) = w.card.conclude command := by
  -- Until its end the command is only gathered, so that files and verdict are still those of the
  -- beginning.
  have hreacts := hg.reactsAs hlength htells hconclude
  induction h generalizing w with
  | fault first rest fault =>
    obtain ⟨hfault, rfl⟩ := hreach
    exact ⟨FileLine.reaches_cons hreacts hfault rfl, by rintro answer ⟨⟩⟩
  | last first answer =>
    obtain ⟨hfirst, rfl⟩ := hreach
    refine ⟨FileLine.reaches_cons hreacts hfirst rfl, ?_⟩
    rintro answer' ⟨⟩
    obtain ⟨rfl, hcard⟩ := FileLine.transmit_ok hfirst
    rw [← hg.files_last htells]
    exact Prod.ext rfl (congrArg FileLine.card hcard)
  | stopped h =>
    obtain ⟨hfirst, rfl⟩ := hreach
    exact ⟨FileLine.reaches_cons hreacts hfirst rfl, by rintro answer ⟨⟩⟩
  | @next first next rest answer T r h hrest ih =>
    obtain ⟨hfirst, hreach⟩ := hreach
    obtain ⟨-, hcard⟩ := FileLine.transmit_ok hfirst
    obtain ⟨part, hreact⟩ := hg.files_next htells
    let w₁ : FileLine :=
      { card := { w.card with base := { w.card.base with received := part } }
        fates := w.fates.tail }
    have hw₁ : (FileLine.transmit first w).2 = w₁ := by rw [hcard, hreact]
    have hg₁ : Gathering x command w₁.line next rest := by
      have hg' := ((hg.react_next hlength).2 w.fates.tail).1
      rwa [show w.line.card.react x first = _ from hreacts.symm, hreact] at hg'
    obtain ⟨hrest, hend⟩ := ih hg₁ htells hconclude (hw₁ ▸ hreach)
      (hg₁.reactsAs hlength htells hconclude)
    exact ⟨FileLine.reaches_cons hreacts hfirst (hw₁ ▸ hrest), hend⟩

end Chaining

/-! ## Collecting -/

namespace FileCard

/-- One card has stored, and said, the same as the other. -/
structure SameStore (card card' : FileCard) : Prop where
  files : card'.files = card.files
  cuts : card'.cuts = card.cuts
  said : card'.base.said = card.base.said

/-- The card has no part of a command that could become a whole one. A call for an answer that there
is not counts as one. -/
def Idle (card : FileCard) : Prop :=
  card.base.received = [] ∨ card.base.received = [Chaining.continuation]

variable {card : FileCard}

/-- A call for more of an answer is treated as by an honest card and leaves the files alone. -/
theorem react_continuation (x : Call) (hidle : card.Idle) :
    card.ReactsAs x [Chaining.continuation] ∧
      SameStore card (card.react [Chaining.continuation]).2 ∧
      (card.react [Chaining.continuation]).2.Idle := by
  have hgather : HonestCard.gather card.base.received [Chaining.continuation] =
      some [Chaining.continuation] := by
    rcases hidle with h | h <;> rw [h] <;> rfl
  have hshort : [Chaining.continuation].length < card.files.expected [Chaining.continuation] := by
    simp only [Files.expected, Reply.tagLength, List.length_singleton]
    omega
  have hlength : [Chaining.continuation].length < x.length := by
    simp only [Call.length, Reply.tagLength, List.length_singleton]
    omega
  refine ⟨reactsAs_of_gather fun sofar _ hsofar => ?_, ?_⟩
  · obtain rfl : [Chaining.continuation] = sofar := Option.some.inj (hgather.symm.trans hsofar)
    exact ⟨iff_of_true hshort hlength, fun hwhole => absurd hlength hwhole⟩
  · by_cases hqueue : card.base.queue = []
    -- The host does not ask for more than there is, but the card would wait for a command.
    · rw [react_of_gather hqueue hgather, if_pos hshort]
      exact ⟨⟨rfl, rfl, rfl⟩, Or.inr rfl⟩
    · obtain ⟨next, queue, hnext⟩ := List.exists_cons_of_ne_nil hqueue
      have hreact : card.react [Chaining.continuation] =
          (next, { card with base := { card.base with queue } }) := by
        unfold react HonestCard.serve
        rw [if_pos hqueue, hnext]
        rfl
      rw [hreact]
      exact ⟨⟨rfl, rfl, rfl⟩, hidle⟩

end FileCard

namespace Chaining

open Dialogue

/-- The frames of an answer come from the card as they would from an honest card. -/
theorem CollectPlay.onFiles (x : Call) {limit more : Nat} {before frame : Bytes} {T : Transcript}
    {r : Except Error Reply} (h : CollectPlay limit more before frame T r) {w w' : FileLine}
    (hidle : w.card.Idle) (hreach : Reaches FileLine.transport w T w') :
    Reaches (Line.transport x) w.line T w'.line ∧
      ∀ reply, r = .ok reply → FileCard.SameStore w.card w'.card := by
  induction h generalizing w with
  | empty | refused | exceeded | last =>
    cases hreach
    exact ⟨rfl, fun _ _ => ⟨rfl, rfl, rfl⟩⟩
  | fault more before data fault =>
    obtain ⟨hfault, rfl⟩ := hreach
    exact ⟨FileLine.reaches_cons (FileCard.react_continuation x hidle).1 hfault rfl,
      by rintro reply ⟨⟩⟩
  | next data h ih =>
    obtain ⟨hanswer, hreach⟩ := hreach
    obtain ⟨hreacts, hsame, hidle'⟩ := FileCard.react_continuation x hidle
    obtain ⟨-, hafter⟩ := FileLine.transmit_ok hanswer
    have hafter : (FileLine.transport.transmit [continuation] w).2 = _ := hafter
    rw [hafter] at hreach
    obtain ⟨hrest, hend⟩ := ih hidle' hreach
    refine ⟨FileLine.reaches_cons hreacts hanswer (hafter ▸ hrest), fun reply hr => ?_⟩
    have hlast := hend reply hr
    exact ⟨hlast.files.trans hsame.files, hlast.cuts.trans hsame.cuts, hlast.said.trans hsame.said⟩

end Chaining

/-! ## Whole exchanges -/

section

variable {s : Session} {c : Command} {settings : Settings} {w w' : FileLine} {frame : Bytes}

/-- A round trip with the card is one with an honest card, and one that ends with a reply leaves the
card as the command did. -/
theorem roundTrip_onFiles (hstep : InStep s w.card.base) (h : w.card.files.Suits c)
    (hframe : s.protectedFrame settings c = .ok frame) {T : Transcript} {r : Except Error Reply}
    (htrip : Chaining.RoundTripPlay settings frame T r)
    (hreach : Dialogue.Reaches FileLine.transport w T w') :
    Dialogue.Reaches (Line.transport (w.call settings h)) w.line T w'.line ∧
      ∀ reply, r = .ok reply → FileCard.SameStore (w.card.conclude frame).2 w'.card := by
  obtain ⟨p, hp, hlink, hreceived, hqueue⟩ := hstep
  obtain ⟨q, hq, hmax, hprotect⟩ := Session.protectedFrame_ok hframe
  obtain rfl : Protection.aes p = q := Option.some.inj (hp.symm.trans hq)
  have hlength : frame.length = (w.call settings h).length := Call.length_frame hprotect
  have hne : frame ≠ [] := Call.frame_ne_nil (x := w.call settings h) hprotect
  have hstart : Gathering (w.call settings h) frame w.line _ _ :=
    gathering_start rfl hqueue hreceived hne hmax
  have hconclude := FileCard.concludesAs_call settings h hlink hprotect
  cases htrip with
  | threshold hshort => exact absurd hmax (Nat.not_le_of_lt hshort)
  | unsent hsend =>
    exact ⟨(hsend.onFiles hlength hstart (h.tells hprotect) hconclude hreach).1,
      by rintro reply ⟨⟩⟩
  | sent hsend hcollect =>
    obtain ⟨w₁, hreach₁, hreach₂⟩ := Dialogue.reaches_append.mp hreach
    obtain ⟨hsent, hend⟩ := hsend.onFiles hlength hstart (h.tells hprotect) hconclude hreach₁
    have hcard : w₁.card = (w.card.conclude frame).2 := congrArg Prod.snd (hend _ rfl)
    have hidle : w₁.card.Idle := by
      rw [hcard]
      exact Or.inl (FileCard.conclude_leaves h hlink hprotect).1
    obtain ⟨hcollected, hsame⟩ := hcollect.onFiles (w.call settings h) hidle hreach₂
    exact ⟨Dialogue.reaches_append.mpr ⟨_, hsent, hcollected⟩, hcard ▸ hsame⟩

/-- A round trip that the host accepts has carried the command out. -/
theorem settle_onFiles (hstep : InStep s w.card.base) (h : w.card.files.Suits c)
    (hframe : s.protectedFrame settings c = .ok frame) {T : Transcript} {r : Except Error Reply}
    (htrip : Chaining.RoundTripPlay settings frame T r)
    (hreach : Dialogue.Reaches FileLine.transport w T w') :
    let e := s.settle (r >>= s.accept c.mode)
    Kept (w.call settings h) s w.card.base (e.1, e.2, w'.card.base) ∧
      ∀ data, e.1 = .ok data →
        w.card.files.execute c = .ok (data, w'.card.files) ∧ w'.card.cuts = w.card.cuts.tail := by
  intro e
  obtain ⟨hbase, hsame⟩ := roundTrip_onFiles hstep h hframe htrip hreach
  have hkept : Kept (w.call settings h) s w.card.base (e.1, e.2, w'.card.base) :=
    kept_roundTrip hstep hframe htrip hbase
  refine ⟨hkept, fun data hdata => ?_⟩
  cases r with
  | error err => cases hdata
  | ok reply =>
    obtain ⟨p, hp, hlink, -⟩ := hstep
    obtain ⟨q, hq, -, hprotect⟩ := Session.protectedFrame_ok hframe
    obtain rfl : Protection.aes p = q := Option.some.inj (hp.symm.trans hq)
    have hleaves := (FileCard.conclude_leaves h hlink hprotect).2
    -- What the card has said tells a refusal from an answer, and which answer it was.
    have hsaid : w'.card.base.said = w.card.base.said ++ [data] := hkept.said data hdata
    obtain ⟨hfiles, hcuts, hsaid'⟩ := hsame reply rfl
    rw [hsaid'] at hsaid
    cases hdone : w.card.files.execute c with
    | error refusal =>
      rw [hdone] at hleaves
      simp [hleaves] at hsaid
    | ok done =>
      obtain ⟨plain, files⟩ := done
      rw [hdone] at hleaves
      obtain ⟨hplain, hstored, htail⟩ := hleaves
      obtain rfl : plain = data := by simpa [hplain] using hsaid
      rw [hfiles, hcuts]
      exact ⟨by rw [hstored], htail⟩

/-- **Exchanges with a card that stores files.** Let host and card agree, and let the command suit
the files. Then whatever holds of an exchange with an honest card holds of this one; and if it
succeeds, then the card has carried the command out, and its answer is the result. -/
theorem issue_onFiles (hstep : InStep s w.card.base) (h : w.card.files.Suits c)
    (settings : Settings) :
    let e := (s.issue settings c).run FileLine.transport w
    Kept (w.call settings h) s w.card.base (e.1.1, e.1.2, e.2.card.base) ∧
      ∀ data, e.1.1 = .ok data →
        w.card.files.execute c = .ok (data, e.2.card.files) ∧ e.2.card.cuts = w.card.cuts.tail := by
  unfold Session.issue Session.issueWith
  cases hframe : s.protectedFrame settings c with
  | error err =>
    refine ⟨kept_of_refusal hstep (Session.protection_afterRefusal s err) ?_, by rintro data ⟨⟩⟩
    rintro plain ⟨-, -, ⟨frame, hok⟩, -⟩
    have hok : s.protectedFrame settings c = .ok frame := hok
    rw [hframe] at hok
    cases hok
  | ok frame =>
    simp only [Dialogue.run_bind]
    exact settle_onFiles hstep h hframe ((Chaining.roundTrip_plays settings frame).run _ _)
      (Dialogue.reaches_run _ _ _)

end

end CardLink
