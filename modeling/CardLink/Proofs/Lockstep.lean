import CardLink.Proofs.HonestExchange

/-!
# Host and card in lock-step

As long as the host believes in its session, host and card agree on keys, transaction and counter.
The host moves its counter on exactly when it has seen the whole answer of the card, and every
failure after which the card may have moved on alone ends the session.

1. A call leaves host and card in step or ends the session (`kept_play`).
2. So does every run of calls, and what the host reports is what the card said (`lockstep`).
-/

namespace CardLink

/-! ## Calls -/

/-- What a call should leave: the session is over, or host and card are in step; data that the host
reports is the answer that the card added; and an answer that nothing stands in the way of is
reported. -/
structure Kept (x : Call) (s : Session) (card : HonestCard)
    (e : Except Error Bytes × Session × HonestCard) : Prop where
  inStep : e.2.1.protection = none ∨ InStep e.2.1 e.2.2
  said : ∀ data, e.1 = .ok data → e.2.2.said = card.said ++ [data]
  answered : ∀ plain, x.Undisturbed s plain → e.1 = .ok plain

section

variable {x : Call} {s s' : Session} {card card' : HonestCard} {err : Error}

theorem kept_of_failure (h : err.leavesInStep = false) (hx : ∀ plain, ¬ x.Undisturbed s plain) :
    Kept x s card (.error err, s.afterFailure err, card') where
  inStep := by
    refine Or.inl ?_
    show (s.afterFailure err).protection = none
    unfold Session.afterFailure
    rw [h]
    rfl
  said data hdata := by cases hdata
  answered plain hplain := absurd hplain (hx plain)

theorem kept_of_refusal (h : InStep s card') (hs : s'.protection = none ∨ s' = s)
    (hx : ∀ plain, ¬ x.Undisturbed s plain) : Kept x s card (.error err, s', card') where
  inStep := by
    rcases hs with hover | rfl
    · exact Or.inl hover
    · exact Or.inr h
  said data hdata := by cases hdata
  answered plain hplain := absurd hplain (hx plain)

/-- The card concludes a command, and the host collects and reads what it answers. -/
theorem kept_concluded {p : AesProtection} (hp : s.protection = some (.aes p))
    (hlink : card.link = some p) {frame first : Bytes} (hframe : p.protect x.command = .ok frame)
    {limit more : Nat} (hmore : x.settings.maxResponseFrames - 1 ≤ more) {T : Transcript}
    {r : Except Error Reply} (hcollect : Chaining.CollectPlay limit more [] first T r)
    {line line' : Line} (hsent : line.unsent = false) (hfates : x.fates = [] → line.fates = [])
    (hconclude : (first, line.card) = card.conclude x frame)
    (hreach : Dialogue.Reaches (Line.transport x) line T line') :
    Kept x s card ((s.settle (r >>= s.accept x.command.mode)).1,
      (s.settle (r >>= s.accept x.command.mode)).2, line'.card) := by
  obtain ⟨next, hnext, heq⟩ := HonestCard.conclude_frame hlink hframe
  rw [heq] at hconclude
  cases hverdict : x.verdict with
  | refuse status hstatus =>
    rw [hverdict] at hconclude
    obtain ⟨rfl, hcard⟩ := Prod.mk.inj hconclude
    have hcheck : CardStatus.check status = .error (.refused ⟨status⟩) := by
      unfold CardStatus.check
      rw [if_neg (not_or.mpr hstatus)]
    have hx (plain : Bytes) : ¬ x.Undisturbed s plain := by
      rintro ⟨-, -, -, cuts, h, hanswer, -⟩
      rw [hverdict] at hanswer
      cases hanswer
    cases hcollect with
    | refused more before data herr =>
      rw [hcheck] at herr
      cases herr
      rw [show line' = line from hreach, hcard]
      exact kept_of_refusal ⟨p, hp, hlink, rfl, rfl⟩ (Session.protection_afterFailure s _) hx
    | last => exact absurd rfl hstatus.1
    | exceeded => exact absurd rfl hstatus.2
    | fault => exact absurd rfl hstatus.2
    | next => exact absurd rfl hstatus.2
  | answer plain cuts haligned =>
    rw [hverdict] at hconclude
    obtain ⟨frame', queue, hframes⟩ := List.exists_cons_of_ne_nil
      (HonestCard.frames_ne_nil cuts (HonestCard.sealed p x.command.mode next plain))
    simp only [HonestCard.serve, hframes] at hconclude
    obtain ⟨rfl, hcard⟩ := Prod.mk.inj hconclude
    have hserved := hcollect.served hsent (by rw [hcard, hframes]) hreach
    cases r with
    | error err =>
      obtain ⟨hleaves, hcause⟩ := hserved.1 err rfl
      refine kept_of_failure hleaves ?_
      rintro plain' ⟨-, hlossless, -, cuts', h, hanswer, hfits⟩
      rw [hverdict] at hanswer
      cases hanswer
      rcases hcause with hlost | hmany
      · exact hlost (hfates hlossless)
      · exact absurd (Nat.le_trans hfits hmore) (Nat.not_le_of_lt hmany)
    | ok reply =>
      obtain ⟨rfl, hend⟩ := hserved.2 reply rfl
      have haccept : s.accept x.command.mode
          ⟨CardStatus.ok, [] ++ HonestCard.sealed p x.command.mode next plain⟩ =
            .ok (plain, { s with protection := some (.aes { p with counter := next }) }) := by
        rw [Session.accept_secured hp x.secured, List.nil_append,
          AesProtection.recover_sealed x.secured hnext haligned, AesProtection.step_of_next hnext]
        rfl
      show Kept x s card ((s.settle (s.accept _ _)).1, (s.settle (s.accept _ _)).2, line'.card)
      rw [haccept, hend, hcard]
      refine ⟨Or.inr ⟨_, rfl, rfl, rfl, rfl⟩, ?_, ?_⟩
      · rintro data ⟨⟩
        rfl
      · rintro plain' ⟨-, -, -, cuts', h, hanswer, -⟩
        rw [hverdict] at hanswer
        cases hanswer
        rfl

/-- A round trip in step ends the session or leaves host and card in step. -/
theorem kept_roundTrip (h : InStep s card) {frame : Bytes}
    (hframe : s.protectedFrame x.settings x.command = .ok frame) {T : Transcript}
    {r : Except Error Reply} (htrip : Chaining.RoundTripPlay x.settings frame T r) {line' : Line}
    (hreach : Dialogue.Reaches (Line.transport x) { card, unsent := x.unsent, fates := x.fates } T
      line') :
    Kept x s card ((s.settle (r >>= s.accept x.command.mode)).1,
      (s.settle (r >>= s.accept x.command.mode)).2, line'.card) := by
  obtain ⟨p, hp, hlink, hreceived, hqueue⟩ := id h
  obtain ⟨q, hq, hmax, hprotect⟩ := Session.protectedFrame_ok hframe
  rw [hp] at hq
  cases hq
  have hne : frame ≠ [] := Call.frame_ne_nil hprotect
  have hlength : frame.length = x.length := Call.length_frame hprotect
  cases hsent : x.unsent with
  | true =>
    cases htrip with
    | threshold hshort => exact absurd hmax (Nat.not_le_of_lt hshort)
    | unsent hsend =>
      obtain ⟨herr, rfl⟩ := hsend.unsent hsent hreach
      cases herr
      refine kept_of_refusal h (Or.inr rfl) ?_
      rintro plain ⟨hconnected, -, -, -⟩
      rw [hsent] at hconnected
      cases hconnected
    | sent hsend hcollect =>
      obtain ⟨line'', hreach', -⟩ := Dialogue.reaches_append.mp hreach
      cases (hsend.unsent hsent hreach').1
  | false =>
    have hstart : Gathering x frame { card, unsent := x.unsent, fates := x.fates } _ _ :=
      gathering_start hsent hqueue hreceived hne hmax
    cases htrip with
    | threshold hshort => exact absurd hmax (Nat.not_le_of_lt hshort)
    | unsent hsend =>
      obtain ⟨hleaves, hlost⟩ := hsend.lost rfl hlength hstart hreach
      exact kept_of_failure hleaves fun plain hplain => hlost hplain.lossless
    | sent hsend hcollect =>
      obtain ⟨line'', hreach', hreach''⟩ := Dialogue.reaches_append.mp hreach
      obtain ⟨hsent', hfates, hconclude⟩ := hsend.concluded rfl hlength hstart hreach'
      exact kept_concluded hp hlink hprotect (Nat.le_refl _) hcollect hsent' hfates hconclude
        hreach''

end

theorem kept_play (x : Call) {s : Session} {card : HonestCard} (h : InStep s card) :
    Kept x s card (x.play s card) := by
  unfold Call.play Session.issue Session.issueWith
  cases hframe : s.protectedFrame x.settings x.command with
  | error err =>
    refine kept_of_refusal h (Session.protection_afterRefusal s err) ?_
    rintro plain ⟨-, -, ⟨frame, hok⟩, -⟩
    rw [hframe] at hok
    cases hok
  | ok frame =>
    show Kept x s card (_, _, _)
    simp only [Dialogue.run_bind]
    exact kept_roundTrip h hframe ((Chaining.roundTrip_plays x.settings frame).run _ _)
      (Dialogue.reaches_run _ _ _)

/-! ## Runs -/

theorem protectedFrame_of_over {s : Session} (hs : s.protection = none) (settings : Settings)
    (c : Command) : ∃ err, s.protectedFrame settings c = .error err := by
  cases h : s.protectedFrame settings c with
  | error err => exact ⟨err, rfl⟩
  | ok frame =>
    obtain ⟨p, hp, -⟩ := Session.protectedFrame_ok h
    rw [hs] at hp
    cases hp

/-- A session that is over stays so, and nothing is sent in it. -/
theorem play_of_over (x : Call) {s : Session} (hs : s.protection = none) (card : HonestCard) :
    ∃ err s', x.play s card = (.error err, s', card) ∧ s'.protection = none := by
  obtain ⟨err, hframe⟩ := protectedFrame_of_over hs x.settings x.command
  refine ⟨err, s.afterRefusal err, ?_, ?_⟩
  · unfold Call.play Session.issue Session.issueWith
    rw [hframe]
    rfl
  · rcases s.protection_afterRefusal err with hover | hsame
    · exact hover
    · rw [hsame, hs]

theorem over_or_inStep (xs : List Call) {s : Session} {card : HonestCard}
    (h : s.protection = none ∨ InStep s card) :
    (Call.playAll xs s card).1.protection = none ∨
      InStep (Call.playAll xs s card).1 (Call.playAll xs s card).2 := by
  induction xs generalizing s card with
  | nil => exact h
  | cons x xs ih =>
    refine ih ?_
    rcases h with hover | hstep
    · obtain ⟨err, s', hplay, hs'⟩ := play_of_over x hover card
      rw [hplay]
      exact Or.inl hs'
    · exact (kept_play x hstep).inStep

/-- **Lock-step.** Let host and card agree on keys, transaction and counter. Whatever secured
commands the host then issues, however the card decides on them and cuts its answers, and whatever
the line loses after the first frame of a call: after every call the host's session is over or the
two agree again; all data that a call reports is the answer that the card gave in it; and a call
that nothing stands in the way of reports the card's answer. -/
theorem lockstep (s : Session) (card : HonestCard) (h : InStep s card) (xs : List Call) :
    let e := Call.playAll xs s card
    (e.1.isValid = false ∨ InStep e.1 e.2) ∧ ∀ x : Call,
      (∀ data, (x.play e.1 e.2).1 = .ok data →
        (x.play e.1 e.2).2.2.said = e.2.said ++ [data]) ∧
      ∀ plain, x.Undisturbed e.1 plain → (x.play e.1 e.2).1 = .ok plain := by
  intro e
  rcases over_or_inStep xs (Or.inr h) with hover | hstep
  · refine ⟨Or.inl (by simp [Session.isValid, e, hover]), fun x => ⟨fun data hdata => ?_, ?_⟩⟩
    · obtain ⟨err, s', hplay, -⟩ := play_of_over x hover e.2
      rw [hplay] at hdata
      cases hdata
    · rintro plain ⟨-, -, ⟨frame, hframe⟩, -⟩
      obtain ⟨err, herr⟩ := protectedFrame_of_over hover x.settings x.command
      rw [herr] at hframe
      cases hframe
  · have hkept (x : Call) := kept_play x hstep
    exact ⟨Or.inr hstep, fun x => ⟨(hkept x).said, (hkept x).answered⟩⟩

/-! ### A call after one that found no connection -/

/-- A session that has just begun. -/
def samplePeer : AesProtection where
  keys := ⟨Octets.zero 16, Octets.zero 16⟩
  ti := Octets.zero 4

/-- A command of one byte that the card answers with two bytes in two frames. -/
def sampleCall : Call where
  settings := {}
  command := { code := 0x6A, mode := .mac }
  secured := rfl
  verdict := .answer [1, 2] [5] nofun

theorem lockstep_sampleCall :
    let s : Session := .start (.aes samplePeer) 0
    let card : HonestCard := { link := some samplePeer }
    let e := Call.playAll [{ sampleCall with unsent := true }] s card
    InStep s card ∧ InStep e.1 e.2 ∧ (sampleCall.play e.1 e.2).1 = .ok [1, 2] := by
  intro s card e
  have hstart : InStep s card := ⟨samplePeer, rfl, rfl, rfl, rfl⟩
  obtain ⟨hagree, hcalls⟩ := lockstep s card hstart [{ sampleCall with unsent := true }]
  have hvalid : e.1.isValid = true := by decide +kernel
  have hframe : (e.1.protectedFrame sampleCall.settings sampleCall.command).isOk = true := by
    decide +kernel
  refine ⟨hstart, hagree.resolve_left (by simp [e, hvalid]), (hcalls sampleCall).2 _ ?_⟩
  refine ⟨rfl, rfl, ?_, [5], nofun, rfl, by decide⟩
  cases h : e.1.protectedFrame sampleCall.settings sampleCall.command with
  | ok frame => exact ⟨frame, rfl⟩
  | error err =>
    rw [h] at hframe
    cases hframe

end CardLink
