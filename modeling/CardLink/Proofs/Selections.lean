import CardLink.Proofs.Provenance
import CardLink.Proofs.SelectingCard
import CardLink.Proofs.Transitions

/-!
# The application of a session

A handle takes the application of a new session from its own record, and the record follows the
selections that succeeded. The card may be elsewhere: a selection whose answer was lost has moved it
all the same.

1. Only few requests can move the card (`explained_turn`).
2. In every run the record is the last selection that succeeded, and the card is there or has
   strayed since (`tracks_turns`).
3. So the application of a session is that of the card exactly if the card had not strayed
   (`session_application`).
-/

namespace CardLink

/-! ## Turns of a run -/

/-- The application that the handle learns to be selected. -/
def Request.confirms? : Request → Except Error Outcome → Option Aid
  | select aid, .ok _ => some aid
  | _, _ => none

/-- The request authenticates a session when it succeeds: a new one, or the one there is. -/
def Request.authenticates : Request → Bool
  | reauthenticate _ _ _ => true
  | r => r.opens

/-- A request of a run: what came of it, and which application the card had selected before and
after. -/
structure Turn where
  request : Request
  outcome : Except Error Outcome
  found : Aid
  left : Aid

namespace Turn

/-- A new session was made. -/
def opened (t : Turn) : Bool := t.request.opens && t.outcome.isOk

/-- A session was authenticated. -/
def authenticated (t : Turn) : Bool := t.request.authenticates && t.outcome.isOk

def confirmed? (t : Turn) : Option Aid := t.request.confirms? t.outcome

/-- The application that the card went to without the handle learning of it. -/
def strayed? (t : Turn) : Option Aid :=
  if t.left = t.found then none else some t.left

/-- The card stayed where it was, or there is a reason why it moved: a selection that succeeded or
lost its answer, or a command of the caller's own that the card took for one. -/
def Explained (t : Turn) : Prop :=
  t.left = t.found ∨
    (∃ aid, t.request = .select aid ∧ t.left = aid ∧
      (t.outcome.isOk = true ∨
        ∃ fault, t.outcome = .error (.transport fault) ∧ fault.maybeSent = true)) ∨
    ∃ cmd, t.request = .issue cmd ∧ (cmd.code = 0x5A ∨ cmd.code = Chaining.continuation)

end Turn

/-- The application that the handle believes to be selected: the last one that was confirmed. -/
def known (ts : List Turn) : Aid := (ts.filterMap Turn.confirmed?).getLast?.getD .card

/-- The application that the card has strayed to since the last one was confirmed. -/
def strayed (ts : List Turn) : Option Aid :=
  ts.foldl (fun before t => if t.confirmed?.isSome then none else t.strayed? <|> before) none

section

variable {σ : Type}

/-- The turn of a request. -/
def turn (react : Bytes → σ → Bytes × σ) (r : Request) (c : Card) (w : Site σ) : Turn :=
  let e := ((Card.perform r).start c).run (Site.transport react) w
  ⟨r, e.1.1, w.selection.selected, e.2.selection.selected⟩

/-- The turns of a run. -/
def turns (react : Bytes → σ → Bytes × σ) : List Request → Card → Site σ → List Turn
  | [], _, _ => []
  | r :: rs, c, w =>
    let e := ((Card.perform r).start c).run (Site.transport react) w
    turn react r c w :: turns react rs e.1.2 e.2

end

/-! ### What is known -/

theorem known_append (ts : List Turn) (t : Turn) :
    known (ts ++ [t]) = t.confirmed?.getD (known ts) := by
  unfold known
  rw [List.filterMap_append]
  cases h : t.confirmed? <;> simp [h]

theorem known_append_of_none {ts more : List Turn} (h : ∀ t ∈ more, t.confirmed? = none) :
    known (ts ++ more) = known ts := by
  unfold known
  rw [List.filterMap_append, List.filterMap_eq_nil_iff.mpr h, List.append_nil]

theorem strayed_append (ts : List Turn) (t : Turn) :
    strayed (ts ++ [t]) =
      if t.confirmed?.isSome then none else t.strayed? <|> strayed ts := by
  unfold strayed
  rw [List.foldl_append]
  rfl

/-- The card is where it strayed to, or where the handle believes it to be. -/
theorem position_append {ts : List Turn} {t : Turn}
    (hfound : t.found = (strayed ts).getD (known ts))
    (hconfirmed : ∀ aid, t.confirmed? = some aid → t.left = aid) :
    t.left = (strayed (ts ++ [t])).getD (known (ts ++ [t])) := by
  rw [known_append, strayed_append]
  cases h : t.confirmed? with
  | some aid => exact hconfirmed aid h
  | none =>
    unfold Turn.strayed?
    by_cases hsame : t.left = t.found
    · rw [if_pos hsame, hsame, hfound]
      rfl
    · rw [if_neg hsame]
      rfl

/-! ## One request -/

section

variable {σ : Type} {react : Bytes → σ → Bytes × σ} {c : Card} {w : Site σ}

theorem Turn.Explained.left_eq {t : Turn} (h : t.Explained)
    (hauth : t.request.authenticates = true) : t.left = t.found := by
  rcases h with h | ⟨aid, h, -⟩ | ⟨cmd, h, -⟩
  · exact h
  · rw [h] at hauth
    cases hauth
  · rw [h] at hauth
    cases hauth

/-- Frames that are apart from a selection do not move the card. -/
theorem left_eq_of_apart {r : Request} (h : w.selection.Apart r.code) :
    (turn react r c w).left = (turn react r c w).found :=
  Site.selected_of_ledBy ((c.perform_ledBy r).run (Site.transport react) w) h
    (Dialogue.reaches_run _ _ w)

theorem turn_select (react : Bytes → σ → Bytes × σ) (aid : Aid) (c : Card) (w : Site σ) :
    Site.Chooses w.selection.selected aid (turn react (.select aid) c w).outcome
      (turn react (.select aid) c w).left :=
  (Site.select_chooses aid c w).run (Site.transport react) w _ (Dialogue.reaches_run _ _ w)

theorem left_of_confirmed {r : Request} {aid : Aid}
    (h : (turn react r c w).confirmed? = some aid) : (turn react r c w).left = aid := by
  have hconfirms : r.confirms? (turn react r c w).outcome = some aid := h
  cases r with
  | select aid' =>
    have hchooses := turn_select react aid' c w
    cases houtcome : (turn react (.select aid') c w).outcome with
    | ok o =>
      rw [houtcome] at hchooses hconfirms
      cases hconfirms
      exact hchooses
    | error err =>
      rw [houtcome] at hconfirms
      cases hconfirms
  | _ => cases hconfirms

theorem explained_select (aid : Aid) : (turn react (.select aid) c w).Explained := by
  have hchooses := turn_select react aid c w
  unfold Site.Chooses at hchooses
  cases houtcome : (turn react (.select aid) c w).outcome with
  | ok o =>
    rw [houtcome] at hchooses
    exact Or.inr (Or.inl ⟨aid, rfl, hchooses, Or.inl (by rw [houtcome]; rfl)⟩)
  | error err =>
    rw [houtcome] at hchooses
    rcases hchooses with hsame | ⟨hleft, fault, rfl, hsent⟩
    · exact Or.inl hsame
    · exact Or.inr (Or.inl ⟨aid, rfl, hleft, Or.inr ⟨fault, houtcome, hsent⟩⟩)

/-- Without a challenge a second pass has no frames. -/
theorem turn_finishFirst_of_none (hch : c.challenge = none) (key : AesKey) (draw : NonceSource) :
    (turn react (.finishFirst key draw) c w).left = w.selection.selected := by
  have hstart : (Card.perform (.finishFirst key draw)).start c =
      .done (.error (.authenticationFailed .noHandshake), c) := by
    unfold Card.perform
    rw [Card.done_start, Card.finishFirst_start, hch]
    rfl
  unfold turn
  rw [hstart]
  rfl

theorem explained_turn (hch : ∀ ch, c.challenge = some ch →
    w.selection.Apart Chaining.continuation) (r : Request) : (turn react r c w).Explained := by
  cases r with
  | select aid => exact explained_select aid
  | issue cmd =>
    by_cases hcode : cmd.code = 0x5A ∨ cmd.code = Chaining.continuation
    · exact Or.inr (Or.inr ⟨cmd, rfl, hcode⟩)
    · obtain ⟨hselects, hcontinues⟩ := not_or.mp hcode
      exact Or.inl (left_eq_of_apart (w.selection.apart_of_ne hselects hcontinues))
  | finishFirst key draw =>
    cases hchallenge : c.challenge with
    | none => exact Or.inl (turn_finishFirst_of_none hchallenge key draw)
    | some ch => exact Or.inl (left_eq_of_apart (hch ch hchallenge))
  | updateKey u keySet =>
    refine Or.inl (left_eq_of_apart (w.selection.apart_of_ne ?_ ?_))
    · cases keySet <;> simp [Request.code]
    · cases keySet <;> simp [Request.code, Chaining.continuation]
  | _ =>
    refine Or.inl (left_eq_of_apart (w.selection.apart_of_ne ?_ ?_))
    · simp [Request.code]
    · simp [Request.code, Chaining.continuation]

/-! ## One step -/

theorem Request.confirms?_error (r : Request) (err : Error) : r.confirms? (.error err) = none := by
  cases r <;> rfl

theorem Request.confirms?_of_isExchange {r : Request} (hr : r.isExchange = true)
    (outcome : Except Error Outcome) : r.confirms? outcome = none := by
  cases r with
  | select => cases hr
  | _ => rfl

theorem Request.confirms?_of_opens {r : Request} (hr : r.opens = true)
    (outcome : Except Error Outcome) : r.confirms? outcome = none := by
  cases r with
  | select => cases hr
  | _ => rfl

theorem Request.opens_of_isExchange {r : Request} (hr : r.isExchange = true) : r.opens = false := by
  cases r <;> first | rfl | cases hr

/-- A step changes the record of the handle exactly if it confirms an application. -/
theorem Card.Step.application {c' : Card} {r : Request} {T : Transcript}
    {outcome : Except Error Outcome} (h : Card.Step c r T outcome c') :
    c'.application = (r.confirms? outcome).getD c.application := by
  cases h with
  | refused r err =>
    rw [r.confirms?_error]
    rfl
  | failed r T err h =>
    rw [h.application, r.confirms?_error]
    rfl
  | exchanged hr T outcome h =>
    rw [h.application, Request.confirms?_of_isExchange hr]
    rfl
  | opened hr T hkey =>
    rw [Request.confirms?_of_opens hr]
    rfl
  | _ => rfl

/-- The run so far accounts for the record of the handle, the position of the card and the
application of the session. -/
structure Tracks (ts : List Turn) (c : Card) (selection : Selection) : Prop where
  application : c.application = known ts
  position : selection.selected = (strayed ts).getD (known ts)
  challenge : ∀ ch, c.challenge = some ch → selection.Apart Chaining.continuation
  session : ∀ s, c.session = some s → ∃ before t after, ts = before ++ t :: after ∧
    t.opened = true ∧ (∀ t' ∈ after, t'.opened = false ∧ t'.confirmed? = none) ∧
    s.application = known before
  explained : ∀ before t, before ++ [t] <+: ts →
    t.found = (strayed before).getD (known before) ∧ t.Explained

theorem tracks_nil (settings : Settings) : Tracks [] { settings } {} where
  application := rfl
  position := rfl
  challenge ch hch := by cases hch
  session s hs := by cases hs
  explained before t h := by simp at h

/-- A turn that neither makes a session nor confirms a selection adds nothing to where the session
comes from. -/
theorem Tracks.session_append {ts : List Turn} {selection : Selection} {r : Request}
    {outcome : Except Error Outcome} (h : Tracks ts c selection)
    (hopened : (r.opens && outcome.isOk) = false) (hconfirms : r.confirms? outcome = none)
    {s : Session} (hs : c.session = some s) (found left : Aid) :
    ∃ before t after, ts ++ [⟨r, outcome, found, left⟩] = before ++ t :: after ∧
      t.opened = true ∧ (∀ t' ∈ after, t'.opened = false ∧ t'.confirmed? = none) ∧
      s.application = known before := by
  obtain ⟨before, t, after, rfl, hopens, hafter, happ⟩ := h.session s hs
  refine ⟨before, t, after ++ [⟨r, outcome, found, left⟩], by simp, hopens, ?_, happ⟩
  intro t' ht'
  rcases List.mem_append.mp ht' with ht' | ht'
  · exact hafter t' ht'
  · rw [List.mem_singleton.mp ht']
    exact ⟨hopened, hconfirms⟩

/-- A challenge stays apart from selections: the card asked for its proof itself. -/
theorem Tracks.challenge_step {ts : List Turn} (h : Tracks ts c w.selection) {c' : Card}
    {w' : Site σ} {r : Request} {T : Transcript} {outcome : Except Error Outcome} {bound : Nat}
    (hstep : Card.Step c r T outcome c') (hled : LedBy bound r.code T)
    (hreach : Dialogue.Reaches (Site.transport react) w T w') :
    ∀ ch, c'.challenge = some ch → w'.selection.Apart Chaining.continuation := by
  intro ch hch
  cases hstep with
  | refused r err =>
    cases hreach
    exact h.challenge ch hch
  | failed r T err hc =>
    rw [hc.challenge] at hch
    cases hch
  | exchanged hr T outcome hc =>
    rw [hc.challenge] at hch
    cases hch
  | @challenged keyNo nonce frame hkey hlength =>
    obtain ⟨⟨rest, rfl, -⟩, -⟩ := hled
    obtain ⟨hr, rfl⟩ := hreach
    have hafter : (Site.transmit react _ w).2.selection = _ := Site.transmit_ok hr
    have hfirst : w.selection.Apart 0x71 := w.selection.apart_of_ne (by decide) (by decide)
    show (Site.transmit react _ w).2.selection.Apart _
    rw [hafter]
    exact hfirst.after rest nonce
  | _ => cases hch

/-- The session of a handle comes from the last turn that made one. -/
theorem Tracks.session_step {ts : List Turn} {selection : Selection} (h : Tracks ts c selection)
    {c' : Card} {r : Request} {T : Transcript} {outcome : Except Error Outcome}
    (hstep : Card.Step c r T outcome c') (found left : Aid) :
    ∀ s, c'.session = some s → ∃ before t after, ts ++ [⟨r, outcome, found, left⟩] =
      before ++ t :: after ∧ t.opened = true ∧
      (∀ t' ∈ after, t'.opened = false ∧ t'.confirmed? = none) ∧ s.application = known before := by
  intro s hs
  cases hstep with
  | refused r err => exact h.session_append (Bool.and_false _) (r.confirms?_error err) hs _ _
  | failed r T err hc =>
    obtain ⟨s₀, p, hs₀, rfl⟩ := hc.session s hs
    exact h.session_append (Bool.and_false _) (r.confirms?_error err) hs₀ _ _
  | exchanged hr T outcome hc =>
    obtain ⟨s₀, p, hs₀, rfl⟩ := hc.session s hs
    have hopened : (r.opens && outcome.isOk) = false := by
      rw [Request.opens_of_isExchange hr, Bool.false_and]
    exact h.session_append hopened (Request.confirms?_of_isExchange hr outcome) hs₀ _ _
  | opened hr T hkey =>
    cases hs
    refine ⟨ts, _, [], rfl, ?_, fun t' ht' => (List.not_mem_nil ht').elim, h.application⟩
    exact Bool.and_eq_true_iff.mpr ⟨hr, rfl⟩
  | @renewed keyNo key draw T s₀ p hs₀ hkey =>
    cases hs
    have hopened : ((Request.reauthenticate keyNo key draw).opens && true) = false := rfl
    exact h.session_append hopened rfl hs₀ _ _
  | _ => cases hs

theorem tracks_turn {ts : List Turn} (h : Tracks ts c w.selection) (r : Request) :
    let e := ((Card.perform r).start c).run (Site.transport react) w
    Tracks (ts ++ [turn react r c w]) e.1.2 e.2.selection := by
  intro e
  have hstep : Card.Step c r _ e.1.1 e.1.2 := (c.steps_perform r).run (Site.transport react) w
  have hled := (c.perform_ledBy r).run (Site.transport react) w
  have hreach := Dialogue.reaches_run (Site.transport react) ((Card.perform r).start c) w
  have hexplained : (turn react r c w).Explained := explained_turn h.challenge r
  constructor
  · rw [known_append, hstep.application, h.application]
    rfl
  · exact position_append h.position fun aid => left_of_confirmed
  · exact h.challenge_step hstep hled hreach
  · exact h.session_step hstep _ _
  · intro before t hpart
    rcases List.prefix_concat_iff.mp hpart with heq | hpart
    · obtain ⟨rfl, hlast⟩ := List.append_inj' heq rfl
      obtain rfl := List.singleton_inj.mp hlast
      exact ⟨h.position, hexplained⟩
    · exact h.explained before t hpart

/-! ## Runs -/

theorem tracks_turns {ts : List Turn} (h : Tracks ts c w.selection) (rs : List Request) :
    let e := (Card.performAll rs c).run (Site.transport react) w
    Tracks (ts ++ turns react rs c w) e.1.2 e.2.selection := by
  induction rs generalizing ts c w with
  | nil =>
    show Tracks (ts ++ []) c w.selection
    rw [List.append_nil]
    exact h
  | cons r rs ih =>
    have hturn : Tracks (ts ++ [turn react r c w]) _ _ := tracks_turn h r
    have hrest := ih hturn
    rw [List.append_assoc] at hrest
    unfold turns Card.performAll
    simp only [Dialogue.run_bind]
    exact hrest

/-- What is known and where the card has strayed to tell whether the card is where the handle
believes it to be. -/
theorem known_eq_position_iff (known : Aid) (strayed : Option Aid) :
    known = strayed.getD known ↔ ∀ aid, strayed = some aid → aid = known := by
  cases strayed with
  | none => simp
  | some aid => simp [eq_comm]

/-- **The application of a session.** Whatever a card answers and whatever the line loses: the
session of a handle comes from the last turn that made one, and its application is the one that the
handle knew before that turn. Whenever the session was authenticated, then or later, it is the
application that the card had selected exactly if the card had not strayed to another one since the
last selection that succeeded. The card moves only in a selection that succeeds or loses its answer,
and in a command of the caller's own that begins like one or continues it. -/
theorem session_application (react : Bytes → σ → Bytes × σ) (card : σ) (fates : List (Option Fate))
    (settings : Settings) (rs : List Request) (s : Session)
    (hs : ((Card.performAll rs { settings }).run (Site.transport react)
      { card, fates }).1.2.session = some s) :
    let ts := turns react rs { settings } { card, fates }
    (∃ before t after, ts = before ++ t :: after ∧ t.opened = true ∧
      (∀ t' ∈ after, t'.opened = false) ∧ s.application = known before ∧
      ∀ mid t' rest, t :: after = mid ++ t' :: rest → t'.authenticated = true →
        (s.application = t'.left ↔
          ∀ aid, strayed (before ++ mid) = some aid → aid = s.application)) ∧
    ∀ t ∈ ts, t.Explained := by
  intro ts
  have h : Tracks ([] ++ turns react rs { settings } { card, fates }) _ _ :=
    tracks_turns (tracks_nil settings) rs
  rw [List.nil_append] at h
  obtain ⟨before, t, after, hts, hopened, hafter, happ⟩ := h.session s hs
  refine ⟨⟨before, t, after, hts, hopened, fun t' ht' => (hafter t' ht').1, happ, ?_⟩, ?_⟩
  · intro mid t' rest hmid hauth
    have hpart : (before ++ mid) ++ [t'] <+: turns react rs { settings } { card, fates } :=
      ⟨rest, by rw [hts, hmid]; simp⟩
    obtain ⟨hfound, hexplained⟩ := h.explained (before ++ mid) t' hpart
    have hleft : t'.left = t'.found :=
      hexplained.left_eq (Bool.and_eq_true_iff.mp hauth).1
    have hmid' : ∀ u ∈ mid, u.confirmed? = none := by
      intro u hu
      have hu' : u ∈ t :: after := hmid ▸ List.mem_append_left _ hu
      rcases List.mem_cons.mp hu' with rfl | hu'
      · exact Request.confirms?_of_opens (Bool.and_eq_true_iff.mp hopened).1 _
      · exact (hafter u hu').2
    rw [hleft, hfound, known_append_of_none hmid', happ]
    exact known_eq_position_iff _ _
  · intro t ht
    obtain ⟨before, after, hts⟩ := List.append_of_mem ht
    exact (h.explained before t ⟨after, by rw [List.append_assoc]; exact hts.symm⟩).2

end

/-! ### A selection before a first authentication -/

/-- A card that has its answers ready. -/
def scripted (_ : Bytes) (answers : List Bytes) : Bytes × List Bytes :=
  (answers.headD [], answers.tail)

/-- A card that first selects an application and then authenticates. -/
def selectingAnswers : List Bytes :=
  [CardStatus.ok] :: Card.sampleReplies.filterMap Except.toOption

def sampleAid : Aid := ⟨[1, 2, 3], rfl⟩

theorem session_application_selecting :
    let rs : List Request := [.select sampleAid, Card.sampleOpening]
    ∃ s, ((Card.performAll rs { settings := {} }).run (Site.transport scripted)
        { card := selectingAnswers }).1.2.session = some s ∧ s.application = sampleAid ∧
      ∃ before t after, turns scripted rs { settings := {} } { card := selectingAnswers } =
        before ++ t :: after ∧ t.opened = true ∧ s.application = known before := by
  intro rs
  have happ : ((Card.performAll rs { settings := {} }).run (Site.transport scripted)
      { card := selectingAnswers }).1.2.session.map Session.application = some sampleAid := by
    decide +kernel
  obtain ⟨s, hs, happ⟩ := Option.map_eq_some_iff.mp happ
  obtain ⟨⟨before, t, after, hts, hopened, -, hknown, -⟩, -⟩ :=
    session_application scripted selectingAnswers [] {} rs s hs
  exact ⟨s, hs, happ, before, t, after, hts, hopened, hknown⟩

/-- The card selects an application, but its answer is lost. The session made after that is valid
and for another application than the card had selected then. -/
theorem session_application_after_loss :
    let rs : List Request := [.select sampleAid, Card.sampleOpening]
    let w : Site (List Bytes) :=
      { card := selectingAnswers, fates := [some (.answerLost .timeout rfl)] }
    ((Card.performAll rs { settings := {} }).run (Site.transport scripted) w).1.2.session.map
        (fun s => (s.isValid, s.application)) = some (true, .card) ∧
      (turns scripted rs { settings := {} } w).map Turn.left = [sampleAid, sampleAid] ∧
      sampleAid ≠ .card := by
  decide +kernel

end CardLink
