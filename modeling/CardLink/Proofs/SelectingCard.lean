import Mathlib.Data.List.Basic
import CardLink.Proofs.Frames
import CardLink.Proofs.HonestCard
import CardLink.Proofs.NoDowngrade

/-!
# A card that selects applications

Of this card nothing is known but when it switches to another application: when it answers with
success to a command that selects one. The line to it may lose frames and answers. So the host
cannot always tell whether the card has switched.

1. Frames of another command leave the selection as it was (`selected_of_ledBy`).
2. After a selection that succeeds the card has switched, and after one that fails it has not,
   unless the line lost something (`select_chooses`).
-/

namespace CardLink

/-! ## The card -/

/-- The application that a card has selected, and the command at hand. -/
structure Selection where
  selected : Aid := .card
  /-- The bytes of the command, while the card asks for more of it or has more of its answer. -/
  gathered : Bytes := []
  deriving DecidableEq

namespace Selection

/-- The command that a frame belongs to, as far as the frame brings it. -/
def commandWith (s : Selection) : Bytes → Bytes
  | [] => []
  | code :: piece =>
    if code = Chaining.continuation ∧ s.gathered ≠ [] then s.gathered ++ piece else code :: piece

/-- The application that a command selects. -/
def target? : Bytes → Option Aid
  | [] => none
  | code :: aid => if h : code = 0x5A ∧ aid.length = 3 then some ⟨aid, h.2⟩ else none

/-- The card has answered a frame. With a success the command is carried out. -/
def after (s : Selection) (frame : Bytes) : Bytes → Selection
  | [] => { s with gathered := [] }
  | status :: _ =>
    if status = CardStatus.additionalFrame then { s with gathered := s.commandWith frame }
    else if status = CardStatus.ok then
      { selected := (target? (s.commandWith frame)).getD s.selected }
    else { s with gathered := [] }

end Selection

/-! ## The line -/

/-- A card, what it has selected, and what the line does with the frames to come; a frame that comes
later arrives. A frame without a fate meets no connection. -/
structure Site (σ : Type) where
  card : σ
  selection : Selection := {}
  fates : List (Option Fate) := []

namespace Site

variable {σ : Type}

/-- The card does not see a frame. -/
def miss (w : Site σ) : Site σ := { w with fates := w.fates.tail }

/-- The card answers a frame; `react` is how. -/
def serve (react : Bytes → σ → Bytes × σ) (frame : Bytes) (w : Site σ) : Site σ :=
  { w.miss with
    card := (react frame w.card).2
    selection := w.selection.after frame (react frame w.card).1 }

/-- A frame on the line. -/
def transmit (react : Bytes → σ → Bytes × σ) (frame : Bytes) (w : Site σ) : Delivery × Site σ :=
  match w.fates.headD (some .arrives) with
  | none => (.error .notConnected, w.miss)
  | some .arrives => (.ok (react frame w.card).1, w.serve react frame)
  | some (.frameLost fault _) => (.error fault, w.miss)
  | some (.answerLost fault _) => (.error fault, w.serve react frame)

/-- The line as the host sees it. -/
def transport (react : Bytes → σ → Bytes × σ) : Transport (Site σ) where
  transmit := transmit react
  isConnected _ := true
  reset w := (.ok (), w)

end Site

/-! ## One frame -/

namespace Selection

variable {s : Selection} {code : UInt8} {frame answer : Bytes}

theorem commandWith_cons (s : Selection) (code : UInt8) (piece : Bytes) :
    s.commandWith (code :: piece) =
      if code = Chaining.continuation ∧ s.gathered ≠ [] then s.gathered ++ piece
      else code :: piece := rfl

theorem after_cons (s : Selection) (frame : Bytes) (status : UInt8) (data : Bytes) :
    s.after frame (status :: data) =
      if status = CardStatus.additionalFrame then { s with gathered := s.commandWith frame }
      else if status = CardStatus.ok then
        { selected := (target? (s.commandWith frame)).getD s.selected }
      else { s with gathered := [] } := rfl

theorem target?_cons (code : UInt8) (aid : Bytes) :
    target? (code :: aid) =
      if h : code = 0x5A ∧ aid.length = 3 then some ⟨aid, h.2⟩ else none := rfl

theorem commandWith_ne_nil (hframe : frame ≠ []) : s.commandWith frame ≠ [] := by
  obtain ⟨code, piece, rfl⟩ := List.exists_cons_of_ne_nil hframe
  rw [commandWith_cons]
  split_ifs with h
  · exact List.append_ne_nil_of_left_ne_nil h.2 piece
  · exact List.cons_ne_nil code piece

/-- A continuation adds to the command that the card asked for more of. -/
theorem commandWith_after (hcommand : s.commandWith frame ≠ []) (data piece : Bytes) :
    (s.after frame (CardStatus.additionalFrame :: data)).commandWith
      (Chaining.continuation :: piece) = s.commandWith frame ++ piece :=
  if_pos ⟨rfl, hcommand⟩

/-- A card switches only with a success. -/
theorem selected_after (s : Selection) (frame answer : Bytes) :
    (s.after frame answer).selected = s.selected ∨
      ∃ aid data, answer = CardStatus.ok :: data ∧ target? (s.commandWith frame) = some aid ∧
        (s.after frame answer).selected = aid := by
  rcases answer with _ | ⟨status, data⟩
  · exact Or.inl rfl
  · rw [after_cons]
    split_ifs with hmore hok
    · exact Or.inl rfl
    · cases htarget : target? (s.commandWith frame) with
      | none => exact Or.inl rfl
      | some aid => exact Or.inr ⟨aid, data, by rw [hok], rfl, rfl⟩
    · exact Or.inl rfl

/-- A frame that begins with the code is no part of a selection. -/
def Apart (s : Selection) (code : UInt8) : Prop :=
  code ≠ 0x5A ∧ (code = Chaining.continuation → s.gathered.head? ≠ some 0x5A)

theorem apart_of_ne (s : Selection) (hselects : code ≠ 0x5A)
    (hcontinues : code ≠ Chaining.continuation) : s.Apart code :=
  ⟨hselects, fun h => absurd h hcontinues⟩

theorem head?_commandWith (h : s.Apart code) (piece : Bytes) :
    (s.commandWith (code :: piece)).head? ≠ some 0x5A := by
  rw [commandWith_cons]
  split_ifs with hcontinues
  · rw [List.head?_append_of_ne_nil _ hcontinues.2]
    exact h.2 hcontinues.1
  · exact fun hhead => h.1 (Option.some.inj hhead)

theorem target?_eq_none {command : Bytes} (h : command.head? ≠ some 0x5A) :
    target? command = none := by
  cases command with
  | nil => rfl
  | cons code aid => exact dif_neg fun hselects => h (congrArg some hselects.1)

theorem Apart.selected_after (h : s.Apart code) (piece answer : Bytes) :
    (s.after (code :: piece) answer).selected = s.selected := by
  rcases s.selected_after (code :: piece) answer with hsame | ⟨aid, data, -, htarget, -⟩
  · exact hsame
  · rw [target?_eq_none (head?_commandWith h piece)] at htarget
    cases htarget

/-- What continues a command that is no selection is no part of one either. -/
theorem Apart.after (h : s.Apart code) (piece data : Bytes) :
    (s.after (code :: piece) (CardStatus.additionalFrame :: data)).Apart Chaining.continuation :=
  ⟨by decide, fun _ => head?_commandWith h piece⟩

end Selection

namespace Site

variable {σ : Type} {react : Bytes → σ → Bytes × σ} {w w' : Site σ} {frame : Bytes}

theorem transmit_ok {answer : Bytes} (h : (transmit react frame w).1 = .ok answer) :
    (transmit react frame w).2.selection = w.selection.after frame answer := by
  unfold transmit at h ⊢
  generalize w.fates.headD (some .arrives) = fate at h ⊢
  rcases fate with _ | _ | _ | _ <;> cases h
  rfl

/-- After a fault the card has not seen the frame, or has answered it. -/
theorem transmit_error {fault : TransportFault} (h : (transmit react frame w).1 = .error fault) :
    (transmit react frame w).2.selection = w.selection ∨
      fault.maybeSent = true ∧
        ∃ answer, (transmit react frame w).2.selection = w.selection.after frame answer := by
  unfold transmit at h ⊢
  generalize w.fates.headD (some .arrives) = fate at h ⊢
  rcases fate with _ | _ | _ | ⟨fault', hsent⟩ <;> cases h
  · exact Or.inl rfl
  · exact Or.inl rfl
  · exact Or.inr ⟨hsent, _, rfl⟩

/-! ## Frames of another command -/

theorem selected_transmit {code : UInt8} (h : w.selection.Apart code) (piece : Bytes) :
    (transmit react (code :: piece) w).2.selection.selected = w.selection.selected := by
  cases hr : (transmit react (code :: piece) w).1 with
  | ok answer =>
    rw [transmit_ok hr]
    exact h.selected_after piece answer
  | error fault =>
    rcases transmit_error hr with hsame | ⟨-, answer, hafter⟩
    · rw [hsame]
    · rw [hafter]
      exact h.selected_after piece answer

/-- Frames of a command that is no selection leave the selection as it was. -/
theorem selected_of_ledBy {bound : Nat} {code : UInt8} {T : Transcript} (hled : LedBy bound code T)
    (h : w.selection.Apart code) (hreach : Dialogue.Reaches (transport react) w T w') :
    w'.selection.selected = w.selection.selected := by
  induction T generalizing code w with
  | nil =>
    cases hreach
    rfl
  | cons e T ih =>
    obtain ⟨frame, r⟩ := e
    obtain ⟨⟨piece, rfl, -⟩, hasks, hled⟩ := hled
    obtain ⟨hr, hreach⟩ := hreach
    have hfirst : (transmit react (code :: piece) w).2.selection.selected =
        w.selection.selected := selected_transmit h piece
    by_cases hnil : T = []
    · subst hnil
      cases hreach
      exact hfirst
    · obtain ⟨data, rfl⟩ := hasks hnil
      have hapart := h.after piece data
      rw [← transmit_ok hr] at hapart
      exact (ih hled hapart hreach).trans hfirst

/-! ## Selections -/

/-- The outcome of a selection as far as it shows where the card is: a success says that it has
switched, an error that it has not, or that the line lost what would have said so. -/
def Chooses {α : Type} (old aid : Aid) (r : Except Error α) (new : Aid) : Prop :=
  match r with
  | .ok _ => new = aid
  | .error err => new = old ∨ new = aid ∧ ∃ fault, err = .transport fault ∧ fault.maybeSent = true

/-- The bytes of a command that selects an application. -/
def selecting (aid : Aid) : Bytes := 0x5A :: aid.toList

theorem target?_selecting (aid : Aid) : Selection.target? (selecting aid) = some aid :=
  dif_pos ⟨rfl, aid.length_toList⟩

/-- No proper part of such a command selects anything. -/
theorem target?_part {aid aid' : Aid} {part more : Bytes} (h : part ++ more = selecting aid)
    (htarget : Selection.target? part = some aid') : aid' = aid ∧ more = [] := by
  have hlength : part.length + more.length = 4 := by
    rw [← List.length_append, h, selecting, List.length_cons, aid.length_toList]
  have hmore : more = [] := by
    cases part with
    | nil => cases htarget
    | cons code rest =>
      rw [Selection.target?_cons] at htarget
      split_ifs at htarget with hselects
      have hrest := hselects.2
      rw [List.length_cons] at hlength
      exact List.eq_nil_of_length_eq_zero (by omega)
  subst hmore
  rw [List.append_nil] at h
  rw [h, target?_selecting] at htarget
  cases htarget
  exact ⟨rfl, rfl⟩

variable {aid : Aid}

/-- A frame of the command: the card stays where it was, or it has answered the last one with
success and has switched. -/
theorem selected_after_part {s : Selection} {more : Bytes}
    (hcommand : s.commandWith frame ++ more = selecting aid) (answer : Bytes) :
    (s.after frame answer).selected = s.selected ∨
      more = [] ∧ (∃ data, answer = CardStatus.ok :: data) ∧
        (s.after frame answer).selected = aid := by
  rcases s.selected_after frame answer with hsame | ⟨aid', data, hanswer, htarget, hselected⟩
  · exact Or.inl hsame
  · obtain ⟨rfl, hmore⟩ := target?_part hcommand htarget
    exact Or.inr ⟨hmore, ⟨data, hanswer⟩, hselected⟩

/-- A fault at a frame of the command. -/
theorem chooses_of_fault {α : Type} {more : Bytes} {fault : TransportFault}
    (hcommand : w.selection.commandWith frame ++ more = selecting aid)
    (h : (transmit react frame w).1 = .error fault) :
    Chooses w.selection.selected aid (.error (.transport fault) : Except Error α)
      (transmit react frame w).2.selection.selected := by
  rcases transmit_error h with hsame | ⟨hsent, answer, hafter⟩
  · exact Or.inl (congrArg Selection.selected hsame)
  · rw [hafter]
    rcases selected_after_part hcommand answer with hsame | ⟨-, -, hselected⟩
    · exact Or.inl hsame
    · exact Or.inr ⟨hselected, fault, rfl, hsent⟩

/-- The card is where it was, or it has answered the whole of the command. -/
def Awaits (old aid : Aid) (answer : Bytes) (new : Selection) : Prop :=
  ∃ (s : Selection) (frame : Bytes),
    s.selected = old ∧ s.commandWith frame = selecting aid ∧ new = s.after frame answer

/-- Sending the command. -/
theorem sent_chooses {first : Bytes} {rest : List Bytes} {T : Transcript} {r : Except Error Bytes}
    (h : Chaining.SendPlay first rest T r) (hfirst : first ≠ [])
    (hrest : ∀ frame ∈ rest, ∃ q, q ≠ [] ∧ frame = Chaining.continuation :: q)
    (hcommand : w.selection.commandWith first ++ (rest.map List.tail).flatten = selecting aid)
    (hreach : Dialogue.Reaches (transport react) w T w') :
    (∀ answer, r = .ok answer → Awaits w.selection.selected aid answer w'.selection) ∧
      ∀ err, r = .error err →
        Chooses w.selection.selected aid (.error err : Except Error Reply)
          w'.selection.selected := by
  induction h generalizing w with
  | fault first rest fault =>
    obtain ⟨hr, rfl⟩ := hreach
    refine ⟨fun _ h => (by cases h), ?_⟩
    rintro err ⟨⟩
    exact chooses_of_fault hcommand hr
  | last first answer =>
    obtain ⟨hr, rfl⟩ := hreach
    rw [List.map_nil, List.flatten_nil, List.append_nil] at hcommand
    refine ⟨?_, fun _ h => (by cases h)⟩
    rintro answer ⟨⟩
    exact ⟨w.selection, first, rfl, hcommand, transmit_ok hr⟩
  | @stopped first next rest answer err h =>
    obtain ⟨hr, rfl⟩ := hreach
    obtain ⟨q, hq, rfl⟩ := hrest next List.mem_cons_self
    refine ⟨fun _ h => (by cases h), ?_⟩
    rintro err ⟨⟩
    have hafter : (transmit react first w).2.selection = _ := transmit_ok hr
    rcases selected_after_part hcommand answer with hsame | ⟨hmore, -⟩
    · exact Or.inl ((congrArg Selection.selected hafter).trans hsame)
    · exact absurd (List.append_eq_nil_iff.mp hmore).1 hq
  | @next first next rest answer T r h hplay ih =>
    obtain ⟨hr, hreach⟩ := hreach
    obtain ⟨⟨q, -, rfl⟩, hrest'⟩ := List.forall_mem_cons.mp hrest
    obtain ⟨data, hdata⟩ := Chaining.asks_of_checkContinues h
    cases hdata
    have hafter : (transmit react first w).2.selection = _ := transmit_ok hr
    have hcommand' : (transmit react first w).2.selection.commandWith
        (Chaining.continuation :: q) ++ (rest.map List.tail).flatten = selecting aid := by
      have hne := Selection.commandWith_ne_nil (s := w.selection) hfirst
      rw [hafter, Selection.commandWith_after hne, List.append_assoc]
      exact hcommand
    have hsame : (transmit react first w).2.selection.selected = w.selection.selected := by
      rw [hafter]
      rfl
    rw [← hsame]
    exact ih (List.cons_ne_nil _ _) hrest' hcommand' hreach

theorem selecting_ne_nil (aid : Aid) : selecting aid ≠ [] := List.cons_ne_nil _ _

/-- Asking for more of the answer is still part of the command. -/
theorem commandWith_asking {s : Selection} {data : Bytes}
    (hcommand : s.commandWith frame = selecting aid) :
    (s.after frame (CardStatus.additionalFrame :: data)).commandWith [Chaining.continuation] =
      selecting aid := by
  rw [Selection.commandWith_after (hcommand ▸ selecting_ne_nil aid), hcommand, List.append_nil]

/-- Collecting the answer to the command. -/
theorem collected_chooses {limit more : Nat} {before answer : Bytes} {T : Transcript}
    {r : Except Error Reply} {old : Aid} (h : Chaining.CollectPlay limit more before answer T r)
    (hsent : Awaits old aid answer w.selection)
    (hreach : Dialogue.Reaches (transport react) w T w') :
    Chooses old aid r w'.selection.selected := by
  obtain ⟨s, frame, rfl, hcommand, hselection⟩ := hsent
  induction h generalizing w s frame with
  | empty more before =>
    cases hreach
    rw [hselection]
    exact Or.inl rfl
  | @refused more before status data err h =>
    cases hreach
    rw [hselection]
    have hwhole := (List.append_nil _).trans hcommand
    rcases selected_after_part hwhole (status :: data) with hsame | ⟨-, ⟨data', hdata⟩, -⟩
    · exact Or.inl hsame
    · cases hdata
      cases h
  | last more before data =>
    cases hreach
    rw [hselection, Selection.after_cons, if_neg (by decide), if_pos rfl, hcommand,
      target?_selecting]
    rfl
  | exceeded before data =>
    cases hreach
    rw [hselection]
    exact Or.inl rfl
  | fault more before data fault =>
    obtain ⟨hr, rfl⟩ := hreach
    have hasking : w.selection.commandWith [Chaining.continuation] ++ [] = selecting aid := by
      rw [List.append_nil, hselection, commandWith_asking hcommand]
    have hsame : w.selection.selected = s.selected := by
      rw [hselection]
      rfl
    rw [← hsame]
    exact chooses_of_fault hasking hr
  | @next more before data answer T r h ih =>
    obtain ⟨hr, hreach⟩ := hreach
    have hasking : w.selection.commandWith [Chaining.continuation] = selecting aid := by
      rw [hselection, commandWith_asking hcommand]
    have hsame : w.selection.selected = s.selected := by
      rw [hselection]
      rfl
    rw [← hsame]
    exact ih hreach w.selection [Chaining.continuation] hasking (transmit_ok hr)

/-- A round trip with the command. -/
theorem RoundTripPlay.chooses {settings : Settings} {T : Transcript} {r : Except Error Reply}
    (h : Chaining.RoundTripPlay settings (selecting aid) T r) (hmax : 2 ≤ settings.maxFrameLength)
    (hreach : Dialogue.Reaches (transport react) w T w') :
    Chooses w.selection.selected aid r w'.selection.selected := by
  have hfirst : (selecting aid).take settings.maxFrameLength =
      0x5A :: aid.toList.take (settings.maxFrameLength - 1) := List.take_cons (by omega)
  have hne : (selecting aid).take settings.maxFrameLength ≠ [] := by
    rw [hfirst]
    exact List.cons_ne_nil _ _
  have hrest : ∀ frame ∈ Chaining.followers settings.maxFrameLength (selecting aid),
      ∃ q, q ≠ [] ∧ frame = Chaining.continuation :: q := by
    intro frame hframe
    obtain ⟨q, hq, rfl⟩ := List.mem_map.mp hframe
    exact ⟨q, Chaining.ne_nil_of_mem_pieces hq, rfl⟩
  have hcommand : w.selection.commandWith ((selecting aid).take settings.maxFrameLength) ++
      ((Chaining.followers settings.maxFrameLength (selecting aid)).map List.tail).flatten =
        selecting aid := by
    rw [hfirst, Selection.commandWith_cons, if_neg (fun h => absurd h.1 (by decide)), ← hfirst]
    exact Chaining.assemble_chunks settings.maxFrameLength (selecting aid)
  cases h with
  | threshold hshort => exact absurd hmax (Nat.not_le_of_lt hshort)
  | unsent h => exact (sent_chooses h hne hrest hcommand hreach).2 _ rfl
  | sent h h' =>
    obtain ⟨mid, hreach, hreach'⟩ := Dialogue.reaches_append.mp hreach
    exact collected_chooses h' ((sent_chooses h hne hrest hcommand hreach).1 _ rfl) hreach'

/-- **Selecting an application.** When a selection succeeds the card has switched to the
application. When it fails the card has not switched, unless it fails for a frame or answer that was
lost: then the card may have switched all the same. -/
theorem select_chooses (aid : Aid) (c : Card) (w : Site σ) :
    ((Card.perform (.select aid)).start c).Plays fun T e => ∀ w',
      Dialogue.Reaches (transport react) w T w' →
        Chooses w.selection.selected aid e.1 w'.selection.selected := by
  have hclear : (Card.selectCommand aid).clearFrame = selecting aid := List.append_nil _
  unfold Card.perform
  rw [Card.done_start, Dialogue.plays_bind_done, Card.select_start, Dialogue.plays_bind, hclear]
  refine (Chaining.roundTrip_plays_cases c.settings (selecting aid)).mono ?_
  intro T r h
  have hchooses : ∀ w', Dialogue.Reaches (transport react) w T w' →
      Chooses w.selection.selected aid r w'.selection.selected := by
    intro w' hreach
    rcases h with ⟨hmax, h⟩ | ⟨rfl, err, rfl⟩
    · exact RoundTripPlay.chooses h hmax hreach
    · cases hreach
      exact Or.inl rfl
  cases r with
  | error err =>
    simp only [Dialogue.plays_done, List.append_nil]
    exact hchooses
  | ok reply =>
    simp only [Dialogue.plays_done, List.append_nil]
    exact hchooses

end Site

end CardLink
