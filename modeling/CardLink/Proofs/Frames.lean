import CardLink.Proofs.CommandRequests
import CardLink.Proofs.ExchangePlays
import CardLink.Proofs.LegacyAuthentication

/-!
# The frames of a request

All frames of a request belong together: the first one begins with the code of the request, and
every further one is a continuation that the card asked for. None of them is empty, and none is
longer than the settings allow or a handshake needs.

1. So it is for the pieces of a command and the requests for more of its answer
   (`RoundTripPlay.ledBy`).
2. So it is for the passes of a handshake, since a challenge asks for its proof (`passes_ledBy`).
3. Every request is made of these (`perform_ledBy`).
-/

namespace CardLink

/-- The byte that the first frame of a request begins with. -/
def Request.code : Request → UInt8
  | startFirst _ | authenticate _ _ _ => 0x71
  | finishFirst _ _ => Chaining.continuation
  | reauthenticate _ _ _ => 0x77
  | authenticateLegacy _ _ _ => 0x1A
  | issue cmd => cmd.code
  | select _ => 0x5A
  | applicationIds => 0x6A
  | version => 0x60
  | uid => 0x51
  | keySettings => 0x45
  | replaceKeySettings _ => 0x54
  | keyVersion _ => 0x64
  | updateKey _ keySet => if keySet.isSome then 0xC6 else 0xC4
  | readRange _ _ _ _ => 0xAD
  | writeRange _ _ _ _ => 0x8D
  | commit => 0xC7
  | format => 0xFC
  | configure _ _ => 0x5C

variable {α β : Type} {code : UInt8} {bound : Nat} {T T' : Transcript}

/-! ## Frames that belong together -/

/-- The frame begins with the code and has at most `bound` bytes. -/
def Headed (code : UInt8) (bound : Nat) (frame : Bytes) : Prop :=
  ∃ rest, frame = code :: rest ∧ frame.length ≤ bound

/-- The card announces a further frame, or asks for one. -/
def Asks (r : Delivery) : Prop := ∃ data, r = .ok (CardStatus.additionalFrame :: data)

/-- The first frame begins with the code. Every further one is a continuation, and the card asked
for it in its answer to the frame before. -/
def LedBy (bound : Nat) : UInt8 → Transcript → Prop
  | _, [] => True
  | code, (frame, r) :: T =>
    Headed code bound frame ∧ (T ≠ [] → Asks r) ∧ LedBy bound Chaining.continuation T

/-- The last frame was answered by asking for a further one. -/
def EndsAsking (T : Transcript) : Prop := ∃ before frame r, T = before ++ [(frame, r)] ∧ Asks r

theorem ledBy_single {frame : Bytes} (h : Headed code bound frame) (r : Delivery) :
    LedBy bound code [(frame, r)] :=
  ⟨h, fun hne => absurd rfl hne, trivial⟩

theorem Headed.mono {bound' : Nat} {frame : Bytes} (h : Headed code bound frame)
    (hbound : bound ≤ bound') : Headed code bound' frame := by
  obtain ⟨rest, hframe, hlength⟩ := h
  exact ⟨rest, hframe, Nat.le_trans hlength hbound⟩

theorem LedBy.mono {bound' : Nat} (h : LedBy bound code T) (hbound : bound ≤ bound') :
    LedBy bound' code T := by
  induction T generalizing code with
  | nil => trivial
  | cons e T ih => exact ⟨h.1.mono hbound, h.2.1, ih h.2.2⟩

/-- What the card asked for may follow. -/
theorem LedBy.append (h : LedBy bound code T) (h' : LedBy bound Chaining.continuation T')
    (hjoin : T' ≠ [] → EndsAsking T) : LedBy bound code (T ++ T') := by
  by_cases hnil : T' = []
  · rw [hnil, List.append_nil]
    exact h
  obtain ⟨before, frame, r, rfl, hr⟩ := hjoin hnil
  induction before generalizing code with
  | nil => exact ⟨h.1, fun _ => hr, h'⟩
  | cons e before ih =>
    have hne : before ++ [(frame, r)] ≠ [] := List.append_ne_nil_of_right_ne_nil _ (by simp)
    exact ⟨h.1, fun _ => h.2.1 hne, ih h.2.2 fun _ => ⟨before, frame, r, rfl, hr⟩⟩

/-- Frames that belong together are not empty and keep the bound. -/
theorem LedBy.fits (h : LedBy bound code T) : ∀ e ∈ T, e.1 ≠ [] ∧ e.1.length ≤ bound := by
  induction T generalizing code with
  | nil => exact fun e he => by cases he
  | cons first T ih =>
    obtain ⟨⟨rest, hframe, hlength⟩, -, hT⟩ := h
    refine List.forall_mem_cons.mpr ⟨⟨?_, hlength⟩, ih hT⟩
    rw [hframe]
    exact List.cons_ne_nil code rest

/-! ## Round trips -/

namespace Chaining

theorem length_le_of_mem_pieces {k : Nat} {bs q : Bytes} (h : q ∈ pieces k bs) :
    q.length ≤ k + 1 := by
  induction bs using pieces.induct k with
  | case1 => simp [pieces] at h
  | case2 b bs ih =>
    rw [pieces] at h
    rcases List.mem_cons.mp h with rfl | h
    · have htake := List.length_take_le k bs
      simp only [List.length_cons]
      omega
    · exact ih h

theorem headed_of_mem_followers {max : Nat} (hmax : 2 ≤ max) {message frame : Bytes}
    (h : frame ∈ followers max message) : Headed continuation max frame := by
  obtain ⟨q, hq, rfl⟩ := List.mem_map.mp h
  have hlength := length_le_of_mem_pieces hq
  refine ⟨q, rfl, ?_⟩
  simp only [List.length_cons]
  omega

theorem asks_of_checkContinues {answer : Bytes} {u : Unit} (h : checkContinues answer = .ok u) :
    Asks (.ok answer) := by
  cases answer with
  | nil => cases h
  | cons status data =>
    simp only [checkContinues] at h
    split_ifs at h with hstatus
    · exact ⟨data, by rw [hstatus]⟩
    · obtain ⟨v, -, h⟩ := bind_ok h
      cases h

theorem SendPlay.ledBy {first : Bytes} {rest : List Bytes} {r : Except Error Bytes}
    (h : SendPlay first rest T r) (hfirst : Headed code bound first)
    (hrest : ∀ frame ∈ rest, Headed continuation bound frame) : LedBy bound code T := by
  induction h generalizing code with
  | next h hplay ih =>
    obtain ⟨hnext, hrest⟩ := List.forall_mem_cons.mp hrest
    exact ⟨hfirst, fun _ => asks_of_checkContinues h, ih hnext hrest⟩
  | _ => exact ledBy_single hfirst _

/-- More of an answer is asked for if the frame at hand announces it. -/
theorem CollectPlay.ledBy {limit more : Nat} {before frame : Bytes} {r : Except Error Reply}
    (h : CollectPlay limit more before frame T r) (hbound : 1 ≤ bound) :
    LedBy bound continuation T ∧ (T ≠ [] → Asks (.ok frame)) := by
  have hask : Headed continuation bound [continuation] := ⟨[], rfl, hbound⟩
  induction h with
  | fault more before data fault => exact ⟨ledBy_single hask _, fun _ => ⟨data, rfl⟩⟩
  | next data h ih => exact ⟨⟨hask, ih.2, ih.1⟩, fun _ => ⟨data, rfl⟩⟩
  | _ => exact ⟨trivial, fun hne => absurd rfl hne⟩

variable {settings : Settings} {rest : Bytes}

theorem RoundTripPlay.ledBy {r : Except Error Reply}
    (h : RoundTripPlay settings (code :: rest) T r) (hmax : 2 ≤ settings.maxFrameLength) :
    LedBy settings.maxFrameLength code T := by
  have htake : (code :: rest).take settings.maxFrameLength =
      code :: rest.take (settings.maxFrameLength - 1) := List.take_cons (by omega)
  have hfirst : Headed code settings.maxFrameLength
      ((code :: rest).take settings.maxFrameLength) := ⟨_, htake, List.length_take_le _ _⟩
  cases h with
  | threshold => trivial
  | unsent h => exact h.ledBy hfirst fun frame => headed_of_mem_followers hmax
  | sent h h' =>
    obtain ⟨hcollect, hasks⟩ := h'.ledBy (Nat.le_of_succ_le hmax)
    refine (h.ledBy hfirst fun frame => headed_of_mem_followers hmax).append hcollect fun hne => ?_
    obtain ⟨T', frame, -, rfl⟩ := h.of_ok rfl
    exact ⟨T', frame, _, rfl, hasks hne⟩

/-- Without room for data no frame is handed over. -/
theorem roundTrip_plays_cases (settings : Settings) (frame : Bytes) :
    (roundTrip settings frame).run.Plays fun T r =>
      (2 ≤ settings.maxFrameLength ∧ RoundTripPlay settings frame T r) ∨
        (T = [] ∧ ∃ err, r = .error err) := by
  by_cases hmax : 2 ≤ settings.maxFrameLength
  · exact (roundTrip_plays settings frame).mono fun T r h => Or.inl ⟨hmax, h⟩
  · have hshort : checkThreshold settings.maxFrameLength = .error (.malformed .chainingThreshold) :=
      if_pos (Nat.lt_of_not_le hmax)
    unfold roundTrip send
    rw [hshort]
    exact Or.inr ⟨rfl, _, rfl⟩

theorem roundTrip_ledBy (settings : Settings) (code : UInt8) (rest : Bytes) :
    (roundTrip settings (code :: rest)).run.Plays fun T _ =>
      LedBy settings.maxFrameLength code T := by
  refine (roundTrip_plays_cases settings (code :: rest)).mono ?_
  rintro T r (⟨hmax, h⟩ | ⟨rfl, -⟩)
  · exact h.ledBy hmax
  · trivial

end Chaining

/-! ## Exchanges -/

theorem AesProtection.frame_head {p : AesProtection} {cmd : Command} {frame : Bytes}
    (h : p.frame cmd = .ok frame) : ∃ rest, frame = cmd.code :: rest := by
  obtain ⟨body, -, h⟩ := bind_ok h
  cases h
  exact ⟨_, rfl⟩

/-- Under any protection a command begins with its code. -/
theorem Protection.protect_head {p : Protection} {cmd : Command} {frame : Bytes}
    (h : p.protect cmd = .ok frame) : ∃ rest, frame = cmd.code :: rest := by
  cases p with
  | aes p =>
    have h : p.protect cmd = .ok frame := h
    unfold AesProtection.protect at h
    split_ifs at h
    · obtain ⟨next, -, h⟩ := bind_ok h
      exact AesProtection.frame_head h
    · exact AesProtection.frame_head h
  | tripleDes q =>
    have h : q.protect cmd = .ok frame := h
    unfold TripleDesProtection.protect at h
    split_ifs at h
    · obtain ⟨u, -, h⟩ := bind_ok h
      obtain ⟨body, -, h⟩ := bind_ok h
      cases h
      exact ⟨_, rfl⟩
    · cases h
      exact ⟨_, rfl⟩

theorem Session.issueWith_ledBy (s : Session) (settings : Settings) (cmd : Command)
    (finish : Reply → Except Error (α × Session)) :
    (s.issueWith settings cmd finish).Plays fun T _ =>
      LedBy settings.maxFrameLength cmd.code T := by
  refine (s.issueWith_plays settings cmd finish).mono ?_
  intro T e hplay
  cases hplay with
  | refused => trivial
  | settled hp hmax hframe htrip =>
    obtain ⟨rest, rfl⟩ := Protection.protect_head hframe
    exact htrip.ledBy hmax

/-! ## Handshakes -/

namespace Handshake

open Conversation

/-- The length of the longest frame of a handshake: a continuation with two blocks. -/
def passLength : Nat := 33

theorem pass_ledBy {prepare : Except Error β} {frame : β → Bytes}
    {judge : β → Bytes → Except Error α}
    (h : ∀ x, prepare = .ok x → Headed code bound (frame x)) :
    (pass prepare frame judge).run.Plays fun T _ => LedBy bound code T :=
  pass_plays (fun _ _ => trivial) fun x hx r => ledBy_single (h x hx) r

/-- A challenge is an answer that asks for a further frame. -/
theorem firstPass_ledBy {prepare : Except Error β} {frame : β → Bytes} {kind : Handshake}
    {keyNo : UInt8} {length other : Nat} (hlength : 0 < length) (hother : 0 < other)
    (h : ∀ x, prepare = .ok x → Headed code bound (frame x)) :
    (pass prepare frame fun _ => readChallenge kind keyNo length other).run.Plays fun T r =>
      LedBy bound code T ∧ ∀ ch, r = .ok ch → EndsAsking T := by
  refine (pass_ledBy h).and ((pass_plays_ok _ _ _).mono ?_)
  intro T r hr ch hch
  obtain ⟨x, answer, -, rfl, hanswer⟩ := hr ch hch
  obtain ⟨nonce, rfl, -, -⟩ := (readChallenge_eq_ok hlength hother).mp hanswer
  exact ⟨[], _, _, rfl, nonce, rfl⟩

/-- A second pass follows a challenge. -/
theorem passes_ledBy {c : Conversation α} {d : α → Conversation β}
    (hc : c.run.Plays fun T r => LedBy bound code T ∧ ∀ a, r = .ok a → EndsAsking T)
    (hd : ∀ a, (d a).run.Plays fun T _ => LedBy bound Chaining.continuation T) :
    (c >>= d).run.Plays fun T _ => LedBy bound code T := by
  rw [plays_bind]
  refine hc.mono ?_
  intro T r h
  cases r with
  | error err => exact h.1
  | ok a => exact (hd a).mono fun T' _ h' => h.1.append h' fun _ => h.2 a rfl

theorem headed_request (code keyNo : UInt8) : Headed code passLength [code, keyNo] :=
  ⟨[keyNo], rfl, by simp [passLength]⟩

theorem headed_proof {proof : Bytes} (h : proof.length ≤ 32) :
    Headed Chaining.continuation passLength (Chaining.continuation :: proof) :=
  ⟨proof, rfl, Nat.succ_le_succ h⟩

theorem prepareProof_length {kind : Handshake} {key : AesKey} {ch : Challenge} {rndA : Nonce}
    {x : Nonce × Bytes} (h : prepareProof kind key ch rndA = .ok x) : x.2.length = 32 := by
  obtain ⟨u, -, h⟩ := bind_ok h
  obtain ⟨rndB, -, h⟩ := bind_ok h
  obtain ⟨proof, hproof, h⟩ := bind_ok h
  cases h
  obtain ⟨proof', hproof', hlength⟩ := exists_token key rndA rndB
  rw [hproof] at hproof'
  cases hproof'
  exact hlength

theorem prepareLegacyProof_length {key : TripleDesKey} {ch : Challenge} {rndA : Bytes}
    {x : Bytes × Bytes} (hA : rndA.length = key.nonceLength)
    (h : prepareLegacyProof key ch rndA = .ok x) : x.2.length ≤ 32 := by
  have hB := prepareLegacyProof_ok h
  obtain ⟨u, -, h⟩ := bind_ok h
  obtain ⟨rndB, -, h⟩ := bind_ok h
  obtain ⟨proof, hproof, h⟩ := bind_ok h
  cases h
  have hproof' : proof.length = _ := Cbc.length_encrypt hproof
  rw [List.length_append, Bytes.length_rotl] at hproof'
  rcases key.nonceLength_cases with hkey | hkey <;> simp only at hB ⊢ <;> omega

theorem startFirst_ledBy (keyNo : UInt8) (secondApplication : Bool) (capabilities : Bytes) :
    (startFirst keyNo secondApplication capabilities).run.Plays fun T r =>
      LedBy passLength 0x71 T ∧ ∀ ch, r = .ok ch → EndsAsking T := by
  rw [startFirst_eq]
  refine firstPass_ledBy (by decide) (by decide) ?_
  intro x hx
  have hlength : capabilities.length ≤ 6 := by
    obtain ⟨u, -, h⟩ := bind_ok hx
    by_contra hlong
    rw [if_pos (Nat.lt_of_not_le hlong)] at h
    cases h
  refine ⟨_, rfl, ?_⟩
  simp only [firstRequest, passLength, List.length_append, List.length_cons, List.length_nil]
  omega

theorem finishFirst_ledBy (key : AesKey) (ch : Challenge) (draw : NonceSource) :
    (finishFirst key ch draw).run.Plays fun T _ => LedBy passLength Chaining.continuation T := by
  rw [finishFirst_eq]
  refine pass_ledBy fun x hx => ?_
  exact headed_proof (Nat.le_of_eq (prepareProof_length hx))

theorem renewalPasses_ledBy (s : Session) (keyNo : UInt8) (key : AesKey) (draw : NonceSource) :
    (renewalPasses s keyNo key draw).run.Plays fun T _ => LedBy passLength 0x77 T := by
  unfold renewalPasses
  rw [startRenewal_eq]
  have hfirst := headed_request 0x77 keyNo
  refine passes_ledBy (firstPass_ledBy (by decide) (by decide) fun _ _ => hfirst) fun ch => ?_
  refine pass_ledBy fun x hx => ?_
  exact headed_proof (Nat.le_of_eq (prepareProof_length hx))

theorem runLegacy_ledBy (keyNo : UInt8) (key : TripleDesKey) (draw : NonceSource) :
    (runLegacy keyNo key draw).run.Plays fun T _ => LedBy passLength 0x1A T := by
  unfold runLegacy
  rw [startLegacy_eq]
  have hfirst := headed_request 0x1A keyNo
  refine passes_ledBy (firstPass_ledBy (by decide) (by decide) fun _ _ => hfirst) fun ch => ?_
  rw [finishLegacy_eq]
  refine pass_ledBy fun x hx => ?_
  exact headed_proof (prepareLegacyProof_length (Octets.length_toList _) hx)

end Handshake

/-! ## Requests -/

/-- The length of the longest frame under the settings. -/
def Settings.longestFrame (s : Settings) : Nat := max s.maxFrameLength Handshake.passLength

namespace Card

/-! ### Exchanges -/

theorem issue_ledBy (cmd : Command) (c : Card) :
    ((issue cmd).start c).Plays fun T _ =>
      LedBy c.settings.maxFrameLength cmd.code T := by
  apply issue_plays
  · exact fun _ => trivial
  · exact fun _ => Chaining.roundTrip_ledBy c.settings cmd.code (cmd.header ++ cmd.payload)
  · exact fun s _ _ => s.issueWith_ledBy c.settings cmd (s.accept cmd.mode)

theorem commandIn_code {u : KeyUpdate} {s : Session} {keySet : Option UInt8} {cmd : Command}
    (h : u.commandIn s keySet = .ok cmd) : cmd.code = (Request.updateKey u keySet).code := by
  obtain ⟨slot, payload, -, -, rfl⟩ := KeyUpdate.commandIn_ok h
  rfl

theorem updateKey_ledBy (u : KeyUpdate) (keySet : Option UInt8) (c : Card) :
    ((updateKey u keySet).start c).Plays fun T _ =>
      LedBy c.settings.maxFrameLength (Request.updateKey u keySet).code T := by
  apply updateKey_plays
  · exact fun _ => trivial
  · intro s _ _
    cases hcommand : u.commandIn s keySet with
    | error err =>
      unfold Session.updateKey
      rw [hcommand]
      trivial
    | ok cmd =>
      rw [Session.updateKey_eq_issueWith hcommand, ← commandIn_code hcommand]
      exact s.issueWith_ledBy c.settings cmd _

theorem readCommand_code {file : UInt8} {offset length : Nat} {mode : CommMode} {cmd : Command}
    (h : readCommand file offset length mode = .ok cmd) : cmd.code = 0xAD := by
  obtain ⟨header, -, h⟩ := bind_ok h
  cases h
  rfl

theorem writeCommand_code {file : UInt8} {offset : Nat} {data : Bytes} {mode : CommMode}
    {cmd : Command} (h : writeCommand file offset data mode = .ok cmd) : cmd.code = 0x8D := by
  unfold writeCommand at h
  by_cases hlong : 0x100000000 ≤ data.length
  · rw [if_pos hlong] at h
    cases h
  · rw [if_neg hlong] at h
    obtain ⟨header, -, h⟩ := bind_ok h
    cases h
    rfl

theorem command?_code {c : Card} {r : Request} (hr : r.isCommand = true) {cmd : Command}
    (h : c.command? r = some cmd) : cmd.code = r.code := by
  cases r with
  | readRange => exact readCommand_code (eq_ok_of_toOption h)
  | writeRange => exact writeCommand_code (eq_ok_of_toOption h)
  | format =>
    simp only [command?] at h
    split_ifs at h
    cases h
    rfl
  | startFirst | finishFirst | authenticate | reauthenticate | authenticateLegacy => cases hr
  | select | updateKey => cases hr
  | _ =>
    cases h
    rfl

/-! ### Operations -/

/-- What is done after a dialogue without a frame adds nothing to its frames. -/
theorem plays_bind_silent {P : Transcript → Prop} {d : Dialogue α} {f : α → Dialogue β}
    (h : d.Plays fun T _ => P T) (hf : ∀ a, ∃ b, f a = .done b) :
    (d >>= f).Plays fun T _ => P T := by
  rw [Dialogue.plays_bind]
  refine h.mono fun T a h => ?_
  obtain ⟨b, hb⟩ := hf a
  simp only [hb, Dialogue.plays_done, List.append_nil]
  exact h

/-- So does what an operation does without a frame. -/
theorem start_bind_silent {P : Transcript → Prop} {a : Action Card α} {k : α → Action Card β}
    {c : Card} (ha : (a.start c).Plays fun T _ => P T)
    (hk : ∀ x c', ∃ e, (k x).start c' = .done e) : ((a >>= k).start c).Plays fun T _ => P T := by
  rw [Action.start_bind]
  refine plays_bind_silent ha ?_
  rintro ⟨r, c'⟩
  cases r with
  | error err => exact ⟨_, rfl⟩
  | ok x => exact hk x c'

/-- The frames of the request on the handle belong together. -/
def Leads (c : Card) (r : Request) : Prop :=
  ((perform r).start c).Plays fun T _ => LedBy c.settings.longestFrame r.code T

theorem leads_of_done {a : Action Card Unit} {r : Request} {c : Card}
    (hr : perform r = done a)
    (ha : (a.start c).Plays fun T _ => LedBy c.settings.longestFrame r.code T) :
    Leads c r := by
  unfold Leads
  rw [hr, done_start, Dialogue.plays_bind_done]
  exact ha

theorem leads_of_isCommand (c : Card) {r : Request} (hr : r.isCommand = true) : Leads c r := by
  unfold Leads
  rcases c.issuesCommand_perform hr with ⟨err, h⟩ | ⟨cmd, hcmd, read, hread, h⟩
  · rw [h]
    trivial
  · rw [h, ← command?_code hr hcmd]
    refine start_bind_silent ((issue_ledBy cmd c).mono fun T _ h => ?_) fun data c' => ?_
    · exact h.mono (Nat.le_max_left _ _)
    · obtain ⟨e, he⟩ := hread data c'
      exact ⟨_, he⟩

theorem select_ledBy (aid : Aid) (c : Card) :
    ((select aid).start c).Plays fun T _ => LedBy c.settings.maxFrameLength 0x5A T := by
  rw [select_start]
  refine plays_bind_silent (Chaining.roundTrip_ledBy c.settings 0x5A _) ?_
  intro r
  cases r <;> exact ⟨_, rfl⟩

/-- The first pass; with a success it has handed over a frame. -/
theorem startFirst_ledBy (keyNo : UInt8) (c : Card) :
    ((startFirst keyNo).start c).Plays fun T e =>
      LedBy Handshake.passLength 0x71 T ∧ ∀ u, e.1 = .ok u → EndsAsking T := by
  rw [startFirst_start]
  cases Handshake.checkFirst keyNo c.settings.capabilityBytes with
  | error err => exact ⟨trivial, fun u hu => by cases hu⟩
  | ok u =>
    simp only [Dialogue.plays_bind]
    refine (Handshake.startFirst_ledBy keyNo false c.settings.capabilityBytes).mono ?_
    intro T r h
    cases r with
    | error err =>
      simp only [Dialogue.plays_done, List.append_nil]
      exact ⟨h.1, fun u hu => by cases hu⟩
    | ok ch =>
      simp only [Dialogue.plays_done, List.append_nil]
      exact ⟨h.1, fun _ _ => h.2 ch rfl⟩

theorem finishFirst_ledBy (key : AesKey) (draw : NonceSource) (c : Card) :
    ((finishFirst key draw).start c).Plays fun T _ =>
      LedBy Handshake.passLength Chaining.continuation T := by
  rw [finishFirst_start]
  cases c.challenge with
  | none => trivial
  | some ch =>
    refine plays_bind_silent (Handshake.finishFirst_ledBy key ch draw) ?_
    intro r
    cases r <;> exact ⟨_, rfl⟩

theorem authenticate_ledBy (keyNo : UInt8) (key : AesKey) (draw : NonceSource) (c : Card) :
    ((authenticate keyNo key draw).start c).Plays fun T _ =>
      LedBy Handshake.passLength 0x71 T := by
  unfold authenticate
  rw [Action.start_bind, Dialogue.plays_bind]
  refine (startFirst_ledBy keyNo c).mono ?_
  rintro T ⟨r, c'⟩ h
  cases r with
  | error err =>
    simp only [Dialogue.plays_done, List.append_nil]
    exact h.1
  | ok u =>
    refine (finishFirst_ledBy key draw c').mono fun T' _ h' => ?_
    exact h.1.append h' fun _ => h.2 u rfl

theorem reauthenticate_ledBy (keyNo : UInt8) (key : AesKey) (draw : NonceSource) (c : Card) :
    ((reauthenticate keyNo key draw).start c).Plays fun T _ =>
      LedBy Handshake.passLength 0x77 T := by
  rw [reauthenticate_start]
  cases Handshake.checkKeyNo keyNo with
  | error err => trivial
  | ok u =>
    cases c.session with
    | none => trivial
    | some s =>
      refine plays_bind_silent (Handshake.renewalPasses_ledBy s keyNo key draw) ?_
      intro r
      cases r <;> exact ⟨_, rfl⟩

theorem authenticateLegacy_ledBy (keyNo : UInt8) (key : TripleDesKey) (draw : NonceSource)
    (c : Card) :
    ((authenticateLegacy keyNo key draw).start c).Plays fun T _ =>
      LedBy Handshake.passLength 0x1A T := by
  rw [authenticateLegacy_start]
  cases Handshake.checkKeyNo keyNo with
  | error err => trivial
  | ok u =>
    refine plays_bind_silent (Handshake.runLegacy_ledBy keyNo key draw) ?_
    intro r
    cases r <;> exact ⟨_, rfl⟩

/-- **Frames of a request.** Whatever is asked of a handle and whatever comes back, the first frame
begins with the code of the request and every further one announces a continuation. -/
theorem perform_ledBy (c : Card) (r : Request) : Leads c r := by
  have hpass : Handshake.passLength ≤ c.settings.longestFrame := Nat.le_max_right _ _
  have hframe : c.settings.maxFrameLength ≤ c.settings.longestFrame := Nat.le_max_left _ _
  cases hcommand : r.isCommand with
  | true => exact c.leads_of_isCommand hcommand
  | false =>
    cases r with
    | startFirst keyNo =>
      exact leads_of_done rfl ((startFirst_ledBy keyNo c).mono fun T _ h => h.1.mono hpass)
    | finishFirst key draw =>
      exact leads_of_done rfl ((finishFirst_ledBy key draw c).mono fun T _ h => h.mono hpass)
    | authenticate keyNo key draw =>
      exact leads_of_done rfl
        ((authenticate_ledBy keyNo key draw c).mono fun T _ h => h.mono hpass)
    | reauthenticate keyNo key draw =>
      exact leads_of_done rfl
        ((reauthenticate_ledBy keyNo key draw c).mono fun T _ h => h.mono hpass)
    | authenticateLegacy keyNo key draw =>
      exact leads_of_done rfl
        ((authenticateLegacy_ledBy keyNo key draw c).mono fun T _ h => h.mono hpass)
    | select aid =>
      exact leads_of_done rfl ((select_ledBy aid c).mono fun T _ h => h.mono hframe)
    | updateKey u keySet =>
      exact leads_of_done rfl ((updateKey_ledBy u keySet c).mono fun T _ h => h.mono hframe)
    | _ => cases hcommand

end Card

end CardLink
