import CardLink.Proofs.CommandRequests
import CardLink.Proofs.ExchangeEffects

/-!
# No protection downgrade

What a handle sends for a secured command are pieces of one frame, and that frame was made by the
protection of its session. Without a valid session it sends nothing.

1. The frames of a round trip are the pieces of its message, and requests for more of the answer
   (`RoundTripPlay.carries`).
2. A session hands over no other message than the protected command (`issueWith_guarded`).
3. A handle hands it over in its own session only (`issue_guarded`, `updateKey_guarded`).
4. While there is a session, every request that could do without protection asks for it
   (`secured_of_asks`).
-/

namespace CardLink

variable {α β : Type}

namespace Chaining

/-! ## The message in the frames -/

/-- The message that frames make up: the first frame, and each one after it without the byte that
announces it. A lone announcement adds nothing. -/
def assemble : List Bytes → Bytes
  | [] => []
  | first :: rest => first ++ (rest.map List.tail).flatten

theorem assemble_prefix {fs gs : List Bytes} (h : fs <+: gs) : assemble fs <+: assemble gs := by
  obtain ⟨more, rfl⟩ := h
  cases fs with
  | nil => exact List.nil_prefix
  | cons first rest =>
    refine ⟨(more.map List.tail).flatten, ?_⟩
    simp [assemble]

theorem assemble_chunks (max : Nat) (message : Bytes) :
    assemble (chunks max message) = message := by
  have htail : (followers max message).map List.tail = pieces (max - 2) (message.drop max) := by
    simp [followers, Function.comp_def]
  rw [chunks, assemble, htail, flatten_pieces, List.take_append_drop]

/-- Asking for more of the answer adds nothing to the message. -/
theorem assemble_chunks_append (max : Nat) (message : Bytes) (asks : Nat) :
    assemble (chunks max message ++ List.replicate asks [continuation]) = message :=
  calc assemble (chunks max message ++ List.replicate asks [continuation])
      = assemble (chunks max message) := by simp [chunks, assemble]
    _ = message := assemble_chunks max message

/-- The frames of a play carry a message, in pieces with room for `max` bytes; after a success they
carry the whole of it. -/
structure Carries (max : Nat) (message : Bytes) (T : Transcript) (r : Except Error α) : Prop where
  frames : ∃ asks,
    T.map Prod.fst <+: chunks max message ++ List.replicate asks [continuation]
  assembled : assemble (T.map Prod.fst) <+: message
  complete : ∀ a, r = .ok a → assemble (T.map Prod.fst) = message

variable {max : Nat} {message : Bytes} {T : Transcript}

/-- A play that stopped before the message was sent to its end. -/
theorem carries_of_prefix (h : T.map Prod.fst <+: chunks max message) (err : Error) :
    Carries max message T (.error err : Except Error α) where
  frames := ⟨0, h.trans (List.prefix_append _ _)⟩
  assembled := by
    have hprefix := assemble_prefix h
    rwa [assemble_chunks] at hprefix
  complete _ h := by cases h

/-- A play that sent the message to its end. -/
theorem carries_of_eq {asks : Nat}
    (h : T.map Prod.fst = chunks max message ++ List.replicate asks [continuation])
    (r : Except Error α) : Carries max message T r := by
  have hwhole : assemble (T.map Prod.fst) = message := by
    rw [h, assemble_chunks_append]
  exact ⟨⟨asks, h ▸ List.prefix_rfl⟩, ⟨[], by rw [List.append_nil, hwhole]⟩, fun _ _ => hwhole⟩

/-- What comes of the answer later does not matter, unless it makes a success of a failure. -/
theorem Carries.of_ok {r : Except Error α} {r' : Except Error β} (h : Carries max message T r)
    (hr : ∀ b, r' = .ok b → ∃ a, r = .ok a) : Carries max message T r' where
  frames := h.frames
  assembled := h.assembled
  complete b hb := by
    obtain ⟨a, ha⟩ := hr b hb
    exact h.complete a ha

theorem SendPlay.frames_prefix {first : Bytes} {rest : List Bytes} {r : Except Error Bytes}
    (h : SendPlay first rest T r) : T.map Prod.fst <+: first :: rest := by
  induction h with
  | fault first rest fault => exact ⟨rest, rfl⟩
  | last first answer => exact ⟨[], rfl⟩
  | stopped h => exact ⟨_, rfl⟩
  | next h hrest ih => exact List.cons_prefix_cons.mpr ⟨rfl, ih⟩

theorem SendPlay.frames_eq {first answer : Bytes} {rest : List Bytes} {r : Except Error Bytes}
    (h : SendPlay first rest T r) (hr : r = .ok answer) : T.map Prod.fst = first :: rest := by
  induction h with
  | fault first rest fault => cases hr
  | last first answer => rfl
  | stopped h => cases hr
  | next h hrest ih => exact congrArg _ (ih hr)

theorem CollectPlay.frames_eq {limit more : Nat} {before frame : Bytes} {r : Except Error Reply}
    (h : CollectPlay limit more before frame T r) :
    T.map Prod.fst = List.replicate T.length [continuation] := by
  induction h with
  | next data h ih => exact congrArg _ ih
  | _ => rfl

/-- A round trip hands over pieces of its message in order, and then asks for more of the answer. -/
theorem RoundTripPlay.carries {settings : Settings} {r : Except Error Reply}
    (h : RoundTripPlay settings message T r) :
    Carries settings.maxFrameLength message T r := by
  cases h with
  | threshold =>
    refine carries_of_prefix ?_ _
    exact List.nil_prefix
  | unsent h => exact carries_of_prefix h.frames_prefix _
  | sent h h' =>
    apply carries_of_eq
    rw [List.map_append, h.frames_eq rfl, h'.frames_eq]
    rfl

end Chaining

/-! ## Sessions -/

/-- Under AES the message is no clear frame: it ends with a tag over the command and the bytes that
it carries, and these are encrypted in full mode. -/
def Protection.Seals (p : Protection) (cmd : Command) (message : Bytes) : Prop :=
  ∀ q, p = .aes q →
    ∃ body, q.body cmd = .ok body ∧ message = cmd.frameWith body ++ (q.tag cmd body).toList

theorem Protection.seals_of_protect {p : Protection} {cmd : Command} {message : Bytes}
    (hsecured : cmd.mode.isSecured = true) (h : p.protect cmd = .ok message) :
    p.Seals cmd message := by
  rintro q rfl
  have h : q.protect cmd = .ok message := h
  unfold AesProtection.protect at h
  rw [if_pos hsecured] at h
  obtain ⟨next, -, h⟩ := bind_ok h
  obtain ⟨body, hbody, h⟩ := bind_ok h
  rw [if_pos hsecured] at h
  cases h
  exact ⟨body, hbody, rfl⟩

/-- A play that hands over nothing but a secured command, made by the protection of the session. If
there is no protection or no command, then it fails without a frame. -/
inductive Guarded (session : Option Session) (settings : Settings) (command : Option Command) :
    Transcript → Except Error α → Prop where
  | unsent (err : Error) : Guarded session settings command [] (.error err)
  | carried {s : Session} {p : Protection} {cmd : Command} {message : Bytes} {T : Transcript}
    {r : Except Error α} (hs : session = some s) (hp : s.protection = some p)
    (hcmd : command = some cmd) (hsecured : cmd.mode.isSecured = true)
    (hmessage : p.protect cmd = .ok message) (hseals : p.Seals cmd message)
    (hcarries : Chaining.Carries settings.maxFrameLength message T r) :
    Guarded session settings command T r

section

variable {session : Option Session} {settings : Settings} {command : Option Command}
variable {T : Transcript}

theorem Guarded.of_ok {r : Except Error α} {r' : Except Error β}
    (h : Guarded session settings command T r) (hr : ∀ b, r' = .ok b → ∃ a, r = .ok a) :
    Guarded session settings command T r' := by
  cases h with
  | unsent err =>
    cases r' with
    | error err' => exact .unsent err'
    | ok b =>
      obtain ⟨a, ha⟩ := hr b rfl
      cases ha
  | carried hs hp hcmd hsecured hmessage hseals hcarries =>
    exact .carried hs hp hcmd hsecured hmessage hseals (hcarries.of_ok hr)

/-- A session that is over hands over nothing. -/
theorem Guarded.unsent_of_invalid {r : Except Error α} (h : Guarded session settings command T r)
    {s : Session} (hs : session = some s) (hinvalid : s.isValid = false) :
    T = [] ∧ ∃ err, r = .error err := by
  cases h with
  | unsent err => exact ⟨rfl, err, rfl⟩
  | carried hs' hp =>
    rw [hs] at hs'
    cases hs'
    unfold Session.isValid at hinvalid
    rw [hp] at hinvalid
    cases hinvalid

end

namespace Session

theorem issueWith_guarded (s : Session) (settings : Settings) {cmd : Command}
    (hsecured : cmd.mode.isSecured = true) (finish : Reply → Except Error (α × Session)) :
    (s.issueWith settings cmd finish).Plays fun T e =>
      Guarded (some s) settings (some cmd) T e.1 := by
  refine (s.issueWith_plays settings cmd finish).mono ?_
  intro T e hplay
  cases hplay with
  | @refused err _ => exact .unsent err
  | @settled p message _ outcome hp hmax hmessage htrip =>
    have hseals := Protection.seals_of_protect hsecured hmessage
    refine .carried rfl hp rfl hsecured hmessage hseals (htrip.carries.of_ok ?_)
    intro a ha
    cases outcome with
    | error err => cases ha
    | ok reply => exact ⟨reply, rfl⟩

theorem updateKey_guarded (s : Session) (settings : Settings) (u : KeyUpdate)
    (keySet : Option UInt8) :
    (s.updateKey settings u keySet).Plays fun T e =>
      Guarded (some s) settings (u.commandIn s keySet).toOption T e.1 := by
  cases hcommand : u.commandIn s keySet with
  | error err =>
    unfold updateKey
    rw [hcommand]
    exact .unsent err
  | ok cmd =>
    have hsecured : cmd.mode.isSecured = true := by
      rw [commandIn_mode hcommand]
      rfl
    rw [updateKey_eq_issueWith hcommand]
    exact s.issueWith_guarded settings hsecured _

end Session

/-! ## Handles -/

/-- The request is made in a secured mode by every handle with a session. -/
def Request.isGuarded : Request → Bool
  | version | keySettings | keyVersion _ | applicationIds | commit | format | uid => true
  | replaceKeySettings _ | configure _ _ | updateKey _ _ => true
  | _ => false

namespace Card

/-- The command that a request hands over, if it gets as far as that. -/
def asks? (c : Card) : Request → Option Command
  | .updateKey u keySet => c.session.bind fun s => (u.commandIn s keySet).toOption
  | r => c.command? r

theorem issue_guarded (c : Card) {cmd : Command} (hsecured : cmd.mode.isSecured = true) :
    ((issue cmd).start c).Plays fun T e => Guarded c.session c.settings (some cmd) T e.1 := by
  apply issue_plays
  · exact fun err => .unsent err
  · intro hclear
    rw [hsecured] at hclear
    cases hclear
  · intro s hs _
    rw [hs]
    exact s.issueWith_guarded c.settings hsecured (s.accept cmd.mode)

theorem updateKey_guarded (c : Card) (u : KeyUpdate) (keySet : Option UInt8) :
    ((updateKey u keySet).start c).Plays fun T e =>
      Guarded c.session c.settings (c.asks? (.updateKey u keySet)) T e.1 := by
  apply updateKey_plays
  · exact fun err => .unsent err
  · intro s hs _
    unfold asks?
    rw [hs]
    exact s.updateKey_guarded c.settings u keySet

/-- Reading the answer does not change what was handed over. -/
theorem guarded_bind_reads {c : Card} {session : Option Session} {settings : Settings}
    {command : Option Command} {a : Action Card α} {k : α → Action Card β}
    (ha : (a.start c).Plays fun T e => Guarded session settings command T e.1)
    (hk : ∀ x, (k x).Reads) :
    ((a >>= k).start c).Plays fun T e => Guarded session settings command T e.1 := by
  refine Action.plays_bind_of_reads ha hk ?_ ?_
  · exact fun T err s' h => h.of_ok fun b hb => by cases hb
  · exact fun T x r s' h => h.of_ok fun _ _ => ⟨x, rfl⟩

/-- With a session, none of the guarded requests goes out in plain mode. -/
theorem secured_of_asks {c : Card} {s : Session} (hs : c.session = some s) {r : Request}
    (hr : r.isGuarded = true) {cmd : Command} (hcmd : c.asks? r = some cmd) :
    cmd.mode.isSecured = true := by
  have hmode : c.preferredMode = .mac := by
    unfold preferredMode
    rw [hs]
    rfl
  cases r with
  | version | keySettings | keyVersion | applicationIds | commit =>
    cases hcmd
    rw [hmode]
    rfl
  | uid | replaceKeySettings | configure =>
    cases hcmd
    rfl
  | format =>
    simp only [asks?, command?] at hcmd
    split_ifs at hcmd
    cases hcmd
    rfl
  | updateKey u keySet =>
    simp only [asks?, hs, Option.bind_some] at hcmd
    cases hcommand : u.commandIn s keySet with
    | error err =>
      rw [hcommand] at hcmd
      cases hcmd
    | ok cmd' =>
      rw [hcommand] at hcmd
      cases hcmd
      rw [Session.commandIn_mode hcommand]
      rfl
  | _ => cases hr

theorem perform_guarded {c : Card} {s : Session} (hs : c.session = some s) {r : Request}
    (hr : r.isGuarded = true) :
    ((perform r).start c).Plays fun T e =>
      Guarded c.session c.settings (c.asks? r) T e.1 := by
  cases hcommand : r.isCommand with
  | true =>
    have hasks : c.asks? r = c.command? r := by
      cases r <;> first | rfl | cases hcommand
    rcases c.issuesCommand_perform hcommand with ⟨err, h⟩ | ⟨cmd, hcmd, read, hread, h⟩
    · rw [h]
      exact .unsent err
    · rw [h, hasks, hcmd]
      have hsecured := secured_of_asks hs hr (hasks.trans hcmd)
      exact guarded_bind_reads (c.issue_guarded hsecured) hread
  | false =>
    cases r with
    | updateKey u keySet =>
      exact guarded_bind_reads (c.updateKey_guarded u keySet) fun _ => Action.reads_pure _
    | startFirst | finishFirst | authenticate | reauthenticate | authenticateLegacy => cases hr
    | select => cases hr
    | _ => cases hcommand

/-- **No protection downgrade.** For every handle and every transport: a command in a secured mode
hands over frames only under the protection of a valid session, and put together they are a prefix
of the protected command, after a success the whole of it. While the handle holds a session, the
guarded requests hand over nothing else than such a command; if the session is over, then each of
them fails without a frame. -/
theorem no_downgrade {σ : Type} (c : Card) (t : Transport σ) (w : σ) :
    (∀ cmd : Command, cmd.mode.isSecured = true →
      Guarded c.session c.settings (some cmd) (((issue cmd).start c).transcript t w)
        (((issue cmd).start c).run t w).1.1) ∧
    ∀ r : Request, r.isGuarded = true → ∀ s, c.session = some s →
      Guarded c.session c.settings (c.asks? r) (((perform r).start c).transcript t w)
        (((perform r).start c).run t w).1.1 ∧
      (s.isValid = false → ((perform r).start c).transcript t w = [] ∧
        ∃ err, (((perform r).start c).run t w).1.1 = .error err) := by
  refine ⟨fun cmd hsecured => (c.issue_guarded hsecured).run t w, fun r hr s hs => ?_⟩
  have hguarded := (perform_guarded hs hr).run t w
  exact ⟨hguarded, hguarded.unsent_of_invalid hs⟩

/-- In a valid session the request for the version goes out as a code and a tag; when the session is
over it does not go out. -/
theorem no_downgrade_version :
    let valid : Card := { session := some .sample }
    let ended : Card := { session := some Session.sample.invalidate }
    let issued := (issue Session.sampleCommand).start valid
    let asked := (perform .version).start valid
    let refused := (perform .version).start ended
    (asked.transcript Script.transport {}).map (fun e => e.1.length) = [9] ∧
      Guarded valid.session valid.settings (some Session.sampleCommand)
        (issued.transcript Script.transport {}) (issued.run Script.transport {}).1.1 ∧
      Guarded valid.session valid.settings (valid.asks? .version)
        (asked.transcript Script.transport {}) (asked.run Script.transport {}).1.1 ∧
      refused.transcript Script.transport {} = [] ∧
      ∃ err, (refused.run Script.transport {}).1.1 = .error err :=
  ⟨by decide +kernel, (no_downgrade _ _ _).1 _ rfl, ((no_downgrade _ _ _).2 .version rfl _ rfl).1,
    ((no_downgrade _ _ _).2 .version rfl _ rfl).2 rfl⟩

end Card

end CardLink
