import CardLink.Proofs.Provenance
import CardLink.Proofs.Transitions

/-!
# Challenges are answered at once

A handle keeps a challenge between the two passes of a first authentication. Whatever else hands
over a frame drops it, so the frame before an answer is always the one that the challenge came back
for.

1. Every frame of a run has a purpose, which its request gives it (`handed`).
2. A challenge in the handle is what came back for the last frame, and every request keeps it so
   (`attentive_perform`).
3. So every answer follows the opening that it answers, and no opening is answered twice
   (`challenge_answered_at_once`).
-/

namespace CardLink

/-! ## The purpose of a frame -/

/-- What a frame is handed over for. -/
inductive Purpose where
  /-- It asks the card for the challenge of a first authentication. -/
  | opening (keyNo : UInt8)
  /-- It answers the challenge in the handle, under a key and with a nonce of the host. -/
  | answering (key : AesKey) (rndA : Nonce)
  | other
  deriving DecidableEq

/-- A frame with its purpose and with what came back for it. -/
structure Handed where
  purpose : Purpose
  frame : Bytes
  reply : Delivery
  deriving DecidableEq

/-- The frame is no answer to a challenge. -/
def Handed.Aside (a : Handed) : Prop := ∀ key rndA, a.purpose ≠ .answering key rndA

/-- The purpose of the first frame of a request, and that of every further one. -/
def Request.purposes : Request → Purpose × Purpose
  | startFirst keyNo => (.opening keyNo, .opening keyNo)
  | finishFirst key draw => (.answering key (draw 16), .answering key (draw 16))
  | authenticate keyNo key draw => (.opening keyNo, .answering key (draw 16))
  | _ => (.other, .other)

/-- The frames of a transcript, all with one purpose. -/
def Purpose.frames (p : Purpose) (T : Transcript) : List Handed := T.map fun e => ⟨p, e.1, e.2⟩

/-- The frames of a request with their purposes. -/
def Request.handed (r : Request) : Transcript → List Handed
  | [] => []
  | e :: T => ⟨r.purposes.1, e.1, e.2⟩ :: r.purposes.2.frames T

/-- The frames of a run with their purposes, in order. -/
def Card.handed {σ : Type} (t : Transport σ) : List Request → Card → σ → List Handed
  | [], _, _ => []
  | r :: rs, c, w =>
    let d := (perform r).start c
    r.handed (d.transcript t w) ++ handed t rs (d.run t w).1.2 (d.run t w).2

theorem Request.transcript_handed (r : Request) (T : Transcript) :
    (r.handed T).map (fun a => (a.frame, a.reply)) = T := by
  cases T with
  | nil => rfl
  | cons e T => simp [handed, Purpose.frames, Function.comp_def]

/-- Without their purposes these are the frames that the run hands over. -/
theorem Card.transcript_handed {σ : Type} (t : Transport σ) (rs : List Request) (c : Card)
    (w : σ) :
    (handed t rs c w).map (fun a => (a.frame, a.reply)) = (performAll rs c).transcript t w := by
  induction rs generalizing c w with
  | nil => rfl
  | cons r rs ih =>
    unfold handed performAll
    rw [List.map_append, Request.transcript_handed, ih, Dialogue.transcript_bind,
      Dialogue.transcript_bind]
    simp only [Dialogue.pure_eq, Dialogue.transcript, List.append_nil]

/-- All frames of a request have one purpose, if the further ones have that of the first. -/
theorem Request.handed_eq_frames {r : Request} {p : Purpose} (hr : r.purposes = (p, p))
    (T : Transcript) : r.handed T = p.frames T := by
  cases T with
  | nil => rfl
  | cons e T => simp [handed, Purpose.frames, hr]

/-- A single frame has the purpose of the first. -/
theorem Request.handed_of_length_le_one (r : Request) {T : Transcript} (hT : T.length ≤ 1) :
    r.handed T = r.purposes.1.frames T := by
  cases T with
  | nil => rfl
  | cons e T =>
    obtain rfl : T = [] := List.length_eq_zero_iff.mp (by simpa using hT)
    rfl

/-! ## Openings and answers -/

/-- The frame of an opening for which the challenge came back. -/
def Challenge.opening (settings : Settings) (ch : Challenge) : Handed where
  purpose := .opening ch.keyNo
  frame := Handshake.firstRequest ch.keyNo false settings.capabilityBytes
  reply := .ok (CardStatus.additionalFrame :: ch.encryptedNonce)

/-- The frame answers the challenge: it proves that the host could read the nonce in it. -/
def Challenge.AnsweredBy (ch : Challenge) (key : AesKey) (rndA : Nonce) (frame : Bytes) : Prop :=
  ∃ rndB proof, Cbc.decrypt (aes key) Handshake.zeroIv ch.encryptedNonce = .ok rndB.toList ∧
    Handshake.token key rndA rndB = .ok proof ∧ frame = Chaining.continuation :: proof

/-- If the frame is an answer, then the frame before it was the opening of what it answers. -/
def Handed.Follows (settings : Settings) (previous : Option Handed) (a : Handed) : Prop :=
  ∀ key rndA, a.purpose = .answering key rndA →
    ∃ ch : Challenge, previous = some (ch.opening settings) ∧ ch.AnsweredBy key rndA a.frame

/-- Every answer follows its opening, where the list comes after the given frame. -/
def Prompt (settings : Settings) : Option Handed → List Handed → Prop
  | _, [] => True
  | previous, a :: as => a.Follows settings previous ∧ Prompt settings (some a) as

variable {settings : Settings} {previous : Option Handed}

theorem prompt_append {as bs : List Handed} :
    Prompt settings previous (as ++ bs) ↔
      Prompt settings previous as ∧ Prompt settings (as.getLast?.or previous) bs := by
  induction as generalizing previous with
  | nil => simp [Prompt]
  | cons a as ih =>
    have hlast : (a :: as).getLast?.or previous = as.getLast?.or (some a) := by
      cases as <;> simp [List.getLast?_cons]
    rw [hlast, List.cons_append]
    simp only [Prompt, ih, and_assoc]

theorem prompt_of_aside {as : List Handed} (h : ∀ a ∈ as, a.Aside) :
    Prompt settings previous as := by
  induction as generalizing previous with
  | nil => trivial
  | cons a as ih =>
    have ha : a.Aside := h a List.mem_cons_self
    refine ⟨fun key rndA hp => absurd hp (ha key rndA), ih fun b hb => ?_⟩
    exact h b (List.mem_cons_of_mem a hb)

theorem Prompt.follows {before after : List Handed} {a : Handed}
    (h : Prompt settings previous (before ++ a :: after)) :
    a.Follows settings (before.getLast?.or previous) :=
  (prompt_append.mp h).2.1

theorem Purpose.aside_of_mem_frames {p : Purpose} (hp : ∀ key rndA, p ≠ .answering key rndA)
    {T : Transcript} : ∀ a ∈ p.frames T, a.Aside := by
  intro a ha
  obtain ⟨e, -, rfl⟩ := List.mem_map.mp ha
  exact hp

/-! ## Passes -/

namespace Handshake

/-- A first pass hands over one frame at most, and if it succeeds that was the opening of its
challenge. -/
theorem startFirst_plays_opening (keyNo : UInt8) (settings : Settings) :
    (startFirst keyNo false settings.capabilityBytes).run.Plays fun T r =>
      T.length ≤ 1 ∧ ∀ ch, r = .ok ch → ch.keyNo = keyNo ∧
        T = [((ch.opening settings).frame, (ch.opening settings).reply)] := by
  rw [startFirst_eq]
  have hframes : (pass (checkFirst keyNo settings.capabilityBytes)
      (fun _ => firstRequest keyNo false settings.capabilityBytes)
      fun _ => readChallenge .first keyNo 16 16).run.Plays fun T _ => T.length ≤ 1 :=
    pass_plays (fun _ _ => Nat.zero_le 1) fun _ _ _ => Nat.le_refl 1
  refine hframes.and ((pass_plays_ok _ _ _).mono ?_)
  intro T r h ch hr
  obtain ⟨x, answer, -, rfl, hanswer⟩ := h ch hr
  obtain ⟨nonce, rfl, -, rfl⟩ := (readChallenge_eq_ok (by decide) (by decide)).mp hanswer
  exact ⟨rfl, rfl⟩

/-- A second pass hands over the answer to its challenge, or nothing. -/
theorem finishFirst_plays_answer (key : AesKey) (ch : Challenge) (draw : NonceSource) :
    (finishFirst key ch draw).run.Plays fun T _ => T = [] ∨
      ∃ frame reply, T = [(frame, reply)] ∧ ch.AnsweredBy key (draw 16) frame := by
  rw [finishFirst_eq]
  refine pass_plays (fun _ _ => Or.inl rfl) fun x hx reply => Or.inr ⟨_, reply, rfl, ?_⟩
  obtain ⟨u, -, h⟩ := bind_ok hx
  obtain ⟨rndB, hrndB, h⟩ := bind_ok h
  obtain ⟨proof, hproof, h⟩ := bind_ok h
  cases h
  exact ⟨rndB, proof, cardNonce_eq_ok.mp hrndB, hproof, rfl⟩

end Handshake

namespace Card

/-! ## One request -/

/-- A challenge in the handle is what came back for the last frame. -/
def Attends (settings : Settings) (previous : Option Handed) (c : Card) : Prop :=
  c.settings = settings ∧
    ∀ ch, c.challenge = some ch → previous = some (ch.opening settings)

/-- The frames come after the given one: every answer among them follows its opening, and the handle
that they leave attends to the last of them. -/
def Continues (settings : Settings) (previous : Option Handed) (as : List Handed) (c : Card) :
    Prop :=
  Prompt settings previous as ∧ Attends settings (as.getLast?.or previous) c

variable {c c' : Card}

theorem Attends.of_none (hc : Attends settings previous c)
    (h : c'.settings = c.settings ∧ c'.challenge = none) {last : Option Handed} :
    Attends settings last c' := by
  refine ⟨h.1.trans hc.1, fun ch hch => ?_⟩
  rw [h.2] at hch
  cases hch

theorem Attends.of_reduced (hc : Attends settings previous c) (h : Reduced c c')
    {last : Option Handed} : Attends settings last c' :=
  hc.of_none ⟨h.settings, h.challenge⟩

theorem continues_append {as bs : List Handed}
    (has : Prompt settings previous as) (hbs : Continues settings (as.getLast?.or previous) bs c) :
    Continues settings previous (as ++ bs) c := by
  refine ⟨prompt_append.mpr ⟨has, hbs.1⟩, ?_⟩
  rw [List.getLast?_append, Option.or_assoc]
  exact hbs.2

/-! ### Passes -/

/-- How the first pass can go: it is refused, given up after one frame at most, or answered with a
challenge. -/
inductive OpeningPlay (keyNo : UInt8) (c : Card) :
    Transcript → Except Error Unit → Card → Prop where
  | refused (err : Error) : OpeningPlay keyNo c [] (.error err) c
  | failed {T : Transcript} (hT : T.length ≤ 1) (err : Error) {c' : Card} (h : GivenUp c c') :
    OpeningPlay keyNo c T (.error err) c'
  | challenged {ch : Challenge} (hkey : ch.keyNo = keyNo) :
    OpeningPlay keyNo c
      [((ch.opening c.settings).frame, (ch.opening c.settings).reply)] (.ok ())
      { c.close with challenge := some ch }

theorem startFirst_opening (keyNo : UInt8) (c : Card) :
    ((startFirst keyNo).start c).Plays fun T e => OpeningPlay keyNo c T e.1 e.2 := by
  rw [startFirst_start]
  cases hcheck : Handshake.checkFirst keyNo c.settings.capabilityBytes with
  | error err => exact .refused err
  | ok u =>
    simp only [Dialogue.plays_bind]
    refine (Handshake.startFirst_plays_opening keyNo c.settings).mono ?_
    rintro T r ⟨hT, hopening⟩
    cases r with
    | error err =>
      simp only [Dialogue.plays_done, List.append_nil]
      exact .failed hT err (givenUp_afterFailure c err)
    | ok ch =>
      obtain ⟨hkey, rfl⟩ := hopening ch rfl
      exact .challenged hkey

theorem aside_opening (keyNo : UInt8) (T : Transcript) :
    ∀ a ∈ (Purpose.opening keyNo).frames T, a.Aside :=
  Purpose.aside_of_mem_frames fun _ _ h => by cases h

theorem OpeningPlay.continues {keyNo : UInt8} {T : Transcript} {r : Except Error Unit}
    (h : OpeningPlay keyNo c T r c') (hc : Attends settings previous c) :
    Continues settings previous ((Purpose.opening keyNo).frames T) c' := by
  refine ⟨prompt_of_aside (aside_opening keyNo T), ?_⟩
  cases h with
  | refused err => exact hc
  | failed hT err h => exact hc.of_reduced h.reduced
  | challenged hkey =>
    subst hkey
    obtain ⟨rfl, -⟩ := hc
    refine ⟨rfl, ?_⟩
    rintro ch ⟨⟩
    rfl

/-- The second pass answers the challenge in the handle, and leaves none. -/
theorem finishFirst_continues (key : AesKey) (draw : NonceSource)
    (hc : Attends settings previous c) :
    ((finishFirst key draw).start c).Plays fun T e =>
      Continues settings previous ((Purpose.answering key (draw 16)).frames T) e.2 := by
  rw [finishFirst_start]
  cases hch : c.challenge with
  | none => exact ⟨trivial, hc⟩
  | some ch =>
    simp only [Dialogue.plays_bind]
    refine (Handshake.finishFirst_plays_answer key ch draw).mono ?_
    intro T r hT
    have hprompt : Prompt settings previous ((Purpose.answering key (draw 16)).frames T) := by
      rcases hT with rfl | ⟨frame, reply, rfl, hanswer⟩
      · trivial
      · refine ⟨?_, trivial⟩
        rintro key' rndA ⟨⟩
        exact ⟨ch, hc.2 ch hch, hanswer⟩
    cases r with
    | ok s =>
      simp only [Dialogue.plays_done, List.append_nil]
      refine ⟨hprompt, hc.of_none ?_⟩
      exact ⟨rfl, rfl⟩
    | error err =>
      simp only [Dialogue.plays_done, List.append_nil]
      exact ⟨hprompt, hc.of_reduced (reduced_dropChallenge c)⟩

/-! ### Requests -/

/-- Every play of the request goes on from the given frame. -/
def Attentive (settings : Settings) (previous : Option Handed) (c : Card) (r : Request) : Prop :=
  ((perform r).start c).Plays fun T e => Continues settings previous (r.handed T) e.2

theorem startFirst_attentive (keyNo : UInt8) (hc : Attends settings previous c) :
    Attentive settings previous c (.startFirst keyNo) := by
  unfold Attentive perform
  rw [done_start, Dialogue.plays_bind_done]
  refine (startFirst_opening keyNo c).mono fun T e h => ?_
  rw [Request.handed_eq_frames (p := .opening keyNo) rfl]
  exact h.continues hc

theorem finishFirst_attentive (key : AesKey) (draw : NonceSource)
    (hc : Attends settings previous c) :
    Attentive settings previous c (.finishFirst key draw) := by
  unfold Attentive perform
  rw [done_start, Dialogue.plays_bind_done]
  refine (finishFirst_continues key draw hc).mono fun T e h => ?_
  rw [Request.handed_eq_frames (p := .answering key (draw 16)) rfl]
  exact h

/-- Of both passes in one request the first hands over one frame at most, so the purposes of the
frames tell the passes apart. -/
theorem authenticate_attentive (keyNo : UInt8) (key : AesKey) (draw : NonceSource)
    (hc : Attends settings previous c) :
    Attentive settings previous c (.authenticate keyNo key draw) := by
  unfold Attentive perform authenticate
  rw [done_start, Dialogue.plays_bind_done, Action.start_bind, Dialogue.plays_bind]
  refine (startFirst_opening keyNo c).mono ?_
  rintro T ⟨r, c'⟩ h
  have hcontinues := h.continues hc
  cases h with
  | refused err => exact hcontinues
  | failed hT err h =>
    simp only [Dialogue.plays_done, List.append_nil]
    rw [Request.handed_of_length_le_one _ hT]
    exact hcontinues
  | challenged hkey =>
    refine (finishFirst_continues key draw hcontinues.2).mono fun T' e h' => ?_
    exact continues_append hcontinues.1 h'

/-- Frames for no purpose of this kind are no answers, and with a frame the challenge is gone. -/
theorem attentive_of_aside {r : Request} (hr : r.purposes = (.other, .other))
    (hc : Attends settings previous c) : Attentive settings previous c r := by
  refine (c.steps_perform r).mono fun T e h => ?_
  rw [Request.handed_eq_frames hr]
  refine ⟨prompt_of_aside (Purpose.aside_of_mem_frames fun _ _ h => by cases h), ?_⟩
  obtain ⟨outcome, c'⟩ := e
  cases h with
  | refused r err => exact hc
  | failed r T err h => exact hc.of_reduced h
  | exchanged hr' T outcome h => exact hc.of_reduced h
  | challenged => cases hr
  | opened | renewed | selected =>
    refine hc.of_none ?_
    exact ⟨rfl, rfl⟩

theorem attentive_perform (r : Request) (hc : Attends settings previous c) :
    Attentive settings previous c r := by
  cases r with
  | startFirst keyNo => exact startFirst_attentive keyNo hc
  | finishFirst key draw => exact finishFirst_attentive key draw hc
  | authenticate keyNo key draw => exact authenticate_attentive keyNo key draw hc
  | _ => exact attentive_of_aside rfl hc

/-! ## Runs -/

section

variable {σ : Type} {t : Transport σ} {w : σ} {rs : List Request}

theorem prompt_handed (hc : Attends settings previous c) :
    Prompt settings previous (handed t rs c w) := by
  induction rs generalizing c w previous with
  | nil => trivial
  | cons r rs ih =>
    obtain ⟨hprompt, hnext⟩ := (attentive_perform r hc).run t w
    exact prompt_append.mpr ⟨hprompt, ih hnext⟩

theorem attends_fresh (settings : Settings) : Attends settings none { settings } :=
  ⟨rfl, fun ch hch => by cases hch⟩

/-- An answer in a run comes right after the opening that it answers. -/
theorem opening_of_answer {before after : List Handed} {a : Handed}
    (h : handed t rs { settings } w = before ++ a :: after) {key : AesKey} {rndA : Nonce}
    (ha : a.purpose = .answering key rndA) :
    ∃ earlier ch, before = earlier ++ [Challenge.opening settings ch] ∧
      ch.AnsweredBy key rndA a.frame := by
  have hprompt : Prompt settings none (before ++ a :: after) :=
    h ▸ prompt_handed (attends_fresh settings)
  obtain ⟨ch, hlast, hanswer⟩ := hprompt.follows key rndA ha
  rw [Option.or_none] at hlast
  obtain ⟨earlier, rfl⟩ := List.getLast?_eq_some_iff.mp hlast
  exact ⟨earlier, ch, rfl, hanswer⟩

end

/-- **Challenges are answered at once.** Whatever is asked of a fresh handle and whatever comes
back, the frame before an answer is the opening whose reply brought the challenge that is answered.
No challenge is answered twice: every later answer has an opening of its own, after this answer and
right before its own. -/
theorem challenge_answered_at_once {σ : Type} (t : Transport σ) (w : σ) (settings : Settings)
    (rs : List Request) {before after : List Handed} {a : Handed}
    (h : handed t rs { settings } w = before ++ a :: after) {key : AesKey} {rndA : Nonce}
    (ha : a.purpose = .answering key rndA) :
    (∃ earlier ch, before = earlier ++ [Challenge.opening settings ch] ∧
      ch.AnsweredBy key rndA a.frame) ∧
    ∀ between b later key' rndA', after = between ++ b :: later →
      b.purpose = .answering key' rndA' →
      ∃ between' ch', between = between' ++ [Challenge.opening settings ch'] ∧
        ch'.AnsweredBy key' rndA' b.frame := by
  refine ⟨opening_of_answer h ha, ?_⟩
  rintro between b later key' rndA' rfl hb
  have h' : handed t rs { settings } w = (before ++ a :: between) ++ b :: later := by
    rw [h, List.append_assoc, List.cons_append]
  obtain ⟨earlier, ch', heq, hanswer⟩ := opening_of_answer h' hb
  -- The opening of the later answer is not the earlier answer, so it lies between the two.
  rcases List.eq_nil_or_concat between with rfl | ⟨between', last, rfl⟩
  · obtain ⟨-, hopening⟩ := List.append_inj' heq rfl
    cases hopening
    cases ha
  · rw [List.concat_eq_append] at heq ⊢
    rw [← List.cons_append, ← List.append_assoc] at heq
    obtain ⟨-, hlast⟩ := List.append_inj' heq rfl
    cases hlast
    exact ⟨between', ch', rfl, hanswer⟩

/-- Both passes of a first authentication, one request each. -/
def samplePasses : List Request :=
  [.startFirst 0, .finishFirst (Octets.zero 16) (.repeating sampleNonce.toList)]

theorem challenge_answered_at_once_passes :
    ∃ earlier ch a, handed Script.transport samplePasses { settings := {} }
        { replies := sampleReplies } = earlier ++ [Challenge.opening {} ch] ++ [a] ∧
      a.purpose = .answering (Octets.zero 16) sampleNonce ∧
      ch.AnsweredBy (Octets.zero 16) sampleNonce a.frame := by
  have hpurposes : (handed Script.transport samplePasses { settings := {} }
      { replies := sampleReplies }).map Handed.purpose =
        [.opening 0, .answering (Octets.zero 16) sampleNonce] := by
    decide +kernel
  obtain ⟨o, as, h, -, has⟩ := List.map_eq_cons_iff.mp hpurposes
  obtain ⟨a, bs, rfl, ha, hbs⟩ := List.map_eq_cons_iff.mp has
  obtain rfl := List.map_eq_nil_iff.mp hbs
  obtain ⟨⟨earlier, ch, hbefore, hanswer⟩, -⟩ :=
    challenge_answered_at_once Script.transport { replies := sampleReplies } {} samplePasses
      (show _ = [o] ++ a :: [] from h) ha
  exact ⟨earlier, ch, a, by rw [h, ← hbefore]; rfl, ha, hanswer⟩

end Card

end CardLink
