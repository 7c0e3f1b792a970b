import Mathlib.Data.Stream.Init
import CardLink.Proofs.Frames
import CardLink.Proofs.NoDowngrade

/-!
# How a chain ends

A command is cut once into frames that carry it without loss, and the next one goes out only when
the card has asked for it. A response is collected while its frames announce another one, up to a
limit. Either loop stops at the first delivery that calls for nothing more, and that delivery alone
decides how it ends.

1. The frames of a command carry it (`splits_chunks`).
2. Sending stops at the first answer that does not ask for the next frame (`SendPlay.sends`).
3. Collecting stops at the first frame that announces no other, or at the limit
   (`CollectPlay.collects`), and so it does for every endless sequence of replies.
-/

namespace CardLink.Chaining

open Dialogue

/-! ## Sending a command -/

/-- Frames of at most `max` bytes that carry a message: every frame after the first is announced and
brings data, and together they bring the message. -/
structure Splits (max : Nat) (message : Bytes) (frames : List Bytes) : Prop where
  short : ∀ frame ∈ frames, frame.length ≤ max
  announced : ∀ frame ∈ frames.tail, ∃ data, data ≠ [] ∧ frame = continuation :: data
  whole : assemble frames = message

theorem splits_chunks {max : Nat} (hmax : 2 ≤ max) (message : Bytes) :
    Splits max message (chunks max message) where
  short := by
    refine List.forall_mem_cons.mpr ⟨List.length_take_le _ _, fun frame hframe => ?_⟩
    obtain ⟨rest, -, hlength⟩ := headed_of_mem_followers hmax hframe
    exact hlength
  announced frame hframe := by
    obtain ⟨data, hdata, rfl⟩ := List.mem_map.mp hframe
    exact ⟨data, ne_nil_of_mem_pieces hdata, rfl⟩
  whole := assemble_chunks max message

/-- What the last delivery makes of a command; `complete` says that all frames were handed over. -/
inductive SendEnd (complete : Prop) : Delivery → Except Error Bytes → Prop where
  | fault (fault : TransportFault) : SendEnd complete (.error fault) (.error (.transport fault))
  | answered (h : complete) (answer : Bytes) : SendEnd complete (.ok answer) (.ok answer)
  | empty (h : ¬ complete) : SendEnd complete (.ok []) (.error (.malformed .emptyResponse))
  | early (h : ¬ complete) (data : Bytes) :
    SendEnd complete (.ok (CardStatus.ok :: data)) (.error (.malformed .chainCompletedEarly))
  | refused (h : ¬ complete) {status : UInt8} (data : Bytes) (hok : status ≠ CardStatus.ok)
    (hmore : status ≠ CardStatus.additionalFrame) :
    SendEnd complete (.ok (status :: data)) (.error (.refused ⟨status⟩))

theorem sendEnd_of_checkContinues {complete : Prop} (hnot : ¬ complete) {answer : Bytes}
    {err : Error} (h : checkContinues answer = .error err) :
    SendEnd complete (.ok answer) (.error err) := by
  cases answer with
  | nil =>
    cases h
    exact .empty hnot
  | cons status data =>
    simp only [checkContinues] at h
    split_ifs at h with hmore
    rcases bind_error h with hcheck | ⟨u, hcheck, h⟩
    · obtain ⟨hok, -, rfl⟩ := check_error hcheck
      exact .refused hnot data hok hmore
    · rcases check_ok hcheck with rfl | hasks
      · cases h
        exact .early hnot data
      · exact absurd hasks hmore

/-- Frames go out in the order of the list. All deliveries before the last one ask for the next
frame, and the last one decides the result. -/
structure Sends (frames : List Bytes) (T : Transcript) (r : Except Error Bytes) : Prop where
  inOrder : T.map Prod.fst <+: frames
  ends : ∃ before frame delivery, T = before ++ [(frame, delivery)] ∧ (∀ e ∈ before, Asks e.2) ∧
    SendEnd (T.map Prod.fst = frames) delivery r

theorem sends_single {first : Bytes} {rest : List Bytes} {d : Delivery} {r : Except Error Bytes}
    (h : SendEnd (rest = []) d r) : Sends (first :: rest) [(first, d)] r where
  inOrder := ⟨rest, rfl⟩
  ends := by
    have hcomplete : ([(first, d)].map Prod.fst = first :: rest) = (rest = []) := by
      simp [eq_comm]
    refine ⟨[], first, d, rfl, fun e he => absurd he List.not_mem_nil, ?_⟩
    rwa [hcomplete]

theorem Sends.cons {first : Bytes} {frames : List Bytes} {d : Delivery} {T : Transcript}
    {r : Except Error Bytes} (h : Sends frames T r) (hd : Asks d) :
    Sends (first :: frames) ((first, d) :: T) r where
  inOrder := List.cons_prefix_cons.mpr ⟨rfl, h.inOrder⟩
  ends := by
    obtain ⟨before, frame, delivery, rfl, hbefore, hend⟩ := h.ends
    refine ⟨(first, d) :: before, frame, delivery, rfl, List.forall_mem_cons.mpr ⟨hd, hbefore⟩, ?_⟩
    rwa [List.map_cons, List.cons.injEq, eq_self, true_and]

theorem SendPlay.sends {first : Bytes} {rest : List Bytes} {T : Transcript}
    {r : Except Error Bytes} (h : SendPlay first rest T r) : Sends (first :: rest) T r := by
  induction h with
  | fault first rest fault => exact sends_single (.fault fault)
  | last first answer => exact sends_single (.answered rfl answer)
  | stopped h => exact sends_single (sendEnd_of_checkContinues (List.cons_ne_nil _ _) h)
  | next h hrest ih => exact ih.cons (asks_of_checkContinues h)

/-- **Sending a command.** Where a frame has no room for data, sending fails and hands nothing over.
Otherwise the frames that may be handed over are fixed by the command and the limit and carry the
command without loss. They go out in order, each after the first only when the answer to the one
before asked for it. The answer to the last one is the result; any other answer, and any fault,
stops the sending at once with an error. -/
theorem send_in_order {σ : Type} (max : Nat) (message : Bytes) (t : Transport σ) (w : σ) :
    let d := (send max message).run
    (max < 2 → d.transcript t w = [] ∧
      (d.run t w).1 = .error (.malformed .chainingThreshold)) ∧
    (2 ≤ max → Splits max message (chunks max message) ∧
      Sends (chunks max message) (d.transcript t w) (d.run t w).1) := by
  intro d
  refine ⟨fun hmax => ?_, fun hmax => ⟨splits_chunks hmax message, ?_⟩⟩
  · have hrefused : d = .done (.error (.malformed .chainingThreshold)) := by
      simp only [d, send, checkThreshold, if_pos hmax]
      rfl
    rw [hrefused]
    exact ⟨rfl, rfl⟩
  · have hsend : d = (sendAll (message.take max) (followers max message)).run := by
      simp only [d, send, checkThreshold, if_neg (Nat.not_lt_of_le hmax)]
      rfl
    rw [hsend]
    exact ((sendAll_plays _ _).run t w).sends

example : chunks 4 [0, 1, 2, 3, 4, 5, 6, 7, 8, 9] =
    [[0, 1, 2, 3], [continuation, 4, 5, 6], [continuation, 7, 8, 9]] := by cbv

/-! ## Collecting a response -/

/-- A card that gives one reply after the other, without end, whatever it is handed. -/
def endless : Transport (Stream' Delivery) where
  transmit _ replies := (replies.head, replies.tail)
  isConnected _ := true
  reset replies := (.ok (), replies)

/-- The data in a frame of a response. -/
def dataOf : Delivery → Bytes
  | .ok (_ :: data) => data
  | _ => []

/-- What a frame that announces no other one makes of the data of the response. -/
def conclude (data : Bytes) : Delivery → Except Error Reply
  | .error fault => .error (.transport fault)
  | .ok [] => .error (.malformed .emptyResponse)
  | .ok (status :: _) =>
    if status = CardStatus.ok then .ok ⟨status, data⟩ else .error (.refused ⟨status⟩)

theorem not_asks_of_ne {status : UInt8} {data : Bytes} (h : status ≠ CardStatus.additionalFrame) :
    ¬ Asks (.ok (status :: data)) := by
  rintro ⟨data', hasks⟩
  cases hasks
  exact h rfl

theorem conclude_eq_ok {data : Bytes} {d : Delivery} {reply : Reply}
    (h : conclude data d = .ok reply) : ∃ data', d = .ok (CardStatus.ok :: data') := by
  unfold conclude at h
  split at h
  · cases h
  · cases h
  · split_ifs at h with hok
    exact ⟨_, by rw [hok]⟩

/-- Frame `k` is the first one of a sequence that announces no other one. -/
def EndsAt (frames : Stream' Delivery) (k : Nat) : Prop :=
  (∀ i < k, Asks (frames.get i)) ∧ ¬ Asks (frames.get k)

/-- Collecting comes to frame `k` of a sequence and no further, since that frame announces no other
one or since no more than `more` further frames are accepted. -/
structure Collects (limit more : Nat) (before : Bytes) (frames : Stream' Delivery) (k : Nat)
    (r : Except Error Reply) : Prop where
  within : k ≤ more
  asked : ∀ i < k, Asks (frames.get i)
  ends : ¬ Asks (frames.get k) ∧
      r = conclude (before ++ (frames.take (k + 1)).flatMap dataOf) (frames.get k) ∨
    Asks (frames.get k) ∧ k = more ∧ r = .error (.chainLimitExceeded limit)

variable {limit more k : Nat} {before data : Bytes} {frames replies : Stream' Delivery}
variable {r : Except Error Reply}

theorem collects_zero {d : Delivery} (h : ¬ Asks d) (hr : r = conclude (before ++ dataOf d) d) :
    Collects limit more before (Stream'.cons d replies) 0 r where
  within := Nat.zero_le more
  asked i hi := absurd hi (Nat.not_lt_zero i)
  ends := by
    refine Or.inl ⟨h, ?_⟩
    rw [Stream'.take_succ_cons, Stream'.take_zero, List.flatMap_singleton]
    exact hr

/-- A frame that announces another one goes before. -/
theorem Collects.cons (h : Collects limit more (before ++ data) frames k r) :
    Collects limit (more + 1) before
      (Stream'.cons (.ok (CardStatus.additionalFrame :: data)) frames) (k + 1) r where
  within := Nat.succ_le_succ h.within
  asked i hi := by
    cases i with
    | zero => exact ⟨data, rfl⟩
    | succ i => exact h.asked i (Nat.lt_of_succ_lt_succ hi)
  ends := by
    refine h.ends.imp (fun ⟨hasks, hr⟩ => ⟨hasks, ?_⟩) fun ⟨hasks, hk, hr⟩ => ⟨hasks, by rw [hk], hr⟩
    rw [Stream'.take_succ_cons, List.flatMap_cons, ← List.append_assoc]
    exact hr

/-- Collecting comes to the first frame that announces no other one. -/
theorem Collects.of_endsAt {n : Nat} (h : Collects limit more before frames n r) (hk : k ≤ more)
    (hend : EndsAt frames k) : n = k ∧
      r = conclude (before ++ (frames.take (k + 1)).flatMap dataOf) (frames.get k) := by
  obtain ⟨hasked, hlast⟩ := hend
  rcases Nat.lt_trichotomy n k with hlt | rfl | hgt
  · rcases h.ends with ⟨hnot, -⟩ | ⟨-, rfl, -⟩
    · exact absurd (hasked _ hlt) hnot
    · exact absurd hlt (Nat.not_lt_of_le hk)
  · rcases h.ends with ⟨-, hr⟩ | ⟨hasks, -, -⟩
    · exact ⟨rfl, hr⟩
    · exact absurd hasks hlast
  · exact absurd (h.asked k hgt) hlast

theorem CollectPlay.collects {frame : Bytes} {T : Transcript}
    (h : CollectPlay limit more before frame T r) (hT : T.map Prod.snd = replies.take T.length) :
    Collects limit more before (Stream'.cons (.ok frame) replies) T.length r := by
  induction h generalizing replies with
  | empty more before =>
    refine collects_zero ?_ rfl
    rintro ⟨data, hasks⟩
    cases hasks
  | refused more before data h =>
    obtain ⟨hok, hmore, rfl⟩ := check_error h
    refine collects_zero (not_asks_of_ne hmore) ?_
    rw [conclude, if_neg hok]
  | last more before data => exact collects_zero (not_asks_of_ne (by decide)) rfl
  | exceeded before data =>
    exact ⟨Nat.le_refl 0, fun i hi => absurd hi (Nat.not_lt_zero i), Or.inr ⟨⟨data, rfl⟩, rfl, rfl⟩⟩
  | fault more before data fault =>
    have hhead : replies.head = .error fault := (List.cons.inj hT).1.symm
    rw [← Stream'.eta replies, hhead]
    refine (collects_zero ?_ rfl).cons
    rintro ⟨data', hasks⟩
    cases hasks
  | next data h ih =>
    obtain ⟨hhead, htail⟩ := List.cons.inj hT
    have hrest := ih htail
    rw [show Except.ok _ = replies.head from hhead, Stream'.eta] at hrest
    exact hrest.cons

theorem reaches_endless {replies' : Stream' Delivery} {T : Transcript}
    (h : Reaches endless replies T replies') :
    T.map Prod.snd = replies.take T.length ∧ replies' = replies.drop T.length := by
  induction T generalizing replies with
  | nil => exact ⟨rfl, h⟩
  | cons e T ih =>
    obtain ⟨hhead, hrest⟩ := h
    obtain ⟨htail, hend⟩ := ih hrest
    refine ⟨?_, hend⟩
    rw [List.map_cons, List.length_cons, Stream'.take_succ, htail]
    exact congrArg (· :: _) hhead.symm

/-- **Collecting a response.** For every first frame, every endless sequence of replies and every
limit. The host hands over nothing but requests for another frame, and fewer of them than frames are
allowed; replies that it did not ask for stay unread. If one of the frames within the limit announces
no other one, then the first such frame ends the response: with the data of all frames up to it, in
their order, if it reports success, and with its own error otherwise. If there is no such frame, then
the limit is reported. So there is a response exactly if the first frame that announces no other one
lies within the limit and reports success. -/
theorem receive_endless (limit : Nat) (first : Bytes) (replies : Stream' Delivery) :
    let d := (receive limit first).run
    let T := d.transcript endless replies
    let e := d.run endless replies
    let frames := Stream'.cons (.ok first) replies
    let most := max limit 1
    (T.length < most ∧ T.map Prod.fst = List.replicate T.length [continuation] ∧
      T.map Prod.snd = replies.take T.length ∧ e.2 = replies.drop T.length) ∧
    (∀ k < most, EndsAt frames k → T.length = k ∧
      e.1 = conclude ((frames.take (k + 1)).flatMap dataOf) (frames.get k)) ∧
    ((∀ i < most, Asks (frames.get i)) → T.length + 1 = most ∧
      e.1 = .error (.chainLimitExceeded limit)) ∧
    ((∃ reply, e.1 = .ok reply) ↔
      ∃ k < most, EndsAt frames k ∧ ∃ data, frames.get k = .ok (CardStatus.ok :: data)) := by
  intro d T e frames most
  have hplay : CollectPlay limit (limit - 1) [] first T e.1 :=
    (collect_plays limit (limit - 1) [] first).run endless replies
  obtain ⟨hreplies, hrest⟩ := reaches_endless (reaches_run endless d replies)
  have hcollects := hplay.collects hreplies
  have hmost : most = limit - 1 + 1 := by omega
  have hwithin : T.length < most := by
    rw [hmost]
    exact Nat.lt_succ_of_le hcollects.within
  have hends : ∀ k < most, EndsAt frames k → T.length = k ∧
      e.1 = conclude ((frames.take (k + 1)).flatMap dataOf) (frames.get k) := by
    intro k hk hend
    rw [hmost] at hk
    exact hcollects.of_endsAt (Nat.le_of_lt_succ hk) hend
  refine ⟨⟨hwithin, hplay.frames_eq, hreplies, hrest⟩, hends, ?_, ?_, ?_⟩
  · intro hasked
    rcases hcollects.ends with ⟨hnot, -⟩ | ⟨-, hfull, hr⟩
    · exact absurd (hasked _ hwithin) hnot
    · exact ⟨by omega, hr⟩
  · rintro ⟨reply, hreply⟩
    rcases hcollects.ends with ⟨hnot, hr⟩ | ⟨-, -, hr⟩
    · exact ⟨T.length, hwithin, ⟨hcollects.asked, hnot⟩, conclude_eq_ok (hr.symm.trans hreply)⟩
    · cases hr.symm.trans hreply
  · rintro ⟨k, hk, hend, data, hdata⟩
    obtain ⟨-, hr⟩ := hends k hk hend
    rw [hdata] at hr
    exact ⟨_, hr⟩

/-- The limit counts the first frame, and no limit is below one. -/
example :
    let replies : Stream' Delivery := Stream'.const (.ok [CardStatus.ok])
    (receive 0 [CardStatus.additionalFrame]).run.run endless replies =
      (.error (.chainLimitExceeded 0), replies) := rfl

end CardLink.Chaining
