import CardLink.Chaining
import CardLink.Proofs.Plays

/-!
# The plays of a chain

The loops that send a command and collect its response are described here once, by the ways in which
each of their rounds can go. Facts about a whole round trip follow by induction on these
descriptions, without opening the loops again.
-/

namespace CardLink

/-- The response that deliveries make up: the data of all frames under the status of the last. -/
def Reply.ofDeliveries : List Delivery → Option Reply
  | [] => none
  | .error _ :: _ => none
  | .ok [] :: _ => none
  | [.ok (status :: data)] => some ⟨status, data⟩
  | .ok (_ :: data) :: r :: rest =>
    (ofDeliveries (r :: rest)).map fun reply => ⟨reply.status, data ++ reply.data⟩

namespace Chaining

open Conversation

/-! ## Pieces -/

theorem flatten_pieces (k : Nat) (bs : Bytes) : (pieces k bs).flatten = bs := by
  induction bs using pieces.induct k with
  | case1 => simp [pieces]
  | case2 b bs ih =>
    rw [pieces, List.flatten_cons, ih, List.cons_append, List.take_append_drop]

theorem ne_nil_of_mem_pieces {k : Nat} {bs q : Bytes} (h : q ∈ pieces k bs) : q ≠ [] := by
  induction bs using pieces.induct k with
  | case1 => simp [pieces] at h
  | case2 b bs ih =>
    rw [pieces] at h
    rcases List.mem_cons.mp h with rfl | h
    · exact List.cons_ne_nil _ _
    · exact ih h

/-! ## The loops -/

/-- How sending a frame and those after it can go. -/
inductive SendPlay : Bytes → List Bytes → Transcript → Except Error Bytes → Prop where
  | fault (first : Bytes) (rest : List Bytes) (fault : TransportFault) :
    SendPlay first rest [(first, .error fault)] (.error (.transport fault))
  | last (first answer : Bytes) : SendPlay first [] [(first, .ok answer)] (.ok answer)
  | stopped {first next : Bytes} {rest : List Bytes} {answer : Bytes} {err : Error}
    (h : checkContinues answer = .error err) :
    SendPlay first (next :: rest) [(first, .ok answer)] (.error err)
  | next {first next : Bytes} {rest : List Bytes} {answer : Bytes} {T : Transcript}
    {r : Except Error Bytes} (h : checkContinues answer = .ok ()) (hrest : SendPlay next rest T r) :
    SendPlay first (next :: rest) ((first, .ok answer) :: T) r

theorem sendAll_plays (first : Bytes) (rest : List Bytes) :
    (sendAll first rest).run.Plays (SendPlay first rest) := by
  induction rest generalizing first with
  | nil =>
    unfold sendAll
    rw [run_transmit]
    intro r
    cases r with
    | ok answer => exact .last first answer
    | error fault => exact .fault first [] fault
  | cons next rest ih =>
    unfold sendAll
    rw [plays_transmit_bind]
    refine ⟨fun fault => .fault first _ fault, fun answer => ?_⟩
    rw [plays_lift_bind]
    exact ⟨fun err h => .stopped h, fun _ h => (ih next).mono fun T r hrest => .next h hrest⟩

/-- How collecting a response can go, by the number of further frames that are accepted, the data
collected before and the frame at hand. -/
inductive CollectPlay (limit : Nat) :
    Nat → Bytes → Bytes → Transcript → Except Error Reply → Prop where
  | empty (more : Nat) (before : Bytes) :
    CollectPlay limit more before [] [] (.error (.malformed .emptyResponse))
  | refused (more : Nat) (before : Bytes) {status : UInt8} (data : Bytes) {err : Error}
    (h : CardStatus.check status = .error err) :
    CollectPlay limit more before (status :: data) [] (.error err)
  | last (more : Nat) (before data : Bytes) :
    CollectPlay limit more before (CardStatus.ok :: data) [] (.ok ⟨CardStatus.ok, before ++ data⟩)
  | exceeded (before data : Bytes) :
    CollectPlay limit 0 before (CardStatus.additionalFrame :: data) []
      (.error (.chainLimitExceeded limit))
  | fault (more : Nat) (before data : Bytes) (fault : TransportFault) :
    CollectPlay limit (more + 1) before (CardStatus.additionalFrame :: data)
      [([continuation], .error fault)] (.error (.transport fault))
  | next {more : Nat} {before : Bytes} (data : Bytes) {frame : Bytes} {T : Transcript}
    {r : Except Error Reply} (h : CollectPlay limit more (before ++ data) frame T r) :
    CollectPlay limit (more + 1) before (CardStatus.additionalFrame :: data)
      (([continuation], .ok frame) :: T) r

theorem check_ok {status : UInt8} {u : Unit} (h : CardStatus.check status = .ok u) :
    status = CardStatus.ok ∨ status = CardStatus.additionalFrame := by
  unfold CardStatus.check at h
  split_ifs at h with hstatus
  exact hstatus

theorem check_error {status : UInt8} {err : Error} (h : CardStatus.check status = .error err) :
    status ≠ CardStatus.ok ∧ status ≠ CardStatus.additionalFrame ∧ err = .refused ⟨status⟩ := by
  unfold CardStatus.check at h
  split_ifs at h with hstatus
  cases h
  exact ⟨fun hok => hstatus (Or.inl hok), fun hmore => hstatus (Or.inr hmore), rfl⟩

/-- One round of collecting. -/
theorem run_collect (limit more : Nat) (before : Bytes) (status : UInt8) (data : Bytes) :
    (collect limit more before (status :: data)).run = match CardStatus.check status with
      | .error err => .done (.error err)
      | .ok _ =>
        if status = CardStatus.additionalFrame then
          match more with
          | 0 => .done (.error (.chainLimitExceeded limit))
          | more + 1 =>
            (transmit [continuation] >>= fun next => collect limit more (before ++ data) next).run
        else .done (.ok ⟨status, before ++ data⟩) := by
  conv_lhs => unfold collect
  show ((liftM (CardStatus.check status) : Conversation Unit) >>= _).run = _
  rw [run_lift_bind]
  cases CardStatus.check status with
  | error err => rfl
  | ok _ =>
    by_cases h : status = CardStatus.additionalFrame
    · simp only [h, if_true]
      cases more <;> rfl
    · simp only [h, if_false]
      rfl

/-- A round with a further frame leaves the next round to the hypothesis. -/
theorem collect_plays_of_next {limit more : Nat}
    (ih : ∀ less, more = less + 1 → ∀ before frame,
      (collect limit less before frame).run.Plays (CollectPlay limit less before frame))
    (before frame : Bytes) :
    (collect limit more before frame).run.Plays (CollectPlay limit more before frame) := by
  cases frame with
  | nil =>
    unfold collect
    exact .empty more before
  | cons status data =>
    rw [run_collect]
    cases h : CardStatus.check status with
    | error err => exact .refused more before data h
    | ok _ =>
      rcases check_ok h with rfl | rfl
      · exact .last more before data
      · simp only [if_true]
        cases more with
        | zero => exact .exceeded before data
        | succ less =>
          simp only [plays_transmit_bind]
          refine ⟨fun fault => .fault less before data fault, fun next => ?_⟩
          exact (ih less rfl (before ++ data) next).mono fun T r hnext => .next data hnext

theorem collect_plays (limit more : Nat) (before frame : Bytes) :
    (collect limit more before frame).run.Plays (CollectPlay limit more before frame) := by
  induction more generalizing before frame with
  | zero => exact collect_plays_of_next (fun less h => by cases h) before frame
  | succ more ih =>
    refine collect_plays_of_next (fun less h => ?_) before frame
    cases h
    exact ih

/-! ## Round trips -/

/-- How a round trip can go: the pieces have no room, or the command is not sent to its end, or the
response that begins with the answer to its last frame is collected. -/
inductive RoundTripPlay (settings : Settings) (frame : Bytes) :
    Transcript → Except Error Reply → Prop where
  | threshold (h : settings.maxFrameLength < 2) :
    RoundTripPlay settings frame [] (.error (.malformed .chainingThreshold))
  | unsent {T : Transcript} {err : Error}
    (h : SendPlay (frame.take settings.maxFrameLength) (followers settings.maxFrameLength frame) T
      (.error err)) :
    RoundTripPlay settings frame T (.error err)
  | sent {T T' : Transcript} {first : Bytes} {r : Except Error Reply}
    (h : SendPlay (frame.take settings.maxFrameLength) (followers settings.maxFrameLength frame) T
      (.ok first))
    (h' : CollectPlay settings.maxResponseFrames (settings.maxResponseFrames - 1) [] first T' r) :
    RoundTripPlay settings frame (T ++ T') r

theorem roundTrip_plays (settings : Settings) (frame : Bytes) :
    (roundTrip settings frame).run.Plays (RoundTripPlay settings frame) := by
  unfold roundTrip send checkThreshold
  rw [plays_bind, plays_lift_bind]
  constructor
  · intro err herr
    split_ifs at herr with h
    cases herr
    exact .threshold h
  · intro _ _
    refine (sendAll_plays _ _).mono ?_
    intro T r hsend
    cases r with
    | error err => exact .unsent hsend
    | ok first => exact (collect_plays _ _ _ first).mono fun T' r hcollect => .sent hsend hcollect

/-! ## The response in a play -/

/-- The response in a play of a round trip: what answered the last frame of the command, and what
followed it. -/
def responseIn (settings : Settings) (frame : Bytes) (T : Transcript) : Option Reply :=
  Reply.ofDeliveries ((T.drop (followers settings.maxFrameLength frame).length).map Prod.snd)

theorem SendPlay.of_ok {first answer : Bytes} {rest : List Bytes} {T : Transcript}
    {r : Except Error Bytes} (h : SendPlay first rest T r) (hr : r = .ok answer) :
    ∃ T' frame, T'.length = rest.length ∧ T = T' ++ [(frame, .ok answer)] := by
  induction h with
  | fault first rest fault => cases hr
  | last first a =>
    cases hr
    exact ⟨[], first, rfl, rfl⟩
  | stopped h => cases hr
  | next h hrest ih =>
    obtain ⟨T', frame, hlength, rfl⟩ := ih hr
    exact ⟨_ :: T', frame, congrArg Nat.succ hlength, rfl⟩

/-- A command that was not sent to its end has no response. -/
theorem SendPlay.of_error {first : Bytes} {rest : List Bytes} {T : Transcript} {err : Error}
    {r : Except Error Bytes} (h : SendPlay first rest T r) (hr : r = .error err) :
    Reply.ofDeliveries ((T.drop rest.length).map Prod.snd) = none := by
  induction h with
  | fault first rest fault => cases rest <;> simp [Reply.ofDeliveries]
  | last first a => cases hr
  | stopped h => simp [Reply.ofDeliveries]
  | next h hrest ih => exact ih hr

/-- The reply that is reported is the response, put after the data before. -/
theorem CollectPlay.ofDeliveries {limit more : Nat} {before frame : Bytes} {T : Transcript}
    {r : Except Error Reply} (h : CollectPlay limit more before frame T r) (reply : Reply) :
    r = .ok reply ↔ ∃ data, reply = ⟨CardStatus.ok, before ++ data⟩ ∧
      Reply.ofDeliveries (.ok frame :: T.map Prod.snd) = some ⟨CardStatus.ok, data⟩ := by
  induction h with
  | empty more before => simp [Reply.ofDeliveries]
  | refused more before data h =>
    rename_i status err
    have hstatus : status ≠ CardStatus.ok := by
      rintro rfl
      cases h
    simp [Reply.ofDeliveries, hstatus]
  | last more before data => simp [Reply.ofDeliveries, eq_comm]
  | exceeded before data =>
    have hstatus : CardStatus.additionalFrame ≠ CardStatus.ok := by decide
    simp [Reply.ofDeliveries, hstatus]
  | fault more before data fault => simp [Reply.ofDeliveries]
  | next data h ih =>
    rw [ih]
    constructor
    · rintro ⟨data', rfl, hdata'⟩
      refine ⟨data ++ data', by rw [List.append_assoc], ?_⟩
      simp only [List.map_cons, Reply.ofDeliveries, hdata', Option.map_some]
    · rintro ⟨all, rfl, hall⟩
      simp only [List.map_cons, Reply.ofDeliveries, Option.map_eq_some_iff] at hall
      obtain ⟨⟨status, data'⟩, hdata', heq⟩ := hall
      cases heq
      exact ⟨data', by rw [List.append_assoc], hdata'⟩

/-- The host reports the response in a play exactly if its last frame announces success. -/
theorem RoundTripPlay.responseIn {settings : Settings} {frame : Bytes} {T : Transcript}
    {r : Except Error Reply} (h : RoundTripPlay settings frame T r) (reply : Reply) :
    r = .ok reply ↔
      responseIn settings frame T = some reply ∧ reply.status = CardStatus.ok := by
  unfold Chaining.responseIn
  cases h with
  | threshold => simp [Reply.ofDeliveries]
  | unsent h =>
    rw [h.of_error rfl]
    simp
  | sent h h' =>
    obtain ⟨T', last, hlength, rfl⟩ := h.of_ok rfl
    rw [List.append_assoc, ← hlength, List.drop_left, h'.ofDeliveries]
    obtain ⟨status, data⟩ := reply
    constructor
    · rintro ⟨data, heq, hdata⟩
      cases heq
      exact ⟨hdata, rfl⟩
    · rintro ⟨hdata, rfl⟩
      exact ⟨data, rfl, hdata⟩

end Chaining

end CardLink
