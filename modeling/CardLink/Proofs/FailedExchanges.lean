import CardLink.Proofs.ExchangePlays
import CardLink.Proofs.Judgements

/-!
# Faults in the middle of an exchange

The frames of an exchange stop at the first fault of the transport, and the exchange reports that
fault. The session then looks at the fault alone: it cannot tell a fault at the first frame from one
after some frames were answered.

1. A round trip stops at the first fault (`RoundTripPlay.stopsAtFault`).
2. An exchange that reports a fault leaves the session as the fault says (`issueWith_settlesFault`).
3. So a missing connection leaves the session valid at whichever frame it strikes
   (`valid_after_fault_iff`).
-/

namespace CardLink

variable {α : Type}

/-! ## Where a fault strikes -/

/-- Every frame of the play was answered. -/
def Answered (T : Transcript) : Prop := ∀ e ∈ T, ∃ answer, e.2 = .ok answer

theorem answered_nil : Answered [] := by
  intro e he
  cases he

theorem Answered.append {T T' : Transcript} (h : Answered T) (h' : Answered T') :
    Answered (T ++ T') := by
  intro e he
  rcases List.mem_append.mp he with he | he
  · exact h e he
  · exact h' e he

/-- The play stops at the first fault and reports it; without a fault it reports none. -/
inductive StopsAtFault : Transcript → Except Error α → Prop where
  | fault {T : Transcript} (h : Answered T) (frame : Bytes) (fault : TransportFault) :
    StopsAtFault (T ++ [(frame, .error fault)]) (.error (.transport fault))
  | answered {T : Transcript} {r : Except Error α} (h : Answered T) (hr : JudgesAnswer r) :
    StopsAtFault T r

theorem StopsAtFault.prepend {T T' : Transcript} {r : Except Error α} (hT : Answered T)
    (h : StopsAtFault T' r) : StopsAtFault (T ++ T') r := by
  cases h with
  | fault hT' frame fault =>
    rw [← List.append_assoc]
    exact .fault (hT.append hT') frame fault
  | answered hT' hr => exact .answered (hT.append hT') hr

/-- An error says the same whatever a success would have yielded. -/
theorem StopsAtFault.error {β : Type} {T : Transcript} {err : Error}
    (h : StopsAtFault T (.error err : Except Error α)) :
    StopsAtFault T (.error err : Except Error β) := by
  cases h with
  | fault hT frame fault => exact .fault hT frame fault
  | answered hT hr => exact .answered hT (judgesAnswer_error (hr err rfl))

theorem StopsAtFault.last {T : Transcript} {r : Except Error α} {fault : TransportFault}
    (h : StopsAtFault T r) (hr : r = .error (.transport fault)) :
    ∃ answered frame, Answered answered ∧ T = answered ++ [(frame, .error fault)] := by
  cases h with
  | fault hT frame fault' =>
    cases hr
    exact ⟨_, frame, hT, rfl⟩
  | answered hT hjudge => cases hjudge _ hr

/-! ## Round trips -/

theorem answered_singleton (frame answer : Bytes) : Answered [(frame, .ok answer)] := by
  intro e he
  rw [List.mem_singleton.mp he]
  exact ⟨answer, rfl⟩

namespace Chaining

theorem SendPlay.stopsAtFault {first : Bytes} {rest : List Bytes} {T : Transcript}
    {r : Except Error Bytes} (h : SendPlay first rest T r) : StopsAtFault T r := by
  induction h with
  | fault first rest fault => exact .fault answered_nil first fault
  | last first answer => exact .answered (answered_singleton first answer) (judgesAnswer_ok answer)
  | stopped h =>
    exact .answered (answered_singleton _ _)
      (judgesAnswer_error (judgesAnswer_checkContinues _ _ h))
  | next h hrest ih => exact ih.prepend (answered_singleton _ _)

theorem CollectPlay.stopsAtFault {limit more : Nat} {before frame : Bytes} {T : Transcript}
    {r : Except Error Reply} (h : CollectPlay limit more before frame T r) : StopsAtFault T r := by
  induction h with
  | empty more before => exact .answered answered_nil (judgesAnswer_error rfl)
  | refused more before data h =>
    exact .answered answered_nil (judgesAnswer_error (judgesAnswer_statusCheck _ _ h))
  | last more before data => exact .answered answered_nil (judgesAnswer_ok _)
  | exceeded before data => exact .answered answered_nil (judgesAnswer_error rfl)
  | fault more before data fault => exact .fault answered_nil _ fault
  | next data h ih => exact ih.prepend (answered_singleton _ _)

/-- A round trip stops at the first fault and reports it. -/
theorem RoundTripPlay.stopsAtFault {settings : Settings} {frame : Bytes} {T : Transcript}
    {r : Except Error Reply} (h : RoundTripPlay settings frame T r) : StopsAtFault T r := by
  cases h with
  | threshold => exact .answered answered_nil (judgesAnswer_error rfl)
  | unsent h => exact h.stopsAtFault.error
  | sent h h' =>
    cases h.stopsAtFault with
    | answered hT _ => exact h'.stopsAtFault.prepend hT

end Chaining

/-! ## Key updates that cannot be written -/

namespace KeyUpdate

variable {u : KeyUpdate} {s : Session} {err : Error}

theorem slotIn_error (h : u.slotIn s = .error err) : err.blamesInput = true := by
  unfold slotIn slotByte at h
  split_ifs at h
  cases h
  rfl

theorem cryptogram_error {form : Form} (h : u.cryptogram form = .error err) :
    err.blamesInput = true := by
  cases form with
  | authenticatedSlot => cases h
  | otherSlot =>
    simp only [cryptogram, plaintext, requireOldKey] at h
    cases hold : u.oldKey with
    | none =>
      rw [hold] at h
      cases h
      rfl
    | some old =>
      simp only [hold] at h
      split_ifs at h <;> cases h
      rfl

/-- A session refuses to write a key update for its input or for what the session is. -/
theorem commandIn_error {keySet : Option UInt8} (h : u.commandIn s keySet = .error err) :
    err.blamesInput = true ∨ err = .sessionInvalidated ∨ err = .unsupported .keyUpdate := by
  rcases bind_error h with haes | ⟨p, -, h⟩
  · unfold Session.requireAes Session.requireProtection at haes
    rcases hs : s.protection with _ | p | p <;> rw [hs] at haes <;> cases haes
    · exact Or.inr (Or.inl rfl)
    · exact Or.inr (Or.inr rfl)
  rcases bind_error h with hslot | ⟨slot, -, h⟩
  · exact Or.inl (slotIn_error hslot)
  rcases bind_error h with hcryptogram | ⟨payload, -, h⟩
  · exact Or.inl (cryptogram_error hcryptogram)
  · cases keySet <;> cases h

end KeyUpdate

/-! ## Sessions -/

namespace Session

/-- If the play reports a fault, then the fault struck the last frame after answers to all frames
before, and the session is as the fault alone says. -/
def SettlesFault (s : Session) (T : Transcript) (e : Except Error α × Session) : Prop :=
  ∀ fault, e.1 = .error (.transport fault) →
    (∃ answered frame, Answered answered ∧ T = answered ++ [(frame, .error fault)]) ∧
      e.2 = s.afterFailure (.transport fault)

theorem settlesFault_of_judges {s s' : Session} {T : Transcript} {r : Except Error α}
    (hr : JudgesAnswer r) : s.SettlesFault T (r, s') := by
  intro fault h
  cases hr _ h

/-- A key update that cannot be written has met no fault. -/
theorem commandIn_ne_fault {s : Session} {u : KeyUpdate} {keySet : Option UInt8}
    {fault : TransportFault} : u.commandIn s keySet ≠ .error (.transport fault) := by
  intro h
  rcases KeyUpdate.commandIn_error h with h | h | h <;> cases h

theorem issueWith_settlesFault {s : Session} (hs : s.isValid = true) (settings : Settings)
    (c : Command) {finish : Reply → Except Error (α × Session)}
    (hfinish : ∀ r, JudgesAnswer (finish r)) :
    (s.issueWith settings c finish).Plays s.SettlesFault := by
  refine (s.issueWith_plays settings c finish).mono ?_
  intro T e hplay
  cases hplay with
  | refused herr =>
    have hjudge := judgesAnswer_protectedFrame hs settings c _ herr
    exact settlesFault_of_judges (judgesAnswer_error hjudge)
  | settled hp hmax hframe htrip =>
    rename_i outcome
    cases outcome with
    | error err =>
      intro fault hfault
      cases hfault
      exact ⟨htrip.stopsAtFault.last rfl, rfl⟩
    | ok reply =>
      show s.SettlesFault T (s.settle (finish reply))
      cases hr : finish reply with
      | error err => exact settlesFault_of_judges (judgesAnswer_error (hfinish reply err hr))
      | ok a => exact settlesFault_of_judges (judgesAnswer_ok _)

theorem issue_settlesFault {s : Session} (hs : s.isValid = true) (settings : Settings)
    (c : Command) : (s.issue settings c).Plays s.SettlesFault :=
  issueWith_settlesFault hs settings c (judgesAnswer_accept hs c.mode)

theorem updateKey_settlesFault {s : Session} (hs : s.isValid = true) (settings : Settings)
    (u : KeyUpdate) (keySet : Option UInt8) :
    (s.updateKey settings u keySet).Plays s.SettlesFault := by
  cases h : u.commandIn s keySet with
  | error err =>
    unfold updateKey
    rw [h]
    rintro fault herr
    cases herr
    exact absurd h commandIn_ne_fault
  | ok c =>
    rw [updateKey_eq_issueWith h]
    refine issueWith_settlesFault hs settings c fun r => ?_
    unfold KeyUpdate.finishIn
    cases u.formIn s with
    | authenticatedSlot => exact judgesAnswer_ok _
    | otherSlot => exact (judgesAnswer_accept hs c.mode r).bind fun _ => judgesAnswer_ok _

/-- What a valid session can be asked for, with what a success yields. -/
inductive Exchange : Type → Type where
  | command (c : Command) : Exchange Bytes
  | keyUpdate (u : KeyUpdate) (keySet : Option UInt8) : Exchange Unit

/-- The exchange as a session conducts it. -/
def Exchange.conduct (s : Session) (settings : Settings) :
    Exchange α → Dialogue (Except Error α × Session)
  | command c => s.issue settings c
  | keyUpdate u keySet => s.updateKey settings u keySet

/-- **A fault in the middle of an exchange.** When an exchange of a valid session reports a fault of
the transport and the card answered some frame of it, then the fault struck the last frame, the
frames before were all answered, and the session stays valid exactly if the fault is a missing
connection. -/
theorem valid_after_fault_iff {σ : Type} (s : Session) (hs : s.isValid = true)
    (settings : Settings) (e : Exchange α) (t : Transport σ) (w : σ) (fault : TransportFault)
    (hfault : ((e.conduct s settings).run t w).1.1 = .error (.transport fault))
    (hanswer : ∃ answer, .ok answer ∈ ((e.conduct s settings).transcript t w).map Prod.snd) :
    (∃ answered frame, answered ≠ [] ∧ Answered answered ∧
      (e.conduct s settings).transcript t w = answered ++ [(frame, .error fault)]) ∧
    (((e.conduct s settings).run t w).1.2.isValid = true ↔ fault = .notConnected) := by
  have hplays : (e.conduct s settings).Plays s.SettlesFault := by
    cases e with
    | command c => exact issue_settlesFault hs settings c
    | keyUpdate u keySet => exact updateKey_settlesFault hs settings u keySet
  obtain ⟨⟨answered, frame, hanswered, hT⟩, hafter⟩ := hplays.run t w fault hfault
  refine ⟨⟨answered, frame, ?_, hanswered, hT⟩, ?_⟩
  · rintro rfl
    obtain ⟨answer, hok⟩ := hanswer
    rw [hT] at hok
    cases List.mem_singleton.mp hok
  · rw [hafter]
    unfold afterFailure
    by_cases h : fault = .notConnected
    · rw [h]
      exact iff_of_true hs rfl
    · have hsent : fault.maybeSent = true := by
        cases fault <;> first | rfl | exact absurd rfl h
      simp [Error.leavesInStep, hsent, h, invalidate, isValid]

/-! ### A connection lost between two frames -/

/-- A session under AES. -/
def sample : Session :=
  .start (.aes { keys := ⟨Octets.zero 16, Octets.zero 16⟩, ti := Octets.zero 4 }) 0

/-- A command of one byte with a tag. -/
def sampleCommand : Command := { code := 0x6A, mode := .mac }

theorem not_valid_after_timeout :
    let d := (Exchange.command sampleCommand).conduct sample {}
    let w : Script := .failingAfter [CardStatus.additionalFrame] .timeout
    (d.run Script.transport w).1.1 = .error (.transport .timeout) ∧
      ((d.run Script.transport w).1.2.isValid = true ↔
        TransportFault.timeout = .notConnected) := by
  refine ⟨by decide +kernel, ?_⟩
  refine (valid_after_fault_iff sample rfl {} (.command sampleCommand) Script.transport
    (.failingAfter [CardStatus.additionalFrame] .timeout) .timeout (by decide +kernel) ?_).2
  exact ⟨[CardStatus.additionalFrame], by decide +kernel⟩

/-- The card announces a second frame, the connection is gone when the host asks for it, and the
session stays valid. -/
theorem valid_after_dropped_connection :
    let d := (Exchange.command sampleCommand).conduct sample {}
    let w : Script := .failingAfter [CardStatus.additionalFrame] .notConnected
    (d.transcript Script.transport w).map Prod.snd = w.replies ∧
      (d.run Script.transport w).1.1 = .error (.transport .notConnected) ∧
      sample.isValid = true ∧ (d.run Script.transport w).1.2.isValid = true := by
  decide +kernel

end Session

end CardLink
