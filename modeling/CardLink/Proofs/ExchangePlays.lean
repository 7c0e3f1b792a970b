import CardLink.KeyUpdate
import CardLink.Proofs.Chains

/-!
# The plays of an exchange

An exchange is refused before its first frame, or it is one round trip whose outcome settles the
session. A key update is such an exchange too, in both of its forms. What holds of every exchange
follows from this by cases, without opening the operations of a session again.
-/

namespace CardLink

namespace Session

variable {α : Type}

theorem requireProtection_eq_ok {s : Session} {p : Protection} :
    s.requireProtection = .ok p ↔ s.protection = some p := by
  unfold requireProtection
  cases s.protection <;> simp

/-- A command that is put together passes the check of the settings and is protected. -/
theorem protectedFrame_ok {s : Session} {settings : Settings} {cmd : Command} {frame : Bytes}
    (h : s.protectedFrame settings cmd = .ok frame) :
    ∃ p, s.protection = some p ∧ 2 ≤ settings.maxFrameLength ∧ p.protect cmd = .ok frame := by
  obtain ⟨u, hthreshold, h⟩ := bind_ok h
  obtain ⟨p, hp, h⟩ := bind_ok h
  unfold Chaining.checkThreshold at hthreshold
  split_ifs at hthreshold with hmax
  exact ⟨p, requireProtection_eq_ok.mp hp, Nat.le_of_not_lt hmax, h⟩

/-- How an exchange can go. -/
inductive ExchangePlay (s : Session) (settings : Settings) (cmd : Command)
    (finish : Reply → Except Error (α × Session)) :
    Transcript → Except Error α × Session → Prop where
  | refused {err : Error} (h : s.protectedFrame settings cmd = .error err) :
    ExchangePlay s settings cmd finish [] (.error err, s.afterRefusal err)
  | settled {p : Protection} {frame : Bytes} {T : Transcript} {outcome : Except Error Reply}
    (hp : s.protection = some p) (hmax : 2 ≤ settings.maxFrameLength)
    (hframe : p.protect cmd = .ok frame) (htrip : Chaining.RoundTripPlay settings frame T outcome) :
    ExchangePlay s settings cmd finish T (s.settle (outcome >>= finish))

theorem issueWith_plays (s : Session) (settings : Settings) (cmd : Command)
    (finish : Reply → Except Error (α × Session)) :
    (s.issueWith settings cmd finish).Plays (s.ExchangePlay settings cmd finish) := by
  unfold issueWith
  cases h : s.protectedFrame settings cmd with
  | error err => exact .refused h
  | ok frame =>
    obtain ⟨p, hp, hmax, hframe⟩ := protectedFrame_ok h
    simp only [Dialogue.pure_eq, Dialogue.plays_bind_done]
    exact (Chaining.roundTrip_plays settings frame).mono fun T outcome htrip =>
      .settled hp hmax hframe htrip

end Session

/-! ## Key updates -/

theorem KeyUpdate.commandIn_ok {u : KeyUpdate} {s : Session} {keySet : Option UInt8} {c : Command}
    (h : u.commandIn s keySet = .ok c) :
    ∃ slot payload, u.slotIn s = .ok slot ∧ u.cryptogram (u.formIn s) = .ok payload ∧
      c = { code := if keySet.isSome then 0xC6 else 0xC4, mode := .full,
            header := keySet.toList ++ [slot], payload } := by
  obtain ⟨p, -, h⟩ := bind_ok h
  obtain ⟨slot, hslot, h⟩ := bind_ok h
  obtain ⟨payload, hpayload, h⟩ := bind_ok h
  refine ⟨slot, payload, hslot, hpayload, ?_⟩
  cases keySet <;> cases h <;> rfl

/-- What a session makes of the reply to a key update. -/
def KeyUpdate.finishIn (u : KeyUpdate) (s : Session) (mode : CommMode) (r : Reply) :
    Except Error (Unit × Session) :=
  match u.formIn s with
  | .authenticatedSlot => .ok ((), s.invalidate)
  | .otherSlot => do
    let e ← s.accept mode r
    return ((), e.2)

/-- The value of an outcome does not matter for what becomes of the session. -/
theorem Session.settle_forget {α : Type} (s : Session) (outcome : Except Error (α × Session)) :
    s.settle (outcome >>= fun e => .ok ((), e.2)) =
      ((s.settle outcome).1.map fun _ => (), (s.settle outcome).2) := by
  cases outcome <;> rfl

/-- In both forms a key update is an exchange. -/
theorem Session.updateKey_eq_issueWith {s : Session} {u : KeyUpdate} {keySet : Option UInt8}
    {cmd : Command} (h : u.commandIn s keySet = .ok cmd) (settings : Settings) :
    s.updateKey settings u keySet = s.issueWith settings cmd (u.finishIn s cmd.mode) := by
  unfold updateKey KeyUpdate.finishIn
  rw [h]
  cases u.formIn s with
  | authenticatedSlot => rfl
  | otherSlot =>
    simp only [issue, issueWith]
    cases s.protectedFrame settings cmd with
    | error err => rfl
    | ok frame =>
      simp only [bind_assoc]
      congr 1
      funext outcome
      cases outcome with
      | error err => rfl
      | ok reply =>
        exact congrArg Dialogue.done (s.settle_forget (s.accept cmd.mode reply)).symm

end CardLink
