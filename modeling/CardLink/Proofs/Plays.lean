import Mathlib.Tactic.Common
import CardLink.Dialogue

/-!
# Plays of a dialogue

A play is one way through a dialogue: the frames handed over, each with what came back, and the
value at the end. What holds of every play holds of the play that a transport brings about, so facts
that relate the end of a conversation to the frames before it are proved over the tree, one node at
a time.
-/

namespace CardLink

/-- Frames handed to a transport, each with what came back, in order. -/
abbrev Transcript := List (Bytes × Delivery)

namespace Dialogue

variable {α β σ : Type}

/-- Every play of a dialogue has the property. -/
def Plays (P : Transcript → α → Prop) : Dialogue α → Prop
  | done a => P [] a
  | send frame next => ∀ r, (next r).Plays fun T a => P ((frame, r) :: T) a

@[simp] theorem plays_done {P : Transcript → α → Prop} {a : α} : (done a).Plays P ↔ P [] a :=
  Iff.rfl

@[simp] theorem plays_send {P : Transcript → α → Prop} {frame : Bytes}
    {next : Delivery → Dialogue α} :
    (send frame next).Plays P ↔ ∀ r, (next r).Plays fun T a => P ((frame, r) :: T) a :=
  Iff.rfl

theorem Plays.mono {P Q : Transcript → α → Prop} {d : Dialogue α} (hd : d.Plays P)
    (h : ∀ T a, P T a → Q T a) : d.Plays Q := by
  induction d generalizing P Q with
  | done a => exact h [] a hd
  | send frame next ih => exact fun r => ih r (hd r) fun T a => h ((frame, r) :: T) a

theorem plays_of_forall {P : Transcript → α → Prop} (h : ∀ T a, P T a) (d : Dialogue α) :
    d.Plays P := by
  induction d generalizing P with
  | done a => exact h [] a
  | send frame next ih => exact fun r => ih r fun T a => h ((frame, r) :: T) a

/-- A play of two dialogues in sequence is a play of the first and then one of the second. -/
theorem plays_bind {P : Transcript → β → Prop} (d : Dialogue α) (f : α → Dialogue β) :
    (d >>= f).Plays P ↔ d.Plays fun T a => (f a).Plays fun T' b => P (T ++ T') b := by
  induction d generalizing P with
  | done a => rfl
  | send frame next ih => exact forall_congr' fun r => ih r

/-- A play of a dialogue whose value is then passed on. -/
theorem plays_bind_done {P : Transcript → β → Prop} (d : Dialogue α) (f : α → β) :
    (d >>= fun a => done (f a)).Plays P ↔ d.Plays fun T a => P T (f a) := by
  rw [plays_bind]
  simp only [plays_done, List.append_nil]

/-- What a transport brings about is a play. -/
theorem Plays.run {P : Transcript → α → Prop} {d : Dialogue α} (hd : d.Plays P)
    (t : Transport σ) (w : σ) : P (d.transcript t w) (d.run t w).1 := by
  induction d generalizing P w with
  | done a => exact hd
  | send frame next ih => exact ih _ (hd _) _

theorem Plays.and {P Q : Transcript → α → Prop} {d : Dialogue α} (hP : d.Plays P)
    (hQ : d.Plays Q) : d.Plays fun T a => P T a ∧ Q T a := by
  induction d generalizing P Q with
  | done a => exact ⟨hP, hQ⟩
  | send frame next ih => exact fun r => ih r (hP r) (hQ r)

/-- Transports that treat the frames of a dialogue in the same way bring about the same. -/
theorem run_congr {t t' : Transport σ} {carried : Bytes → Prop}
    (h : ∀ frame w, carried frame → t.transmit frame w = t'.transmit frame w) {d : Dialogue α}
    (hd : d.Plays fun T _ => ∀ e ∈ T, carried e.1) (w : σ) : d.run t w = d.run t' w := by
  induction d generalizing w with
  | done a => rfl
  | send frame next ih =>
    have hfirst : carried frame :=
      (hd (t.transmit frame w).1).run t w (frame, _) List.mem_cons_self
    have hrest (r : Delivery) : (next r).Plays fun T _ => ∀ e ∈ T, carried e.1 :=
      (hd r).mono fun T a hT e he => hT e (List.mem_cons_of_mem _ he)
    unfold run
    rw [← h frame w hfirst]
    exact ih _ (hrest _) _

/-- The transcript takes the transport from one state to another. -/
def Reaches (t : Transport σ) : σ → Transcript → σ → Prop
  | w, [], w' => w' = w
  | w, (frame, r) :: T, w' => (t.transmit frame w).1 = r ∧ Reaches t (t.transmit frame w).2 T w'

theorem reaches_append {t : Transport σ} {w w'' : σ} {T T' : Transcript} :
    Reaches t w (T ++ T') w'' ↔ ∃ w', Reaches t w T w' ∧ Reaches t w' T' w'' := by
  induction T generalizing w with
  | nil =>
    constructor
    · exact fun h => ⟨w, rfl, h⟩
    · rintro ⟨w', rfl, h⟩
      exact h
  | cons e T ih =>
    show (_ ∧ Reaches t _ (T ++ T') w'') ↔ ∃ w', (_ ∧ Reaches t _ T w') ∧ Reaches t w' T' w''
    rw [ih]
    constructor
    · rintro ⟨hr, w', h, h'⟩
      exact ⟨w', ⟨hr, h⟩, h'⟩
    · rintro ⟨w', ⟨hr, h⟩, h'⟩
      exact ⟨hr, w', h, h'⟩

theorem reaches_run (t : Transport σ) (d : Dialogue α) (w : σ) :
    Reaches t w (d.transcript t w) (d.run t w).2 := by
  induction d generalizing w with
  | done a => rfl
  | send frame next ih => exact ⟨rfl, ih _ _⟩

end Dialogue

/-! ## Results -/

section Results

variable {ε α β : Type} {x : Except ε α} {f : α → Except ε β}

theorem bind_eq_ok {b : β} : x >>= f = .ok b ↔ ∃ a, x = .ok a ∧ f a = .ok b := by
  cases x with
  | error err =>
    constructor
    · intro h
      cases h
    · rintro ⟨a, ha, -⟩
      cases ha
  | ok a =>
    constructor
    · exact fun h => ⟨a, rfl, h⟩
    · rintro ⟨a', ha, h⟩
      cases ha
      exact h

theorem bind_ok {b : β} (h : x >>= f = .ok b) : ∃ a, x = .ok a ∧ f a = .ok b := bind_eq_ok.mp h

theorem bind_error {err : ε} (h : x >>= f = .error err) :
    x = .error err ∨ ∃ a, x = .ok a ∧ f a = .error err := by
  cases x with
  | error e => exact Or.inl (by cases h; rfl)
  | ok a => exact Or.inr ⟨a, rfl, h⟩

theorem eq_ok_of_toOption {a : α} (h : x.toOption = some a) : x = .ok a := by
  cases x <;> cases h
  rfl

end Results

/-! ## Conversations -/

namespace Conversation

variable {α β : Type}

@[simp] theorem run_lift (x : Except Error α) : (liftM x : Conversation α).run = .done x := rfl

theorem run_lift_bind (x : Except Error α) (f : α → Conversation β) :
    ((liftM x : Conversation α) >>= f).run = match x with
      | .ok a => (f a).run
      | .error err => .done (.error err) := by
  rw [ExceptT.run_bind, run_lift]
  cases x <;> rfl

theorem lift_pure (a : α) : (liftM (pure a : Except Error α) : Conversation α) = pure a := rfl

theorem lift_bind (x : Except Error α) (f : α → Except Error β) :
    (liftM (x >>= f) : Conversation β) = liftM x >>= fun a => liftM (f a) := by
  apply ExceptT.ext
  rw [run_lift_bind]
  cases x <;> rfl

/-- A play of two conversations in sequence ends with the first one if that fails. -/
theorem plays_bind {P : Transcript → Except Error β → Prop} (c : Conversation α)
    (f : α → Conversation β) :
    (c >>= f).run.Plays P ↔ c.run.Plays fun T r => match r with
      | .ok a => (f a).run.Plays fun T' b => P (T ++ T') b
      | .error err => P T (.error err) := by
  rw [ExceptT.run_bind, Dialogue.plays_bind]
  apply iff_of_eq
  congr 1
  funext T r
  cases r with
  | ok a => rfl
  | error err => simp

/-- A run of two conversations of which the first succeeds. -/
theorem run_bind_ok {σ : Type} {t : Transport σ} {w w' : σ} {c : Conversation α} {a : α}
    (h : c.run.run t w = (.ok a, w')) (f : α → Conversation β) :
    (c >>= f).run.run t w = (f a).run.run t w' := by
  rw [ExceptT.run_bind, Dialogue.run_bind, h]

end Conversation

/-- What came back for a frame, with a fault as the error that it causes. -/
def Delivery.result : Delivery → Except Error Bytes
  | .ok answer => .ok answer
  | .error fault => .error (.transport fault)

theorem Delivery.result_ok_bind {α : Type} (answer : Bytes) (f : Bytes → Except Error α) :
    Delivery.result (.ok answer) >>= f = f answer := rfl

theorem run_transmit (frame : Bytes) :
    (transmit frame).run = .send frame fun r => .done r.result := by
  show Dialogue.send frame _ = _
  congr 1
  funext r
  cases r <;> rfl

namespace Conversation

variable {α β : Type} {P : Transcript → Except Error β → Prop}

theorem plays_transmit_bind (frame : Bytes) (f : Bytes → Conversation β) :
    (transmit frame >>= f).run.Plays P ↔
      (∀ fault, P [(frame, .error fault)] (.error (.transport fault))) ∧
        ∀ answer, (f answer).run.Plays fun T b => P ((frame, .ok answer) :: T) b := by
  rw [plays_bind, run_transmit]
  constructor
  · exact fun h => ⟨fun fault => h (.error fault), fun answer => h (.ok answer)⟩
  · rintro ⟨hfault, hanswer⟩ r
    cases r with
    | ok answer => exact hanswer answer
    | error fault => exact hfault fault

theorem plays_lift_bind (x : Except Error α) (f : α → Conversation β) :
    ((liftM x : Conversation α) >>= f).run.Plays P ↔
      (∀ err, x = .error err → P [] (.error err)) ∧ ∀ a, x = .ok a → (f a).run.Plays P := by
  rw [run_lift_bind]
  cases x with
  | error err => simp
  | ok a => simp

end Conversation

/-- A reader that brings one answer and fails at the frame after it. -/
def Script.failingAfter (answer : Bytes) (fault : TransportFault) : Script :=
  { replies := [.ok answer, .error fault] }

end CardLink
