import CardLink.Transport

/-!
# Dialogues with a card

The host's side of a conversation is a tree: either it is over, with a value, or the next frame is
known and the rest depends on what comes back. Every operation of the library is such a tree, fixed
before any transport is chosen; `Dialogue.run` plays it against one.
-/

namespace CardLink

/-- The host's side of a conversation that ends with a value of type `α`. -/
inductive Dialogue (α : Type) where
  | done (value : α)
  | send (frame : Bytes) (next : Delivery → Dialogue α)

namespace Dialogue

variable {α β γ σ : Type}

/-! ## Sequencing -/

/-- One conversation after another; the second may depend on the value of the first. -/
def andThen : Dialogue α → (α → Dialogue β) → Dialogue β
  | done a, f => f a
  | send frame next, f => send frame fun r => (next r).andThen f

instance : Monad Dialogue where
  pure := done
  bind := andThen

@[simp] theorem pure_eq (a : α) : (pure a : Dialogue α) = done a := rfl

@[simp] theorem done_bind (a : α) (f : α → Dialogue β) : done a >>= f = f a := rfl

@[simp] theorem send_bind (frame : Bytes) (next : Delivery → Dialogue α) (f : α → Dialogue β) :
    send frame next >>= f = send frame fun r => next r >>= f := rfl

theorem bind_done (d : Dialogue α) : d >>= done = d := by
  induction d with
  | done a => rfl
  | send frame next ih => exact congrArg (send frame) (funext ih)

theorem bind_bind (d : Dialogue α) (f : α → Dialogue β) (g : β → Dialogue γ) :
    d >>= f >>= g = d >>= fun a => f a >>= g := by
  induction d with
  | done a => rfl
  | send frame next ih => exact congrArg (send frame) (funext ih)

instance : LawfulMonad Dialogue :=
  LawfulMonad.mk' Dialogue bind_done (fun _ _ => rfl) bind_bind

/-! ## Running -/

/-- Plays a conversation against a transport. -/
def run (t : Transport σ) : Dialogue α → σ → α × σ
  | done a, s => (a, s)
  | send frame next, s => (next (t.transmit frame s).1).run t (t.transmit frame s).2

/-- The frames handed to the transport, each with what came back. -/
def transcript (t : Transport σ) : Dialogue α → σ → List (Bytes × Delivery)
  | done _, _ => []
  | send frame next, s =>
    (frame, (t.transmit frame s).1) ::
      (next (t.transmit frame s).1).transcript t (t.transmit frame s).2

theorem run_bind (t : Transport σ) (d : Dialogue α) (f : α → Dialogue β) (s : σ) :
    (d >>= f).run t s = (f (d.run t s).1).run t (d.run t s).2 := by
  induction d generalizing s with
  | done a => rfl
  | send frame next ih => exact ih _ _

theorem transcript_bind (t : Transport σ) (d : Dialogue α) (f : α → Dialogue β) (s : σ) :
    (d >>= f).transcript t s =
      d.transcript t s ++ (f (d.run t s).1).transcript t (d.run t s).2 := by
  induction d generalizing s with
  | done a => rfl
  | send frame next ih => exact congrArg (List.cons _) (ih _ _)

end Dialogue

/-! ## Conversations that may fail -/

/-- A conversation that ends with a value or an error. -/
abbrev Conversation := ExceptT Error Dialogue

/-- Hands one frame to the transport and waits for the answer. -/
def transmit (frame : Bytes) : Conversation Bytes :=
  ExceptT.mk (.send frame fun
    | .ok answer => .done (.ok answer)
    | .error fault => .done (.error (.transport fault)))

/-- An operation on a state of type `σ`; changes made before an error persist. -/
abbrev Action (σ : Type) := ExceptT Error (StateT σ Dialogue)

namespace Action

variable {α β σ : Type}

/-- A conversation whose failure is a value to be inspected. -/
def attempt (c : Conversation α) : Action σ (Except Error α) :=
  ExceptT.mk fun s => c.run >>= fun r => .done (.ok r, s)

/-- A conversation as an operation that leaves the state alone. -/
def converse (c : Conversation α) : Action σ α :=
  ExceptT.mk fun s => c.run >>= fun r => .done (r, s)

/-- The outcome of an operation, and the state after it. -/
def start (a : Action σ α) (s : σ) : Dialogue (Except Error α × σ) := StateT.run (ExceptT.run a) s

/-! ### What operations come to -/

@[simp] theorem start_pure (a : α) (s : σ) : (pure a : Action σ α).start s = .done (.ok a, s) := rfl

/-- An operation stops at the first error and keeps the state it had reached. -/
theorem start_bind (a : Action σ α) (f : α → Action σ β) (s : σ) :
    (a >>= f).start s = a.start s >>= fun
      | (.ok x, s') => (f x).start s'
      | (.error err, s') => .done (.error err, s') := by
  show (a s >>= fun _ => _) = (a s >>= fun _ => _)
  congr 1
  funext p
  obtain ⟨r, s'⟩ := p
  cases r <;> rfl

@[simp] theorem start_throw (err : Error) (s : σ) :
    (throw err : Action σ α).start s = .done (.error err, s) := rfl

@[simp] theorem start_get (s : σ) : (get : Action σ σ).start s = .done (.ok s, s) := rfl

@[simp] theorem start_modify (f : σ → σ) (s : σ) :
    (modify f : Action σ Unit).start s = .done (.ok (), f s) := rfl

@[simp] theorem start_attempt (c : Conversation α) (s : σ) :
    (attempt c : Action σ (Except Error α)).start s = c.run >>= fun r => .done (.ok r, s) := rfl

@[simp] theorem start_converse (c : Conversation α) (s : σ) :
    (converse c : Action σ α).start s = c.run >>= fun r => .done (r, s) := rfl

@[simp] theorem start_liftM (x : Except Error α) (s : σ) :
    (liftM x : Action σ α).start s = .done (x, s) := by
  cases x <;> rfl

theorem start_tryCatch (a : Action σ α) (handle : Error → Action σ α) (s : σ) :
    (tryCatch a handle).start s = a.start s >>= fun
      | (.ok x, s') => .done (.ok x, s')
      | (.error err, s') => (handle err).start s' := by
  show (a s >>= fun _ => _) = (a s >>= fun _ => _)
  congr 1
  funext ⟨r, s'⟩
  cases r <;> rfl

theorem start_get_bind (f : σ → Action σ β) (s : σ) : (get >>= f).start s = (f s).start s := rfl

theorem start_modify_bind (g : σ → σ) (f : Unit → Action σ β) (s : σ) :
    (modify g >>= f).start s = (f ()).start (g s) := rfl

theorem start_liftM_bind (x : Except Error α) (f : α → Action σ β) (s : σ) :
    ((liftM x : Action σ α) >>= f).start s = match x with
      | .ok a => (f a).start s
      | .error err => .done (.error err, s) := by
  cases x <;> rfl

end Action

end CardLink
