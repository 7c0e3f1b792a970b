import CardLink.Chaining

/-!
# Commands issued in a session

A session prepares a command, the frames go back and forth, and the outcome settles what becomes of
the session: a reply that verifies moves the counter on, a refusal by the card changes nothing, and
anything after which host and card may disagree invalidates the session.
-/

namespace CardLink.Session

/-! ## Before and after the frames -/

/-- The frame of a command under the protection of a session. -/
def protectedFrame (s : Session) (settings : Settings) (c : Command) : Except Error Bytes := do
  Chaining.checkThreshold settings.maxFrameLength
  let p ← s.requireProtection
  p.protect c

/-- The session after an error that arose before any frame was sent: only an exhausted counter ends
it. -/
def afterRefusal (s : Session) (err : Error) : Session :=
  if err = .counterExhausted then s.invalidate else s

/-- The session after an error that arose once frames may have been sent. -/
def afterFailure (s : Session) (err : Error) : Session :=
  if err.leavesInStep then s else s.invalidate

/-- The data of a reply, and the session moved on by a secured exchange. -/
def accept (s : Session) (mode : CommMode) (r : Reply) : Except Error (Bytes × Session) := do
  let p ← s.requireProtection
  let data ← p.recover mode r
  if mode.isSecured then
    let p' ← p.step
    return (data, { s with protection := some p' })
  else return (data, s)

/-- What an exchange leaves behind: its result and the session. -/
def settle {α : Type} (s : Session) : Except Error (α × Session) → Except Error α × Session
  | .ok (a, s') => (.ok a, s')
  | .error err => (.error err, s.afterFailure err)

/-! ## The exchange -/

/-- Issues a command; `finish` makes the result and the new session of the reply. -/
def issueWith {α : Type} (s : Session) (settings : Settings) (c : Command)
    (finish : Reply → Except Error (α × Session)) : Dialogue (Except Error α × Session) :=
  match s.protectedFrame settings c with
  | .error err => .done (.error err, s.afterRefusal err)
  | .ok frame => do
    let outcome ← (Chaining.roundTrip settings frame).run
    return s.settle (outcome.bind finish)

/-- Issues a command and reads its reply, both protected as its mode asks. -/
def issue (s : Session) (settings : Settings) (c : Command) :
    Dialogue (Except Error Bytes × Session) :=
  s.issueWith settings c (s.accept c.mode)

/-- Issues a command whose success ends the session, so that its reply is not protected. -/
def issueLast (s : Session) (settings : Settings) (c : Command) :
    Dialogue (Except Error Unit × Session) :=
  s.issueWith settings c fun _ => .ok ((), s.invalidate)

end CardLink.Session
