import CardLink.Handshake.Aes
import CardLink.Handshake.TripleDes
import CardLink.KeyUpdate

/-!
# Card handles

A handle remembers the selected application and holds a session, or a challenge whose second pass is
still to come. Every operation is an `Action Card`: a dialogue with the card that leaves a new handle
behind, also when it fails.
-/

namespace CardLink

/-- The host's view of a card. -/
structure Card where
  settings : Settings := {}
  session : Option Session := none
  challenge : Option Challenge := none
  /-- The selected application. -/
  application : Aid := .card
  deriving DecidableEq

namespace Card

/-! ## What can be seen of a handle -/

/-- The state of the secure channel. -/
def state (c : Card) : LinkState :=
  if c.challenge.isSome then .handshakePending else c.session.elim .unauthenticated Session.state

/-- The generation of the session in use. -/
def generation? (c : Card) : Option Generation := c.session.bind Session.generation?

/-! ## Small changes -/

/-- The handle without a challenge. -/
def dropChallenge (c : Card) : Card := { c with challenge := none }

/-- The handle without session and challenge. -/
def close (c : Card) : Card := { c with session := none, challenge := none }

/-- The handle with a session made in the selected application. -/
def adopt (c : Card) (s : Session) : Card :=
  { c with session := some (s.inApplication c.application) }

/-- The handle after a handshake that failed with the given error: any session ends, unless the card
noticed nothing. -/
def afterFailure (c : Card) (err : Error) : Card :=
  if Handshake.noticed err then c.close else c

/-- An operation of the session on the handle that holds it. -/
def onSession {α : Type} (s : Session) (f : Session → Dialogue (Except Error α × Session)) :
    Action Card α :=
  ExceptT.mk fun c => do
    let (outcome, s') ← f s
    return (outcome, { c with session := some s' })

/-! ## Authentication -/

/-- The first pass of a first authentication. Once the card has answered, the old session is
over. -/
def startFirst (keyNo : UInt8) : Action Card Unit := do
  let capabilities := (← get).settings.capabilityBytes
  Handshake.checkFirst keyNo capabilities
  modify dropChallenge
  match ← Action.attempt (Handshake.startFirst keyNo false capabilities) with
  | .ok challenge => modify fun c => { c.close with challenge := some challenge }
  | .error err =>
    modify fun c => c.afterFailure err
    throw err

/-- The second pass of a first authentication; a challenge is answered only once. -/
def finishFirst (key : AesKey) (draw : NonceSource) : Action Card Unit := do
  match (← get).challenge with
  | none => throw (.authenticationFailed .noHandshake)
  | some challenge =>
    modify dropChallenge
    let s ← Action.converse (Handshake.finishFirst key challenge draw)
    modify fun c => c.adopt s

/-- Both passes of a first authentication. -/
def authenticate (keyNo : UInt8) (key : AesKey) (draw : NonceSource) : Action Card Unit := do
  startFirst keyNo
  finishFirst key draw

/-- Both passes of a renewed authentication. A failure that the card may have noticed invalidates
the session. -/
def reauthenticate (keyNo : UInt8) (key : AesKey) (draw : NonceSource) : Action Card Unit := do
  modify dropChallenge
  Handshake.checkKeyNo keyNo
  match (← get).session with
  | none => throw .notAuthenticated
  | some s => onSession s (Handshake.renew keyNo key draw).start

/-- Both passes of the older authentication. The old session ends with the handshake, unless the
card noticed nothing. -/
def authenticateLegacy (keyNo : UInt8) (key : TripleDesKey) (draw : NonceSource) :
    Action Card Unit := do
  Handshake.checkKeyNo keyNo
  modify dropChallenge
  match ← Action.attempt (Handshake.runLegacy keyNo key draw) with
  | .ok s => modify fun c => c.close.adopt s
  | .error err =>
    modify fun c => c.afterFailure err
    throw err

/-! ## Exchanges -/

/-- Issues a command without protection. -/
def issueClear (settings : Settings) (cmd : Command) : Action Card Bytes := do
  let reply ← Action.converse (Chaining.roundTrip settings cmd.clearFrame)
  return reply.data

/-- Issues a command. A valid session protects it; without one, a command that asks for protection
fails. -/
def issue (cmd : Command) : Action Card Bytes := do
  modify dropChallenge
  let c ← get
  match c.session with
  | some s =>
    if s.isValid then onSession s fun s => s.issue c.settings cmd
    else if cmd.mode.isSecured then throw .sessionInvalidated
    else issueClear c.settings cmd
  | none =>
    if cmd.mode.isSecured then throw .notAuthenticated
    else issueClear c.settings cmd

/-- Updates a key, in the given key set if one is named. -/
def updateKey (u : KeyUpdate) (keySet : Option UInt8) : Action Card Unit := do
  modify dropChallenge
  let c ← get
  match c.session with
  | some s =>
    if s.isValid then onSession s fun s => s.updateKey c.settings u keySet
    else throw .sessionInvalidated
  | none => throw .notAuthenticated

end Card

end CardLink
