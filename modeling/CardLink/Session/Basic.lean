import CardLink.Protection.Basic

/-!
# Sessions

Only a successful handshake makes a session. It holds its protection until the first failure after
which host and card may disagree; then the protection is dropped for good, and every later use of
the session fails.
-/

namespace CardLink

/-- The identifier of an application on the card. -/
abbrev Aid := Octets 3

/-- The identifier of the card level, above all applications. -/
def Aid.card : Aid := Octets.zero 3

/-- The capabilities that reader and card tell each other. -/
abbrev Capabilities := Octets 6

/-- What can be seen of a secure channel from outside. -/
inductive LinkState where
  | unauthenticated
  | handshakePending
  | ev2Active
  | ev1Active
  deriving DecidableEq

/-- The text shown for a state. -/
def LinkState.text : LinkState → String
  | unauthenticated => "Unauthenticated"
  | handshakePending => "HandshakePending"
  | ev2Active => "Ev2Active"
  | ev1Active => "Ev1Active"

/-- An authenticated session. -/
structure Session where
  /-- The protection in force, absent once the session was invalidated. -/
  protection : Option Protection
  /-- The key slot of the last authentication. -/
  keyNo : UInt8
  /-- What the card says it can do. -/
  cardCapabilities : Capabilities := Octets.zero 6
  /-- What the card heard that the reader can do. -/
  readerCapabilities : Capabilities := Octets.zero 6
  /-- The application in which the session was made. -/
  application : Aid := .card
  deriving DecidableEq

namespace Session

/-- A new session. -/
def start (p : Protection) (keyNo : UInt8) : Session := { protection := some p, keyNo }

/-- The session can still be used. -/
def isValid (s : Session) : Bool := s.protection.isSome

/-- The session without its protection. -/
def invalidate (s : Session) : Session := { s with protection := none }

/-- The session as made in the given application. -/
def inApplication (s : Session) (aid : Aid) : Session := { s with application := aid }

/-- The protection, or the error that every use of an invalidated session meets. -/
def requireProtection (s : Session) : Except Error Protection :=
  match s.protection with
  | some p => .ok p
  | none => .error .sessionInvalidated

/-- The protection of a session that has to be an EV2 session. -/
def requireAes (s : Session) (operation : AesOnly) : Except Error AesProtection := do
  match ← s.requireProtection with
  | .aes p => return p
  | .tripleDes _ => throw (.unsupported operation)

/-! ## What can be seen of a session -/

/-- The generation in use. -/
def generation? (s : Session) : Option Generation := s.protection.map Protection.generation

/-- The transaction of an EV2 session. -/
def ti? (s : Session) : Option TransactionId := s.protection.bind Protection.ti?

/-- The counter of an EV2 session. -/
def counter? (s : Session) : Option Counter := s.protection.bind Protection.counter?

/-- The state shown for a session. -/
def state (s : Session) : LinkState :=
  match s.generation? with
  | some .ev2 => .ev2Active
  | some .ev1 => .ev1Active
  | none => .unauthenticated

end Session

end CardLink
