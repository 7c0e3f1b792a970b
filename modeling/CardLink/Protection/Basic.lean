import CardLink.Protection.Aes
import CardLink.Protection.TripleDes

/-!
# Protection of a session

A handshake decides once how a session is protected. From then on commands are written and responses
are read in that way.
-/

namespace CardLink

/-- The generations of secure messaging. -/
inductive Generation where
  /-- Triple DES, encryption only. -/
  | ev1
  /-- AES, with authentication tags and a command counter. -/
  | ev2
  deriving DecidableEq

/-- The text shown for a generation. -/
def Generation.text : Generation → String
  | ev1 => "EV1"
  | ev2 => "EV2"

/-- How a session is protected. -/
inductive Protection where
  | aes (p : AesProtection)
  | tripleDes (p : TripleDesProtection)
  deriving DecidableEq

namespace Protection

/-- The generation that a protection belongs to. -/
def generation : Protection → Generation
  | aes _ => .ev2
  | tripleDes _ => .ev1

/-- The frame of a command. -/
def protect : Protection → Command → Except Error Bytes
  | aes p, c => p.protect c
  | tripleDes p, c => p.protect c

/-- The data of a response to a command sent in the given mode. -/
def recover : Protection → CommMode → Reply → Except Error Bytes
  | aes p, mode, r => p.recover mode r
  | tripleDes p, mode, r => p.recover mode r

/-- The protection after a completed secured exchange. -/
def step : Protection → Except Error Protection
  | aes p => p.step.map aes
  | tripleDes p => .ok (tripleDes p)

/-- The transaction, where there is one. -/
def ti? : Protection → Option TransactionId
  | aes p => some p.ti
  | tripleDes _ => none

/-- The counter, where there is one. -/
def counter? : Protection → Option Counter
  | aes p => some p.counter
  | tripleDes _ => none

end Protection

end CardLink
