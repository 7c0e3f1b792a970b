import CardLink.Status

/-!
# Errors

A transport fails in ways of its own; everything else that can go wrong is one of the causes of
`Error`. Two questions decide what happens to a session after a failure: whether a frame may have
reached the card, and whether host and card are still in step.
-/

namespace CardLink

/-! ## Failures of a transport -/

/-- Why a transport did not deliver an answer. -/
inductive TransportFault where
  /-- There is no connection, so nothing was sent. -/
  | notConnected
  | transmission
  | device
  | bufferTooSmall
  | driver (code : Int)
  | timeout
  | other (text : String)
  deriving DecidableEq

namespace TransportFault

/-- The text shown for a fault. -/
def message : TransportFault → String
  | notConnected => "Failed to connect to device"
  | transmission => "Failed to transmit data"
  | device => "Device error"
  | bufferTooSmall => "Buffer too small"
  | driver code => "Driver error code: " ++ toString code
  | timeout => "Operation timed out"
  | other text => text

/-- The frame may have reached the card: only a missing connection rules it out. -/
def maybeSent : TransportFault → Bool
  | notConnected => false
  | _ => true

end TransportFault

/-! ## Causes of an error -/

/-- What is wrong with malformed input or a malformed frame. -/
inductive Malformation where
  | paddingMarkerMissing
  | invalidPadding
  | tripleDesKeyLength
  | unknownKeyKind
  | emptyResponse
  | shortAuthenticationResponse
  | chainingThreshold
  | chainCompletedEarly
  | keyNumberRange
  | oldKeyRequired
  | applicationListLength
  | exceeds24Bits
  | dataTooLong
  | formatBelowCardLevel
  deriving DecidableEq

namespace Malformation

/-- The text shown for a malformation. -/
def message : Malformation → String
  | paddingMarkerMissing => "padding marker missing"
  | invalidPadding => "invalid padding"
  | tripleDesKeyLength => "3DES key must be 8, 16 or 24 bytes"
  | unknownKeyKind => "unknown key type in key settings"
  | emptyResponse => "empty response frame"
  | shortAuthenticationResponse => "authentication response too short"
  | chainingThreshold => "chaining threshold below 2 bytes"
  | chainCompletedEarly => "card completed a chained command early"
  | keyNumberRange => "key number out of range"
  | oldKeyRequired => "old key required to change another key slot"
  | applicationListLength => "application ID list is not a multiple of 3 bytes"
  | exceeds24Bits => "value does not fit 24 bits"
  | dataTooLong => "data too long"
  | formatBelowCardLevel => "FormatPICC needs the PICC level selected"

end Malformation

/-- A quantity whose length the protocol prescribes. -/
inductive Measured where
  | aesKey
  | cipherInput
  | isoNonce
  | fullPayload (block : Nat)
  | fullResponse (block : Nat)
  | securedResponse
  | readerCapabilities
  | encryptedNonce
  | authenticationAnswer
  | oldKey
  | keySettingsAnswer
  | keyVersionAnswer
  | versionAnswer
  | readAnswer
  | cardUid
  deriving DecidableEq

namespace Measured

/-- The name shown for a quantity. -/
def name : Measured → String
  | aesKey => "AES key"
  | cipherInput => "cipher input (block multiple)"
  | isoNonce => "ISO nonce"
  | fullPayload block => "full mode payload (" ++ toString block ++ "-byte multiple)"
  | fullResponse block => "full mode response (" ++ toString block ++ "-byte multiple)"
  | securedResponse => "secured response"
  | readerCapabilities => "PCDcap2"
  | encryptedNonce => "encrypted card nonce"
  | authenticationAnswer => "authentication answer"
  | oldKey => "old key"
  | keySettingsAnswer => "GetKeySettings answer"
  | keyVersionAnswer => "GetKeyVersion answer"
  | versionAnswer => "GetVersion answer"
  | readAnswer => "ReadData answer"
  | cardUid => "card UID"

end Measured

/-- Why a mutual authentication did not succeed. -/
inductive AuthenticationFailure where
  | wrongProof
  | otherKind
  | noHandshake
  deriving DecidableEq

/-- The text shown for a failed authentication. -/
def AuthenticationFailure.message : AuthenticationFailure → String
  | wrongProof => "card did not prove knowledge of RndA"
  | otherKind => "pending handshake is of another kind"
  | noHandshake => "no handshake in progress"

/-- An operation that only an EV2 session offers. -/
inductive AesOnly where
  | reauthentication
  | keyUpdate
  deriving DecidableEq

/-- The text shown when the session is of the other kind. -/
def AesOnly.message : AesOnly → String
  | reauthentication => "AuthenticateEV2NonFirst needs an EV2 session"
  | keyUpdate => "key change needs an EV2 session"

/-- Everything that can go wrong between host and card. -/
inductive Error where
  | transport (fault : TransportFault)
  /-- The card answered with a status that the host did not expect. -/
  | refused (status : CardStatus)
  | macMismatch
  | malformed (cause : Malformation)
  | wrongLength (what : Measured) (expected actual : Nat)
  | authenticationFailed (cause : AuthenticationFailure)
  | notAuthenticated
  | sessionInvalidated
  | counterExhausted
  | chainLimitExceeded (limit : Nat)
  | unsupported (operation : AesOnly)
  deriving DecidableEq

namespace Error

/-- The text shown for an error. -/
def message : Error → String
  | transport fault => fault.message
  | refused status => "Card returned error status: " ++ status.text
  | macMismatch => "Response MAC verification failed"
  | malformed cause => "Invalid format: " ++ cause.message
  | wrongLength what expected actual =>
    "Invalid length for " ++ what.name ++ ": expected " ++ toString expected ++ ", got "
      ++ toString actual
  | authenticationFailed cause => "Authentication failed: " ++ cause.message
  | notAuthenticated => "Not authenticated"
  | sessionInvalidated => "Session invalidated, re-authentication required"
  | counterExhausted => "Command counter exhausted, re-authentication required"
  | chainLimitExceeded limit => "Chain limit of " ++ toString limit ++ " frames exceeded"
  | unsupported operation => "Unsupported in current mode: " ++ operation.message

/-- The status byte of a refusal. -/
def status? : Error → Option CardStatus
  | refused status => some status
  | _ => none

/-- Host and card are still in step: the card refused the command, or never saw it. -/
def leavesInStep : Error → Bool
  | refused _ => true
  | transport fault => !fault.maybeSent
  | _ => false

/-- The error blames bad input or a malformed frame. -/
def blamesInput : Error → Bool
  | malformed _ => true
  | wrongLength _ _ _ => true
  | _ => false

end Error

end CardLink
