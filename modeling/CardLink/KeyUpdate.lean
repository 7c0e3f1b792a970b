import CardLink.Checksum
import CardLink.Padding
import CardLink.Session.Issue

/-!
# Key updates

A new key travels encrypted. For the slot the session was authenticated with it is sent as it is,
and the card ends the session; for any other slot it is combined with the old key and followed by a
checksum, so that the card can tell whether the host knew the old key.
-/

namespace CardLink

/-- A new key for a slot. -/
structure KeyUpdate where
  keyNo : UInt8
  kind : KeyKind
  newKey : Bytes
  oldKey : Option Bytes := none
  version : UInt8 := 0
  /-- The slot belongs to the second application of a selected pair. -/
  secondApplication : Bool := false
  deriving DecidableEq

namespace KeyUpdate

/-- An AES key for a slot. -/
def aes (keyNo : UInt8) (key : AesKey) : KeyUpdate := { keyNo, kind := .aes, newKey := key.toList }

/-- A triple DES key for a slot. -/
def tripleDes (keyNo : UInt8) (key : TripleDesKey) : KeyUpdate :=
  { keyNo, kind := key.kind, newKey := key.bytes }

/-! ## Addressing the slot -/

/-- The highest key number inside an application. -/
def maxKeyNo : UInt8 := 0x0D

/-- The byte that names a slot: at card level the number is combined with the kind of key, inside an
application with the choice of the application. -/
def slotByte (keyNo : UInt8) (atCardLevel : Bool) (kind : KeyKind) (secondApplication : Bool) :
    Except Error UInt8 :=
  if maxKeyNo < keyNo then .error (.malformed .keyNumberRange)
  else if atCardLevel then .ok (keyNo ||| kind.cardLevelBits)
  else .ok (keyNo ||| if secondApplication then 0x80 else 0)

/-! ## The cryptogram -/

/-- How the new key is sent. -/
inductive Form where
  /-- To the slot the session was authenticated with: the key itself. -/
  | authenticatedSlot
  /-- To any other slot: the key combined with the old one, and a checksum. -/
  | otherSlot
  deriving DecidableEq

/-- The old key, which must be known and as long as the new one. -/
def requireOldKey (u : KeyUpdate) : Except Error Bytes :=
  match u.oldKey with
  | none => .error (.malformed .oldKeyRequired)
  | some old =>
    if old.length = u.newKey.length then .ok old
    else .error (.wrongLength .oldKey u.newKey.length old.length)

/-- What is sent of a key update, before padding. -/
def plaintext (u : KeyUpdate) : Form → Except Error Bytes
  | .authenticatedSlot => .ok (u.newKey ++ [u.version])
  | .otherSlot => do
    let old ← u.requireOldKey
    return Bytes.xor u.newKey old ++ [u.version] ++ Checksum.crc32 u.newKey

/-- What is encrypted of a key update. -/
def cryptogram (u : KeyUpdate) (form : Form) : Except Error Bytes :=
  (u.plaintext form).map Padding.pad

/-! ## The command -/

/-- The form in which a session sends a key update. -/
def formIn (u : KeyUpdate) (s : Session) : Form :=
  if u.keyNo = s.keyNo ∧ u.secondApplication = false then .authenticatedSlot else .otherSlot

/-- The slot that a session addresses. -/
def slotIn (u : KeyUpdate) (s : Session) : Except Error UInt8 :=
  slotByte u.keyNo (s.application = Aid.card) u.kind u.secondApplication

/-- The command for a key update, in the given key set if one is named. -/
def commandIn (u : KeyUpdate) (s : Session) (keySet : Option UInt8) : Except Error Command := do
  let _ ← s.requireAes .keyUpdate
  let slot ← u.slotIn s
  let payload ← u.cryptogram (u.formIn s)
  match keySet with
  | none => return { code := 0xC4, mode := .full, header := [slot], payload }
  | some set => return { code := 0xC6, mode := .full, header := [set, slot], payload }

end KeyUpdate

/-- Updates a key. A new key for the slot the session was authenticated with ends the session. -/
def Session.updateKey (s : Session) (settings : Settings) (u : KeyUpdate)
    (keySet : Option UInt8) : Dialogue (Except Error Unit × Session) :=
  match u.commandIn s keySet with
  | .error err => .done (.error err, s)
  | .ok c =>
    match u.formIn s with
    | .authenticatedSlot => s.issueLast settings c
    | .otherSlot => do
      let (outcome, s') ← s.issue settings c
      return (outcome.map fun _ => (), s')

end CardLink
