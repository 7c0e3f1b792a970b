import CardLink.Answers
import CardLink.Card.Basic

/-!
# The commands of a card

Each command chooses its mode, puts its parameters into header and payload, and reads the answer.
Commands that a card also takes without authentication are protected as soon as there is a session.
-/

namespace CardLink.Card

/-- The mode of a command that is protected as soon as there is a session. -/
def macIfSession : Action Card CommMode := do
  return if (← get).session.isSome then .mac else .plain

/-! ## Applications -/

/-- The command that selects an application. -/
def selectCommand (aid : Aid) : Command := { code := 0x5A, mode := .plain, header := aid.toList }

/-- Selects an application. Any session ends, even when the card knows no such application. -/
def select (aid : Aid) : Action Card Unit := do
  modify close
  let _ ← issue (selectCommand aid)
  modify fun c => { c with application := aid }

/-- The identifiers that an answer lists. -/
def readAids (data : Bytes) : Except Error (List Aid) :=
  if data.length % 3 = 0 then .ok (Octets.blocks 3 (data.length / 3) data)
  else .error (.malformed .applicationListLength)

/-- The applications on the card. -/
def applicationIds : Action Card (List Aid) := do
  let mode ← macIfSession
  let data ← issue { code := 0x6A, mode }
  readAids data

/-! ## Information -/

/-- What the card says about itself. -/
def version : Action Card Version := do
  let mode ← macIfSession
  let data ← issue { code := 0x60, mode }
  Version.ofBytes data

/-- The identifier in an answer: without padding in an EV2 session, at the front otherwise. -/
def readUid (generation : Option Generation) (data : Bytes) : Except Error (Octets 7) := do
  let uid ← if generation = some .ev2 then Padding.strip data else pure (data.take 7)
  if h : uid.length = 7 then return ⟨uid, h⟩
  else throw (.wrongLength .cardUid 7 uid.length)

/-- The identifier of the card, which it hides from a host without a session. -/
def uid : Action Card (Octets 7) := do
  let generation := (← get).generation?
  let data ← issue { code := 0x51, mode := .full }
  readUid generation data

/-! ## Keys -/

/-- The key settings of the selected application. -/
def keySettings : Action Card KeySettings := do
  let mode ← macIfSession
  let data ← issue { code := 0x45, mode }
  KeySettings.ofBytes data

/-- Replaces the key settings. -/
def replaceKeySettings (settings : UInt8) : Action Card Unit := do
  let _ ← issue { code := 0x54, mode := .full, payload := Padding.pad [settings] }

/-- The version in an answer. -/
def readKeyVersion : Bytes → Except Error UInt8
  | [version] => .ok version
  | data => .error (.wrongLength .keyVersionAnswer 1 data.length)

/-- The version stored with a key. -/
def keyVersion (keyNo : UInt8) : Action Card UInt8 := do
  let mode ← macIfSession
  let data ← issue { code := 0x64, mode, header := [keyNo] }
  readKeyVersion data

/-! ## Files -/

/-- The three bytes of an offset or length. -/
def threeBytes (v : Nat) : Except Error Bytes :=
  if v < 0x1000000 then .ok (Bytes.little 3 v) else .error (.malformed .exceeds24Bits)

/-- The header that names a range of a file. -/
def rangeHeader (file : UInt8) (offset length : Nat) : Except Error Bytes := do
  let offset ← threeBytes offset
  let length ← threeBytes length
  return file :: offset ++ length

/-- The command that reads a range of a file. -/
def readCommand (file : UInt8) (offset length : Nat) (mode : CommMode) : Except Error Command := do
  let header ← rangeHeader file offset length
  return { code := 0xAD, mode, header }

/-- The file data in an answer. In full mode padding is removed in an EV2 session; otherwise what
follows the data is cut off where its length is known. -/
def readContent (mode : CommMode) (generation : Option Generation) (length : Nat) (data : Bytes) :
    Except Error Bytes :=
  if mode ≠ .full then .ok data
  else if generation = some .ev2 then Padding.strip data
  else if length = 0 then .ok data
  else if data.length < length then .error (.wrongLength .readAnswer length data.length)
  else .ok (data.take length)

/-- Reads a range of a file; the length zero reads to the end. -/
def readRange (file : UInt8) (offset length : Nat) (mode : CommMode) : Action Card Bytes := do
  let cmd ← readCommand file offset length mode
  let data ← issue cmd
  readContent mode (← get).generation? length data

/-- The command that writes to a file; in full mode the data is padded. -/
def writeCommand (file : UInt8) (offset : Nat) (data : Bytes) (mode : CommMode) :
    Except Error Command := do
  if 0x100000000 ≤ data.length then throw (.malformed .dataTooLong)
  let header ← rangeHeader file offset data.length
  return { code := 0x8D, mode, header, payload := if mode = .full then Padding.pad data else data }

/-- Writes to a file. -/
def writeRange (file : UInt8) (offset : Nat) (data : Bytes) (mode : CommMode) :
    Action Card Unit := do
  let cmd ← writeCommand file offset data mode
  let _ ← issue cmd

/-- Makes pending writes permanent. -/
def commit : Action Card Unit := do
  let mode ← macIfSession
  let _ ← issue { code := 0xC7, mode }

/-! ## The whole card -/

/-- Deletes all applications; the card level must be selected. -/
def format : Action Card Unit := do
  let c ← get
  if c.application ≠ Aid.card then throw (.malformed .formatBelowCardLevel)
  if c.session.isNone then throw .notAuthenticated
  let _ ← issue { code := 0xFC, mode := .mac }

/-- Writes a configuration option. -/
def configure (option : UInt8) (data : Bytes) : Action Card Unit := do
  let _ ← issue { code := 0x5C, mode := .full, header := [option], payload := Padding.pad data }

end CardLink.Card
