import CardLink.Error

/-!
# Commands and replies

A command has a code, a header that always travels in clear and a payload. Its mode says how command
and reply are protected. A reply is a status byte and data; in a secured mode the data ends with an
authentication tag of eight bytes.
-/

namespace CardLink

/-! ## Communication modes -/

/-- How a command and its reply are protected. -/
inductive CommMode where
  /-- Nothing is protected. -/
  | plain
  /-- Both carry an authentication tag. -/
  | mac
  /-- Both carry an authentication tag and the payload is encrypted. -/
  | full
  deriving DecidableEq

namespace CommMode

/-- The mode uses session keys. -/
def isSecured : CommMode → Bool
  | plain => false
  | mac | full => true

/-- The mode that the access settings of a file prescribe, in their two low bits. -/
def ofAccessBits (bits : UInt8) : CommMode :=
  if bits &&& 3 = 1 then mac else if bits &&& 3 = 3 then full else plain

/-- The text shown for a mode. -/
def text : CommMode → String
  | plain => "Plain"
  | mac => "MAC"
  | full => "Full"

end CommMode

/-! ## Commands -/

/-- A command before protection. -/
structure Command where
  code : UInt8
  mode : CommMode
  header : Bytes := []
  payload : Bytes := []
  deriving DecidableEq

namespace Command

/-- The frame of a command with the given bytes in place of its payload. -/
def frameWith (c : Command) (body : Bytes) : Bytes := c.code :: c.header ++ body

/-- The frame of a command without protection. -/
def clearFrame (c : Command) : Bytes := c.frameWith c.payload

end Command

/-! ## Replies -/

/-- Lets success and the announcement of a further frame pass, and refuses every other status. -/
def CardStatus.check (code : UInt8) : Except Error Unit :=
  if code = ok ∨ code = additionalFrame then .ok () else .error (.refused ⟨code⟩)

/-- A status byte with the data that follows it. -/
structure Reply where
  status : UInt8
  data : Bytes
  deriving DecidableEq

namespace Reply

/-- The length of the tag at the end of a secured reply. -/
def tagLength : Nat := 8

/-- Splits a frame into status and data. -/
def parse : Bytes → Except Error Reply
  | [] => .error (.malformed .emptyResponse)
  | status :: data => .ok ⟨status, data⟩

/-- Splits the data into what is protected and the tag. -/
def detachTag (r : Reply) : Except Error (Bytes × Bytes) :=
  if r.data.length < tagLength then
    .error (.wrongLength .securedResponse tagLength r.data.length)
  else .ok (r.data.splitAt (r.data.length - tagLength))

end Reply

end CardLink
