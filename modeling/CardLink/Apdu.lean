import CardLink.Octets

/-!
# Short APDUs

Readers speak ISO 7816-4. A command has a header of four bytes, an optional data field preceded by
its length, and an optional byte for the length expected back; the parts are told apart by the total
length alone. A response is an optional payload followed by two status bytes.
-/

namespace CardLink.Apdu

/-! ## Errors -/

/-- Why a command or response cannot be written or read. -/
inductive Error where
  | commandLength (len : Nat)
  | incompleteResponse (len : Nat)
  deriving DecidableEq

/-- The text shown for an error. -/
def Error.message : Error → String
  | commandLength len => "Invalid command length: " ++ toString len
  | incompleteResponse len => "Incomplete response: " ++ toString len ++ " bytes"

/-! ## Commands -/

/-- A command with its optional data and expected length. -/
structure Command where
  cla : UInt8
  ins : UInt8
  p1 : UInt8
  p2 : UInt8
  data : Option Bytes := none
  le : Option UInt8 := none
  deriving DecidableEq

namespace Command

/-- The data field as it is written: nothing, or a length byte and the data. -/
def dataField : Option Bytes → Bytes
  | none => []
  | some bs => UInt8.ofNat bs.length :: bs

/-- The number of bytes a command takes. -/
def length (c : Command) : Nat :=
  4 + (match c.data with | none => 0 | some bs => 1 + bs.length) + c.le.toList.length

/-- The bytes of a command; the data must fit a length byte. -/
def toBytes (c : Command) : Except Error Bytes :=
  if 255 < (c.data.getD []).length then .error (.commandLength (c.data.getD []).length)
  else .ok ([c.cla, c.ins, c.p1, c.p2] ++ dataField c.data ++ c.le.toList)

/-- What follows the header: nothing, an expected length, or a length byte with exactly that much
data and perhaps an expected length. An empty data field counts as absent. -/
def readBody : Bytes → Option (Option Bytes × Option UInt8)
  | [] => some (none, none)
  | [le] => some (none, some le)
  | lc :: rest =>
    let data := rest.take lc.toNat
    let field := if data.isEmpty then none else some data
    if rest.length < lc.toNat then none
    else match rest.drop lc.toNat with
      | [] => some (field, none)
      | [le] => some (field, some le)
      | _ => none

/-- Reads a command from its bytes. -/
def ofBytes (raw : Bytes) : Except Error Command :=
  match raw with
  | cla :: ins :: p1 :: p2 :: body =>
    match readBody body with
    | some (data, le) => .ok { cla, ins, p1, p2, data, le }
    | none => .error (.commandLength raw.length)
  | _ => .error (.commandLength raw.length)

end Command

/-! ## Responses -/

/-- The two status bytes of a response. -/
structure StatusWord where
  sw1 : UInt8
  sw2 : UInt8
  deriving DecidableEq

namespace StatusWord

/-- The status bytes as one number. -/
def value (s : StatusWord) : Nat := 256 * s.sw1.toNat + s.sw2.toNat

/-- The status byte of the card, where the response carries one. -/
def native? (s : StatusWord) : Option UInt8 := if s.sw1 = 0x91 then some s.sw2 else none

end StatusWord

/-- A response with its optional payload. -/
structure Response where
  payload : Option Bytes
  status : StatusWord
  deriving DecidableEq

/-- Reads a response: the last two bytes are the status, an empty payload counts as absent. -/
def Response.ofBytes (raw : Bytes) : Except Error Response :=
  match raw.reverse with
  | sw2 :: sw1 :: rest =>
    .ok { payload := if rest.isEmpty then none else some rest.reverse, status := ⟨sw1, sw2⟩ }
  | _ => .error (.incompleteResponse raw.length)

end CardLink.Apdu
