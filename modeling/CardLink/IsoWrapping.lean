import CardLink.Apdu
import CardLink.Transport

/-!
# Native frames inside APDUs

A reader that only passes ISO 7816-4 carries a native frame as the instruction byte and data field
of a command of class `90`. The card's status comes back as second status byte, after `91`.
-/

namespace CardLink.IsoWrapping

/-- The class byte of a wrapped frame. -/
def wrappedClass : UInt8 := 0x90

/-- The command that carries a frame. -/
def command (ins : UInt8) (data : Bytes) : Apdu.Command where
  cla := wrappedClass
  ins := ins
  p1 := 0
  p2 := 0
  data := if data.isEmpty then none else some data
  le := some 0

/-- The bytes handed to the reader for a native frame. -/
def wrap (frame : Bytes) : Except TransportFault Bytes :=
  match frame with
  | [] => .error (.other "empty native frame")
  | ins :: data => (command ins data).toBytes.mapError fun e => .other e.message

/-- The native frame in what the reader returns. -/
def unwrap (raw : Bytes) : Except TransportFault Bytes :=
  match Apdu.Response.ofBytes raw with
  | .error e => .error (.other e.message)
  | .ok response =>
    match response.status.native? with
    | some code => .ok (code :: response.payload.getD [])
    | none =>
      .error (.other ("unexpected ISO status word "
        ++ Hex.encodeUpper [response.status.sw1, response.status.sw2]))

/-- A transport for native frames over one for APDUs. -/
def transport {σ : Type} (reader : Transport σ) : Transport σ where
  transmit := fun frame s =>
    match wrap frame with
    | .error fault => (.error fault, s)
    | .ok apdu =>
      let (answer, s') := reader.transmit apdu s
      (answer.bind unwrap, s')
  isConnected := reader.isConnected
  reset := reader.reset

end CardLink.IsoWrapping
