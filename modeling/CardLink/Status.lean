import CardLink.Text.Hex

/-!
# Status bytes of the card

The first byte of every response frame says how the command went. Two values let an exchange go on:
success, and the announcement of a further frame. All others are refusals.
-/

namespace CardLink

/-- A status byte sent by the card. -/
structure CardStatus where
  code : UInt8
  deriving DecidableEq

namespace CardStatus

/-- The command was carried out. -/
def ok : UInt8 := 0x00

/-- The card waits for, or has, another frame of the same message. -/
def additionalFrame : UInt8 := 0xAF

/-- Names of the well-known status bytes. -/
def names : List (UInt8 × String) := [
  (0x00, "OPERATION_OK"), (0x0C, "NO_CHANGES"), (0x0E, "OUT_OF_EEPROM_ERROR"),
  (0x1C, "ILLEGAL_COMMAND_CODE"), (0x1E, "INTEGRITY_ERROR"), (0x40, "NO_SUCH_KEY"),
  (0x7E, "LENGTH_ERROR"), (0x9D, "PERMISSION_DENIED"), (0x9E, "PARAMETER_ERROR"),
  (0xA0, "APPLICATION_NOT_FOUND"), (0xA1, "APPL_INTEGRITY_ERROR"), (0xAE, "AUTHENTICATION_ERROR"),
  (0xAF, "ADDITIONAL_FRAME"), (0xBE, "BOUNDARY_ERROR"), (0xC1, "PICC_INTEGRITY_ERROR"),
  (0xCA, "COMMAND_ABORTED"), (0xCD, "PICC_DISABLED_ERROR"), (0xCE, "COUNT_ERROR"),
  (0xDE, "DUPLICATE_ERROR"), (0xEE, "EEPROM_ERROR"), (0xF0, "FILE_NOT_FOUND"),
  (0xF1, "FILE_INTEGRITY_ERROR")]

/-- The name of a status byte. -/
def name (s : CardStatus) : String := (names.lookup s.code).getD "UNKNOWN"

/-- The code in hexadecimal, with the name in brackets. -/
def text (s : CardStatus) : String := "0x" ++ Hex.encode [s.code] ++ " (" ++ s.name ++ ")"

end CardStatus

end CardLink
