import CardLink.Key.Basic

/-!
# Answers with a fixed layout

Some answers of the card are records of single bytes and short strings at fixed places.
-/

namespace CardLink

/-! ## Key settings -/

/-- How the keys of an application may be used. -/
structure KeySettings where
  /-- Access rights, one bit each. -/
  settings : UInt8
  /-- The number of keys. -/
  maxKeys : UInt8
  kind : KeyKind
  deriving DecidableEq

namespace KeySettings

/-- Reads the two bytes of an answer. -/
def ofBytes : Bytes → Except Error KeySettings
  | [settings, count] => do
    let kind ← KeyKind.ofKeyCount count
    return { settings, maxKeys := count &&& 0x0F, kind }
  | bs => .error (.wrongLength .keySettingsAnswer 2 bs.length)

/-- The master key may be changed. -/
def masterKeyChangeable (s : KeySettings) : Bool := s.settings &&& 0x01 != 0

/-- The settings themselves may be changed. -/
def settingsChangeable (s : KeySettings) : Bool := s.settings &&& 0x08 != 0

end KeySettings

/-! ## Versions -/

/-- What the card says about its hardware or its software. -/
structure Component where
  vendor : UInt8
  kind : UInt8
  subtype : UInt8
  major : UInt8
  minor : UInt8
  storageCode : UInt8
  protocol : UInt8
  deriving DecidableEq

namespace Component

/-- Reads the seven bytes of a component. -/
def ofBytes (bs : Bytes) : Component where
  vendor := bs.getD 0 0
  kind := bs.getD 1 0
  subtype := bs.getD 2 0
  major := bs.getD 3 0
  minor := bs.getD 4 0
  storageCode := bs.getD 5 0
  protocol := bs.getD 6 0

/-- The least storage size that a code stands for, in bytes, where it is a number of 32 bits. -/
def storageBytes (c : Component) : Option Nat :=
  let exponent := c.storageCode.toNat / 2
  if exponent < 32 then some (1 <<< exponent) else none

/-- The version number. -/
def text (c : Component) : String := toString c.major.toNat ++ "." ++ toString c.minor.toNat

end Component

/-- What the card says about itself. -/
structure Version where
  hardware : Component
  software : Component
  uid : Octets 7
  batch : Octets 5
  week : UInt8
  year : UInt8
  deriving DecidableEq

/-- Reads the first 28 bytes of an answer. -/
def Version.ofBytes (bs : Bytes) : Except Error Version :=
  if bs.length < 28 then .error (.wrongLength .versionAnswer 28 bs.length)
  else .ok {
    hardware := Component.ofBytes bs
    software := Component.ofBytes (bs.drop 7)
    uid := Octets.fit 7 (bs.drop 14)
    batch := Octets.fit 5 (bs.drop 21)
    week := bs.getD 26 0
    year := bs.getD 27 0 }

end CardLink
