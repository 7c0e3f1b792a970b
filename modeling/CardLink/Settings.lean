import CardLink.Session.Basic

/-!
# Settings

A card handle is set up with the longest frame it may send at once, the number of frames it accepts
in one response, and the capabilities it announces.
-/

namespace CardLink

/-- The settings of a card handle. -/
structure Settings where
  /-- Frames longer than this are sent in pieces. -/
  maxFrameLength : Nat := 60
  /-- Responses of more frames than this are given up. -/
  maxResponseFrames : Nat := 64
  /-- The capabilities announced when a session is opened. -/
  capabilities : Option Capabilities := none
  deriving DecidableEq

namespace Settings

/-- The settings with another frame length, raised to two so that every piece carries data. -/
def limitFrames (s : Settings) (len : Nat) : Settings := { s with maxFrameLength := max 2 len }

/-- The settings with another limit on responses. -/
def limitResponses (s : Settings) (count : Nat) : Settings := { s with maxResponseFrames := count }

/-- The settings with capabilities to announce. -/
def announce (s : Settings) (capabilities : Capabilities) : Settings :=
  { s with capabilities := some capabilities }

/-- The capabilities as they are sent. -/
def capabilityBytes (s : Settings) : Bytes := s.capabilities.elim [] Octets.toList

end Settings

end CardLink
