import CardLink.Error

/-!
# Transports

A transport carries a frame to the card and brings back an answer, or says why there is none. What
lies behind it, reader and card included, is the state that every frame may change.
-/

namespace CardLink

/-- What a transport returns for one frame. -/
abbrev Delivery := Except TransportFault Bytes

/-- A way to reach a card, over states of type `σ`. -/
structure Transport (σ : Type) where
  transmit : Bytes → σ → Delivery × σ
  isConnected : σ → Bool
  reset : σ → Except TransportFault Unit × σ

/-! ## A scripted transport -/

/-- The state of a transport that plays back prepared answers and keeps what it was given. -/
structure Script where
  /-- Answers not yet given. -/
  replies : List Delivery := []
  /-- Frames received, in order. -/
  sent : List Bytes := []
  connected : Bool := true

namespace Script

/-- Each frame takes the next answer; when none is left, transmission fails. -/
def transmit (frame : Bytes) (s : Script) : Delivery × Script :=
  match s.replies with
  | [] => (.error .transmission, { s with sent := s.sent ++ [frame] })
  | r :: rest => (r, { s with replies := rest, sent := s.sent ++ [frame] })

/-- The first reset drops the connection; after that there is none to reset. -/
def reset (s : Script) : Except TransportFault Unit × Script :=
  if s.connected then (.ok (), { s with connected := false }) else (.error .notConnected, s)

/-- New answers in place of the old ones, and an empty record of frames. -/
def load (s : Script) (replies : List Delivery) : Script := { s with replies, sent := [] }

/-- The scripted transport. -/
def transport : Transport Script where
  transmit := transmit
  isConnected := Script.connected
  reset := reset

end Script

end CardLink
