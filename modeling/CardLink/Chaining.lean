import CardLink.Command
import CardLink.Dialogue
import CardLink.Settings

/-!
# Chaining

A command that is too long for one frame is sent in pieces, each after the first announced by the
byte `AF` and each called for by the card's answer `AF` to the piece before. A response may come in
several frames too; the host asks for the next one with a lone `AF`, up to a limit.
-/

namespace CardLink.Chaining

/-- The byte that announces, or asks for, the continuation of a message. -/
def continuation : UInt8 := 0xAF

/-! ## Sending a command -/

/-- A string cut into pieces of `k + 1` bytes; only the last may be shorter. -/
def pieces (k : Nat) : Bytes → List Bytes
  | [] => []
  | b :: bs => (b :: bs.take k) :: pieces k (bs.drop k)
termination_by bs => bs.length
decreasing_by
  simp only [List.length_drop, List.length_cons]
  omega

/-- The frames that follow the first one of a command. -/
def followers (max : Nat) (frame : Bytes) : List Bytes :=
  (pieces (max - 2) (frame.drop max)).map (continuation :: ·)

/-- The frames that carry a command, at most `max` bytes each. -/
def chunks (max : Nat) (frame : Bytes) : List Bytes := frame.take max :: followers max frame

/-- The card must ask for the next piece. -/
def checkContinues : Bytes → Except Error Unit
  | [] => .error (.malformed .emptyResponse)
  | code :: _ =>
    if code = CardStatus.additionalFrame then .ok ()
    else do
      CardStatus.check code
      throw (.malformed .chainCompletedEarly)

/-- Sends a frame and those that follow it; the answer to the last one is the result. -/
def sendAll (first : Bytes) : List Bytes → Conversation Bytes
  | [] => transmit first
  | next :: rest => do
    let answer ← transmit first
    checkContinues answer
    sendAll next rest

/-- A piece must have room for a byte of data. -/
def checkThreshold (max : Nat) : Except Error Unit :=
  if max < 2 then .error (.malformed .chainingThreshold) else .ok ()

/-- Sends a command in frames of at most `max` bytes. -/
def send (max : Nat) (frame : Bytes) : Conversation Bytes := do
  checkThreshold max
  sendAll (frame.take max) (followers max frame)

/-! ## Collecting a response -/

/-- Joins a frame of a response, and as many further ones as the card announces, to the data
collected before; at most `more` further frames are asked for. -/
def collect (limit : Nat) : Nat → Bytes → Bytes → Conversation Reply
  | more, before, frame => do
    let reply ← Reply.parse frame
    CardStatus.check reply.status
    let data := before ++ reply.data
    if reply.status = CardStatus.additionalFrame then
      match more with
      | 0 => throw (.chainLimitExceeded limit)
      | more + 1 =>
        let next ← transmit [continuation]
        collect limit more data next
    else return ⟨reply.status, data⟩

/-- The whole response that begins with the given frame; at most `max` frames, the first included,
are accepted. -/
def receive (max : Nat) (first : Bytes) : Conversation Reply := collect max (max - 1) [] first

/-! ## Both -/

/-- Sends a command and collects the response. -/
def roundTrip (settings : Settings) (frame : Bytes) : Conversation Reply := do
  let first ← send settings.maxFrameLength frame
  receive settings.maxResponseFrames first

end CardLink.Chaining
