import CardLink.Session.Issue

/-!
# An honest card on an unreliable line

The card keeps the same secrets and counter as the host. It puts a command together from its pieces,
checks the tag at its end, and refuses the command or carries it out and answers, in as many frames
as it likes. The line between the two may have no connection when a call begins, and may lose any
frame or answer later on.
-/

namespace CardLink

/-! ## Calls -/

/-- What the card decides on a command whose tag is right. Encrypted answers are whole blocks. -/
inductive Verdict (mode : CommMode) where
  | refuse (status : UInt8) (h : status ≠ CardStatus.ok ∧ status ≠ CardStatus.additionalFrame)
  /-- The answer, and the lengths at which it is cut into frames. -/
  | answer (plain : Bytes) (cuts : List Nat) (h : mode = .full → plain.length % 16 = 0)

/-- What the line does with a frame and its answer. Only a missing connection is certain to keep a
frame from the card. -/
inductive Fate where
  | arrives
  | frameLost (fault : TransportFault) (h : fault.maybeSent = true)
  | answerLost (fault : TransportFault) (h : fault.maybeSent = true)

/-- A secured command that the host issues, what the card decides on it, and what the line does. -/
structure Call where
  settings : Settings
  command : Command
  secured : command.mode.isSecured = true
  verdict : Verdict command.mode
  /-- There is no connection for the first frame. -/
  unsent : Bool := false
  /-- What happens to the frames one after the other; those after the last arrive. -/
  fates : List Fate := []

/-- The length of the frame of a call, which the card can tell from the code and header. -/
def Call.length (x : Call) : Nat :=
  1 + x.command.header.length + x.command.payload.length + Reply.tagLength

/-- Nothing stands between the host and the card's answer: the line is up and loses nothing, the
host can put the command together, and the answer comes in no more frames than the host allows. -/
structure Call.Undisturbed (x : Call) (s : Session) (plain : Bytes) : Prop where
  connected : x.unsent = false
  lossless : x.fates = []
  command : ∃ frame, s.protectedFrame x.settings x.command = .ok frame
  answer : ∃ cuts h, x.verdict = .answer plain cuts h ∧
    cuts.length ≤ x.settings.maxResponseFrames - 1

/-! ## The card -/

/-- The state of a card. -/
structure HonestCard where
  /-- Keys, transaction and counter, while the card has a session. -/
  link : Option AesProtection
  /-- The pieces of a command received so far. -/
  received : Bytes := []
  /-- The frames of an answer that are still to be sent. -/
  queue : List Bytes := []
  /-- The answers given so far, in clear. -/
  said : List Bytes := []

namespace HonestCard

/-- The card between two commands. -/
def rest (card : HonestCard) : HonestCard := { card with received := [], queue := [] }

/-- The card gives up its session. -/
def giveUp (card : HonestCard) : HonestCard := { card.rest with link := none }

/-- A command with its last eight bytes taken for the tag under the current counter. -/
def authentic (p : AesProtection) : Bytes → Bool
  | [] => false
  | code :: rest =>
    let body := rest.take (rest.length - Reply.tagLength)
    rest.drop (rest.length - Reply.tagLength) ==
      (Protection.commandTag p.keys.mac p.ti code p.counter [] body).toList

/-- An answer as it is protected under the given counter. -/
def body (p : AesProtection) (mode : CommMode) (counter : Counter) (plain : Bytes) : Bytes :=
  match mode with
  | .full =>
    Octets.join (Cbc.encryptBlocks (aes p.keys.enc)
      (Protection.iv .response p.keys.enc p.ti counter) (Cbc.blocksOf 16 plain))
  | .plain | .mac => plain

/-- A protected answer followed by its tag. -/
def sealed (p : AesProtection) (mode : CommMode) (counter : Counter) (plain : Bytes) : Bytes :=
  let bytes := body p mode counter plain
  bytes ++ (Protection.responseTag p.keys.mac p.ti CardStatus.ok counter bytes).toList

/-- An answer cut into frames. -/
def frames : List Nat → Bytes → List Bytes
  | [], bs => [CardStatus.ok :: bs]
  | n :: cuts, bs => (CardStatus.additionalFrame :: bs.take n) :: frames cuts (bs.drop n)

/-- The next frame of the answer. -/
def serve (card : HonestCard) : Bytes × HonestCard :=
  match card.queue with
  | [] => ([0xCA], card.giveUp)
  | next :: queue => (next, { card with queue })

/-- What the card makes of a whole command. -/
def conclude (x : Call) (card : HonestCard) (command : Bytes) : Bytes × HonestCard :=
  match card.link with
  | none => ([0xAE], card.rest)
  | some p =>
    if authentic p command then
      match x.verdict with
      | .refuse status _ => ([status], card.rest)
      | .answer plain cuts _ =>
        match p.step with
        | .error _ => ([0xAE], card.giveUp)
        | .ok p' =>
          serve { link := some p', said := card.said ++ [plain],
                  queue := frames cuts (sealed p x.command.mode p'.counter plain) }
    else ([0x1E], card.giveUp)

/-- A command so far, with another frame of it. -/
def gather : Bytes → Bytes → Option Bytes
  | [], frame => some frame
  | _ :: _, [] => none
  | b :: bs, code :: piece =>
    if code = CardStatus.additionalFrame then some (b :: bs ++ piece) else none

/-- What the card makes of a frame: it goes on with an answer, asks for the rest of a command, or
concludes. -/
def react (x : Call) (card : HonestCard) (frame : Bytes) : Bytes × HonestCard :=
  if card.queue ≠ [] then
    if frame = [CardStatus.additionalFrame] then card.serve else ([0xCA], card.giveUp)
  else
    match gather card.received frame with
    | none => ([0xCA], card.giveUp)
    | some command =>
      if command.length < x.length then
        ([CardStatus.additionalFrame], { card with received := command })
      else card.conclude x command

end HonestCard

/-! ## The line -/

/-- The card and what is still to happen on the line. -/
structure Line where
  card : HonestCard
  unsent : Bool
  fates : List Fate

namespace Line

/-- A frame on the line. -/
def transmit (x : Call) (frame : Bytes) (line : Line) : Delivery × Line :=
  if line.unsent then (.error .notConnected, line)
  else
    let (answer, card) := line.card.react x frame
    match line.fates.headD .arrives with
    | .arrives => (.ok answer, { line with card, fates := line.fates.tail })
    | .frameLost fault _ => (.error fault, { line with fates := line.fates.tail })
    | .answerLost fault _ => (.error fault, { line with card, fates := line.fates.tail })

/-- The line as the host sees it. -/
def transport (x : Call) : Transport Line where
  transmit := transmit x
  isConnected line := !line.unsent
  reset line := (.ok (), line)

end Line

/-! ## Runs -/

/-- A call: its result, the host's session after it and the card after it. -/
def Call.play (x : Call) (s : Session) (card : HonestCard) :
    Except Error Bytes × Session × HonestCard :=
  let e := (s.issue x.settings x.command).run (Line.transport x)
    { card, unsent := x.unsent, fates := x.fates }
  (e.1.1, e.1.2, e.2.card)

/-- Session and card after a list of calls. -/
def Call.playAll : List Call → Session → HonestCard → Session × HonestCard
  | [], s, card => (s, card)
  | x :: xs, s, card => playAll xs (x.play s card).2.1 (x.play s card).2.2

/-- Host and card agree on keys, transaction and counter, and the card is between two commands. -/
def InStep (s : Session) (card : HonestCard) : Prop :=
  ∃ p, s.protection = some (.aes p) ∧ card.link = some p ∧ card.received = [] ∧ card.queue = []

end CardLink
