import Mathlib.Data.List.Infix
import Mathlib.Logic.Function.Basic
import CardLink.Card.Commands
import CardLink.Proofs.CodecRoundTrips
import CardLink.Proofs.PaddedStrings

/-!
# An honest card that stores files

Behind its secure messaging the card keeps data files. It is told nothing of what the host means:
the length of a command, its mode and the range that it names are all read from the frames, and so
is the data. Encrypted files are written and read with padding.

1. What is written to a range of a file is read from it again (`DataFile.read_overwrite`).
2. A header gives back the range that the host put into it (`Files.range?_header`).
3. The card waits for exactly the frame of a command that suits the file
   (`Files.Suits.length_lt_expected_iff`).
4. It answers in whole blocks where the answer is encrypted (`Files.execute_aligned`).
-/

namespace CardLink

/-! ## Files -/

/-- A range of a file. -/
structure FileRange where
  file : UInt8
  offset : Nat
  length : Nat

/-- The status of a card that does not carry out a command. -/
structure Refusal extends CardStatus where
  refuses : code ≠ CardStatus.ok ∧ code ≠ CardStatus.additionalFrame

namespace Refusal

def illegalCommand : Refusal := ⟨⟨0x1C⟩, by decide⟩

def integrity : Refusal := ⟨⟨0x1E⟩, by decide⟩

def commandLength : Refusal := ⟨⟨0x7E⟩, by decide⟩

def boundary : Refusal := ⟨⟨0xBE⟩, by decide⟩

def noSuchFile : Refusal := ⟨⟨0xF0⟩, by decide⟩

end Refusal

/-- A data file. -/
structure DataFile where
  content : Bytes
  /-- Its data travels encrypted, and not only with tags. -/
  encrypted : Bool

namespace DataFile

/-- The mode of commands on the file. -/
def mode (f : DataFile) : CommMode := if f.encrypted then .full else .mac

/-- Data as it travels from and to the file. -/
def carried (f : DataFile) (data : Bytes) : Bytes :=
  if f.encrypted then Padding.pad data else data

/-- The length at which data of the given length travels. -/
def carriedLength (f : DataFile) (length : Nat) : Nat :=
  if f.encrypted then Cbc.nextMultiple 16 (length + 1) else length

/-- The data that has travelled. -/
def delivered (f : DataFile) (bytes : Bytes) : Except Error Bytes :=
  if f.encrypted then Padding.strip bytes else .ok bytes

/-- The bytes of a range; the length zero reads to the end. -/
def read (f : DataFile) (offset length : Nat) : Option Bytes :=
  let length := if length = 0 then f.content.length - offset else length
  if offset + length ≤ f.content.length then some ((f.content.drop offset).take length) else none

/-- The file with other bytes from an offset on. -/
def overwrite (f : DataFile) (offset : Nat) (data : Bytes) : DataFile :=
  { f with content := f.content.take offset ++ data ++ f.content.drop (offset + data.length) }

/-- The answer to a command that reads a range. -/
def answer (f : DataFile) (r : FileRange) : Except Refusal Bytes :=
  match f.read r.offset r.length with
  | none => .error .boundary
  | some data => .ok (f.carried data)

/-- The file after a command that writes to a range. -/
def store (f : DataFile) (r : FileRange) (payload : Bytes) : Except Refusal DataFile :=
  match f.delivered payload with
  | .error _ => .error .integrity
  | .ok data =>
    if data.length ≠ r.length then .error .commandLength
    else if f.content.length < r.offset + data.length then .error .boundary
    else .ok (f.overwrite r.offset data)

theorem isSecured_mode (f : DataFile) : f.mode.isSecured = true := by
  unfold mode
  split <;> rfl

theorem mode_eq_full {f : DataFile} : f.mode = .full ↔ f.encrypted = true := by
  unfold mode
  split <;> simp [*]

theorem length_carried (f : DataFile) (data : Bytes) :
    (f.carried data).length = f.carriedLength data.length := by
  unfold carried carriedLength
  split
  · exact Padding.length_pad data
  · rfl

theorem carried_aligned {f : DataFile} (h : f.mode = .full) (data : Bytes) :
    (f.carried data).length % 16 = 0 := by
  rw [carried, if_pos (mode_eq_full.mp h)]
  exact Padding.aligned_pad data

theorem delivered_carried (f : DataFile) (data : Bytes) :
    f.delivered (f.carried data) = .ok data := by
  unfold delivered carried
  split
  · exact Padding.strip_pad data
  · rfl

/-- What was written to a range is read from it. -/
theorem read_overwrite {f : DataFile} {offset : Nat} {data : Bytes} (hne : data ≠ [])
    (hfits : offset + data.length ≤ f.content.length) :
    (f.overwrite offset data).read offset data.length = some data := by
  have hdata : data.length ≠ 0 := fun h => hne (List.eq_nil_of_length_eq_zero h)
  have hfront : (f.content.take offset).length = offset := List.length_take_of_le (by omega)
  have hlength : (f.overwrite offset data).content.length = f.content.length := by
    simp only [overwrite, List.length_append, hfront, List.length_drop]
    omega
  unfold read
  rw [if_neg hdata, hlength, if_pos hfits, overwrite, List.append_assoc, List.drop_left' hfront,
    List.take_left]

theorem answer_aligned {f : DataFile} (h : f.mode = .full) {r : FileRange} {plain : Bytes}
    (hanswer : f.answer r = .ok plain) : plain.length % 16 = 0 := by
  unfold answer at hanswer
  split at hanswer
  · cases hanswer
  · cases hanswer
    exact carried_aligned h _

/-- Data that fits is stored as it was sent. -/
theorem store_carried {f : DataFile} {r : FileRange} {data : Bytes}
    (hlength : data.length = r.length) (hfits : r.offset + r.length ≤ f.content.length) :
    f.store r (f.carried data) = .ok (f.overwrite r.offset data) := by
  unfold store
  rw [delivered_carried]
  simp only [hlength, ne_eq, not_true_eq_false, if_false, if_neg (Nat.not_lt_of_le hfits)]

end DataFile

/-- The files of a card by their numbers. -/
abbrev Files := UInt8 → Option DataFile

/-! ## Commands on files -/

namespace Files

/-- The range that a header names. -/
def range? : Bytes → Option FileRange
  | [] => none
  | file :: rest =>
    if rest.length = 6 then
      some ⟨file, Bytes.ofLittle (rest.take 3), Bytes.ofLittle (rest.drop 3)⟩
    else none

/-- The length of the header behind a code: commands that read and write name a range. -/
def headerLength (code : UInt8) : Nat := if code = 0xAD ∨ code = 0x8D then 7 else 0

/-- The file that a header names. -/
def named? (files : Files) (header : Bytes) : Option DataFile :=
  (range? header).bind fun r => files r.file

/-- The mode of the command with the given header. -/
def mode (files : Files) (header : Bytes) : CommMode :=
  (files.named? header).elim .mac DataFile.mode

/-- The length of the payload of the command with the given code and header. -/
def payloadLength (files : Files) (code : UInt8) (header : Bytes) : Nat :=
  if code = 0x8D then
    match range? header, files.named? header with
    | some r, some f => f.carriedLength r.length
    | some r, none => r.length
    | none, _ => 0
  else 0

/-- The length of the frame of the command that begins with the given bytes, as far as they tell. -/
def expected (files : Files) : Bytes → Nat
  | [] => 1
  | code :: rest =>
    1 + headerLength code + files.payloadLength code (rest.take (headerLength code))
      + Reply.tagLength

/-- What the card does on a command: the answer and the files after it, unless it refuses. -/
def execute (files : Files) (c : Command) : Except Refusal (Bytes × Files) :=
  match range? c.header, files.named? c.header with
  | none, _ => .error .illegalCommand
  | some _, none => .error .noSuchFile
  | some r, some f =>
    if c.code = 0xAD then do
      let plain ← f.answer r
      return (plain, files)
    else do
      let f' ← f.store r c.payload
      return ([], Function.update files r.file (some f'))

/-- The command has the mode of the file that it names, and the lengths that its code and header
tell. -/
structure Suits (files : Files) (c : Command) : Prop where
  mode : c.mode = files.mode c.header
  header : c.header.length = headerLength c.code
  payload : c.payload.length = files.payloadLength c.code c.header

variable {files files' : Files} {c : Command}

theorem range?_header (file : UInt8) {offset length : Nat} (ho : offset < 0x1000000)
    (hl : length < 0x1000000) :
    range? (file :: (Bytes.little 3 offset ++ Bytes.little 3 length)) =
      some ⟨file, offset, length⟩ := by
  have hread {v : Nat} (hv : v < 0x1000000) : Bytes.ofLittle (Bytes.little 3 v) = v := by
    rw [Bytes.ofLittle_little]
    exact Nat.mod_eq_of_lt hv
  have hlength : (Bytes.little 3 offset ++ Bytes.little 3 length).length = 6 := by
    rw [List.length_append, Bytes.length_little, Bytes.length_little]
  simp only [range?, if_pos hlength, List.take_left' (Bytes.length_little 3 offset),
    List.drop_left' (Bytes.length_little 3 offset), hread ho, hread hl]

theorem isSecured_mode (files : Files) (header : Bytes) : (files.mode header).isSecured = true := by
  unfold mode
  cases files.named? header with
  | none => rfl
  | some f => exact f.isSecured_mode

theorem Suits.secured (h : files.Suits c) : c.mode.isSecured = true := by
  rw [h.mode]
  exact files.isSecured_mode c.header

/-- The beginning of a frame of a command is too short exactly if something follows it. -/
theorem Suits.length_lt_expected_iff (h : files.Suits c) {body : Bytes}
    (hbody : body.length = c.payload.length) (tag : Octets 8) {part more : Bytes} (hne : part ≠ [])
    (hparts : part ++ more = c.frameWith body ++ tag.toList) :
    part.length < files.expected part ↔ more ≠ [] := by
  obtain ⟨code, bytes, rfl⟩ := List.exists_cons_of_ne_nil hne
  obtain ⟨rfl, hbytes⟩ : code = c.code ∧ bytes ++ more = c.header ++ (body ++ tag.toList) := by
    rw [← List.append_assoc]
    exact List.cons.inj hparts
  have hlength : bytes.length + more.length = c.header.length + (c.payload.length + 8) := by
    rw [← List.length_append, hbytes, List.length_append, List.length_append, hbody,
      tag.length_toList]
  have hmore : more ≠ [] ↔ 0 < more.length := List.length_pos_iff.symm
  have htag : Reply.tagLength = 8 := rfl
  rw [hmore]
  simp only [expected, List.length_cons, ← h.header]
  -- The length of the payload is known once the whole header is there.
  by_cases hheader : bytes.length < c.header.length
  · omega
  · have htake : bytes.take c.header.length = c.header := by
      have hall := congrArg (List.take c.header.length) hbytes
      rwa [List.take_append_of_le_length (Nat.le_of_not_lt hheader), List.take_left] at hall
    rw [htake, ← h.payload]
    omega

theorem mode_of_named {f : DataFile} {header : Bytes} (h : files.named? header = some f) :
    files.mode header = f.mode := by
  unfold mode
  rw [h]
  rfl

/-- An encrypted answer is whole blocks. -/
theorem execute_aligned (hmode : files.mode c.header = .full) {plain : Bytes}
    (h : files.execute c = .ok (plain, files')) : plain.length % 16 = 0 := by
  unfold execute at h
  cases hrange : range? c.header with
  | none => simp [hrange] at h
  | some r =>
    cases hfile : files.named? c.header with
    | none => simp [hrange, hfile] at h
    | some f =>
      simp only [hrange, hfile] at h
      rw [mode_of_named hfile] at hmode
      split_ifs at h
      · obtain ⟨answer, hanswer, h⟩ := bind_ok h
        cases h
        exact DataFile.answer_aligned hmode hanswer
      · obtain ⟨f', -, h⟩ := bind_ok h
        cases h
        rfl

end Files

/-! ## The card -/

/-- A card with files. -/
structure FileCard where
  /-- Its secure messaging. -/
  base : HonestCard
  files : Files
  /-- The lengths at which the answers to come are cut into frames; later ones are not cut. -/
  cuts : List (List Nat) := []

namespace FileCard

/-- The card gives up its session. -/
def giveUp (card : FileCard) : FileCard := { card with base := card.base.giveUp }

/-- What the card makes of a whole command. -/
def conclude (card : FileCard) (command : Bytes) : Bytes × FileCard :=
  match card.base.link, command with
  | none, _ => ([0xAE], { card with base := card.base.rest })
  | some _, [] => ([0x7E], card.giveUp)
  | some p, code :: rest =>
    let n := Files.headerLength code
    match p.readCommand (card.files.mode (rest.take n)) n command with
    | none => ([0x1E], card.giveUp)
    | some c =>
      match card.files.execute c with
      | .error refusal => ([refusal.code], { card with base := card.base.rest })
      | .ok (plain, files) =>
        match p.step with
        | .error _ => ([0xAE], card.giveUp)
        | .ok p' =>
          let answer := HonestCard.sealed p c.mode p'.counter plain
          let (frame, base) := HonestCard.serve
            { link := some p', said := card.base.said ++ [plain],
              queue := HonestCard.frames (card.cuts.headD []) answer }
          (frame, { base, files, cuts := card.cuts.tail })

/-- What the card makes of a frame: it goes on with an answer, asks for the rest of a command, or
concludes. -/
def react (card : FileCard) (frame : Bytes) : Bytes × FileCard :=
  if card.base.queue ≠ [] then
    let (answer, base) :=
      if frame = [CardStatus.additionalFrame] then card.base.serve else ([0xCA], card.base.giveUp)
    (answer, { card with base })
  else
    match HonestCard.gather card.base.received frame with
    | none => ([0xCA], card.giveUp)
    | some command =>
      if command.length < card.files.expected command then
        ([CardStatus.additionalFrame], { card with base := { card.base with received := command } })
      else card.conclude command

end FileCard

/-! ## The line -/

/-- The card and what is still to happen on the line. -/
structure FileLine where
  card : FileCard
  fates : List Fate := []

namespace FileLine

/-- A frame on the line. -/
def transmit (frame : Bytes) (w : FileLine) : Delivery × FileLine :=
  let (answer, card) := w.card.react frame
  match w.fates.headD .arrives with
  | .arrives => (.ok answer, { card, fates := w.fates.tail })
  | .frameLost fault _ => (.error fault, { w with fates := w.fates.tail })
  | .answerLost fault _ => (.error fault, { card, fates := w.fates.tail })

/-- The line as the host sees it. -/
def transport : Transport FileLine where
  transmit := transmit
  isConnected _ := true
  reset w := (.ok (), w)

/-- The line without the files. -/
def line (w : FileLine) : Line := ⟨w.card.base, false, w.fates⟩

end FileLine

end CardLink
