import CardLink.Proofs.Frames
import CardLink.Proofs.ShortApdus
import CardLink.Proofs.Transitions

/-!
# Native frames through a reader

A reader that takes APDUs only can stand between the host and the card without either of them
noticing: the card receives the frames that the host hands over, and the host gets the answers of
the card.

1. What the host writes as an APDU the reader reads back (`IsoWrapping.wrap_readable`).
2. A frame with up to 255 bytes after its code passes, and so does the answer
   (`transmit_through`).
3. No request hands over any other frame, so a run does not change (`transparent`).
-/

namespace CardLink

/-! ## Cards and readers -/

/-- A card that answers a frame, if at all, with a frame that is not empty. -/
structure NativeCard (σ : Type) extends Transport σ where
  answers : ∀ frame w answer, (transmit frame w).1 = .ok answer → answer ≠ []

namespace NativeCard

variable {σ : Type}

/-- The card with a record of the frames that it receives. -/
def recording (card : NativeCard σ) : NativeCard (σ × List Bytes) where
  transmit frame w :=
    ((card.transmit frame w.1).1, (card.transmit frame w.1).2, w.2 ++ [frame])
  isConnected w := card.isConnected w.1
  reset w := ((card.reset w.1).1, (card.reset w.1).2, w.2)
  answers frame w := card.answers frame w.1

/-- An answer of the card as the reader returns it. -/
def enclose : Bytes → Bytes
  | [] => []
  | status :: data => data ++ [0x91, status]

/-- The card behind a reader for APDUs. -/
def reader (card : NativeCard σ) : Transport σ where
  transmit raw w :=
    match Apdu.Command.ofBytes raw with
    | .error err => (.error (.other err.message), w)
    | .ok c =>
      let (answer, w') := card.transmit (c.ins :: c.data.getD []) w
      (answer.map enclose, w')
  isConnected := card.isConnected
  reset := card.reset

/-! ## One frame -/

theorem unwrap_enclose {answer : Bytes} (hne : answer ≠ []) :
    IsoWrapping.unwrap (enclose answer) = .ok answer := by
  obtain ⟨status, data, rfl⟩ := List.exists_cons_of_ne_nil hne
  have hreverse : (data ++ [0x91, status]).reverse = status :: 0x91 :: data.reverse := by simp
  have hpayload : (if data.reverse.isEmpty then none else some data.reverse.reverse).getD [] =
      data := by
    cases data <;> simp
  show IsoWrapping.unwrap (data ++ [0x91, status]) = _
  unfold IsoWrapping.unwrap Apdu.Response.ofBytes
  simp only [hreverse]
  exact congrArg (fun bs => Except.ok (status :: bs)) hpayload

variable (card : NativeCard σ)

/-- A frame that fits a data field reaches the card, and its answer the host. -/
theorem transmit_through {frame : Bytes} (hne : frame ≠ []) (hlength : frame.length ≤ 256)
    (w : σ) :
    (IsoWrapping.transport card.reader).transmit frame w = card.transmit frame w := by
  obtain ⟨ins, data, rfl⟩ := List.exists_cons_of_ne_nil hne
  obtain ⟨raw, hwrap, hread⟩ := IsoWrapping.wrap_readable ins (Nat.le_of_succ_le_succ hlength)
  have hanswer : (((card.transmit (ins :: data) w).1.map enclose).bind IsoWrapping.unwrap) =
      (card.transmit (ins :: data) w).1 := by
    cases h : (card.transmit (ins :: data) w).1 with
    | error fault => rfl
    | ok answer => exact unwrap_enclose (card.answers _ w answer h)
  unfold IsoWrapping.transport reader
  simp only [hwrap, hread, IsoWrapping.command_getD]
  exact Prod.ext hanswer rfl

end NativeCard

/-! ## Runs -/

namespace Card

/-- No frame of a run is empty, and none is longer than the settings allow or a handshake needs. -/
theorem performAll_fits (rs : List Request) (c : Card) :
    (performAll rs c).Plays fun T _ =>
      ∀ e ∈ T, e.1 ≠ [] ∧ e.1.length ≤ c.settings.longestFrame := by
  induction rs generalizing c with
  | nil => exact fun e he => by cases he
  | cons r rs ih =>
    unfold performAll
    rw [Dialogue.plays_bind]
    refine ((c.perform_ledBy r).and (c.steps_perform r)).mono ?_
    rintro T ⟨outcome, c'⟩ ⟨hled, hstep⟩
    simp only [Dialogue.pure_eq, Dialogue.plays_bind_done]
    refine (ih c').mono fun T' _ h' e he => ?_
    rcases List.mem_append.mp he with he | he
    · exact hled.fits e he
    · have hfits := h' e he
      rwa [hstep.settings] at hfits

/-- **Transparency.** For every card, every handle whose frames have at most 256 bytes and every
list of requests: through the reader the run gives the same outcomes, leaves the same handle and
leaves the card in the same state, and the card has received the same frames in the same order. -/
theorem transparent {σ : Type} (card : NativeCard σ) (rs : List Request) (c : Card) (w : σ)
    (hmax : c.settings.maxFrameLength ≤ 256) :
    (performAll rs c).run (IsoWrapping.transport card.recording.reader) (w, []) =
      (performAll rs c).run card.recording.toTransport (w, []) := by
  have hlongest : c.settings.longestFrame ≤ 256 := Nat.max_le.mpr ⟨hmax, by decide⟩
  have hfits : (performAll rs c).Plays fun T _ => ∀ e ∈ T, e.1 ≠ [] ∧ e.1.length ≤ 256 := by
    refine (performAll_fits rs c).mono fun T _ h e he => ?_
    exact ⟨(h e he).1, Nat.le_trans (h e he).2 hlongest⟩
  have hthrough (frame : Bytes) (w : σ × List Bytes) (h : frame ≠ [] ∧ frame.length ≤ 256) :
      (IsoWrapping.transport card.recording.reader).transmit frame w =
        card.recording.transmit frame w := card.recording.transmit_through h.1 h.2 w
  exact Dialogue.run_congr hthrough hfits _

/-! ### A card that gives back what it gets -/

/-- The card that answers every frame with the frame itself, and takes one of 256 bytes for a piece
of a command. -/
def echo : NativeCard Unit where
  transmit frame w :=
    let status := if frame.length = 256 then CardStatus.additionalFrame else CardStatus.ok
    (.ok (status :: frame), w)
  isConnected _ := true
  reset w := (.ok (), w)
  answers := by
    rintro frame w answer ⟨⟩
    exact List.cons_ne_nil _ _

theorem transparent_echo :
    let c : Card := { settings := { maxFrameLength := 256 } }
    let rs : List Request := [.startFirst 0, .writeRange 1 0 (List.replicate 300 7) .plain]
    c.settings.maxFrameLength ≤ 256 ∧
      (((performAll rs c).run (IsoWrapping.transport echo.recording.reader) ((), [])).2.2.map
        List.length) = [3, 256, 53] ∧
      (performAll rs c).run (IsoWrapping.transport echo.recording.reader) ((), []) =
        (performAll rs c).run echo.recording.toTransport ((), []) :=
  ⟨Nat.le_refl 256, by decide +kernel, transparent echo _ _ () (Nat.le_refl 256)⟩

end Card

end CardLink
