import CardLink.Proofs.FailedExchanges

/-!
# The form of a key update

Two things are worked out from a key update: the byte that names the slot, which the card goes by,
and the form in which the key is sent, which the card expects of that slot. Inside an application
both follow the number of the slot and the choice of the application. At card level the byte leaves
that choice out, and the form does not.

1. What a form comes to, from the bytes that are encrypted to what is left of the session
   (`sentAs_formIn`).
2. The byte gives back the number of the slot, and inside an application the choice too
   (`slotByte_ok`, `selector_inside`).
-/

namespace CardLink

namespace KeyUpdate

variable {u u' : KeyUpdate} {s : Session} {keySet keySet' : Option UInt8} {c c' : Command}

/-! ## The cryptogram -/

theorem cryptogram_otherSlot {payload : Bytes} (h : u.cryptogram .otherSlot = .ok payload) :
    ∃ old, u.oldKey = some old ∧ old.length = u.newKey.length ∧
      payload = Padding.pad (Bytes.xor u.newKey old ++ [u.version] ++ Checksum.crc32 u.newKey) := by
  cases hold : u.oldKey with
  | none =>
    simp only [cryptogram, plaintext, requireOldKey, hold] at h
    cases h
  | some old =>
    simp only [cryptogram, plaintext, requireOldKey, hold] at h
    split_ifs at h with hlength
    · cases h
      exact ⟨old, rfl, hlength, rfl⟩
    · cases h

/-! ## What a form comes to -/

/-- A session sends a key update in the given form. To its own slot it sends the key and the version,
takes the answer as it is and is over. To any other slot it sends the key combined with the old one,
the version and a checksum, and reads the answer as that to any command in full mode. -/
def SentAs (u : KeyUpdate) (s : Session) (keySet : Option UInt8) (c : Command) : Form → Prop
  | .authenticatedSlot =>
    c.payload = Padding.pad (u.newKey ++ [u.version]) ∧
      ∀ settings, s.updateKey settings u keySet =
        s.issueWith settings c fun _ => .ok ((), s.invalidate)
  | .otherSlot =>
    (∃ old, u.oldKey = some old ∧ old.length = u.newKey.length ∧ c.payload =
      Padding.pad (Bytes.xor u.newKey old ++ [u.version] ++ Checksum.crc32 u.newKey)) ∧
      ∀ settings, s.updateKey settings u keySet =
        s.issueWith settings c fun reply => do
          let e ← s.accept .full reply
          return ((), e.2)

theorem sentAs_formIn (h : u.commandIn s keySet = .ok c) : u.SentAs s keySet c (u.formIn s) := by
  have hissue := fun settings => Session.updateKey_eq_issueWith h settings
  obtain ⟨slot, payload, -, hpayload, rfl⟩ := commandIn_ok h
  unfold finishIn at hissue
  cases hform : u.formIn s with
  | authenticatedSlot =>
    rw [hform] at hpayload hissue
    cases hpayload
    exact ⟨rfl, hissue⟩
  | otherSlot =>
    rw [hform] at hpayload hissue
    exact ⟨cryptogram_otherSlot hpayload, hissue⟩

/-! ## What the byte of a slot tells -/

/-- What is combined with the number of a slot: the kind of key at card level, and the choice of the
application otherwise. -/
def selector (atCardLevel : Bool) (kind : KeyKind) (secondApplication : Bool) : UInt8 :=
  if atCardLevel then kind.cardLevelBits else if secondApplication then 0x80 else 0

theorem selector_mem (atCardLevel : Bool) (kind : KeyKind) (secondApplication : Bool) :
    selector atCardLevel kind secondApplication ∈ [0, 0x40, 0x80] := by
  cases atCardLevel <;> cases kind <;> cases secondApplication <;> decide

theorem halves_or {keyNo bits : UInt8} (h : keyNo ≤ maxKeyNo) (hbits : bits ∈ [0, 0x40, 0x80]) :
    (keyNo ||| bits) &&& 0x0F = keyNo ∧ (keyNo ||| bits) &&& 0xF0 = bits := by
  -- The number is a byte, so the halves can be checked number by number.
  have hall : ∀ k : Fin 256, UInt8.ofFin k ≤ maxKeyNo → ∀ bits ∈ [0, 0x40, 0x80],
      (UInt8.ofFin k ||| bits) &&& 0x0F = UInt8.ofFin k ∧
        (UInt8.ofFin k ||| bits) &&& 0xF0 = bits := by
    decide +kernel
  exact hall keyNo.toFin h bits hbits

/-- The low half of the byte is the number of the slot, the high half is combined with it. -/
theorem slotByte_ok {keyNo slot : UInt8} {atCardLevel : Bool} {kind : KeyKind}
    {secondApplication : Bool}
    (h : slotByte keyNo atCardLevel kind secondApplication = .ok slot) :
    slot &&& 0x0F = keyNo ∧ slot &&& 0xF0 = selector atCardLevel kind secondApplication := by
  have hbits := selector_mem atCardLevel kind secondApplication
  unfold slotByte at h
  by_cases hrange : maxKeyNo < keyNo
  · rw [if_pos hrange] at h
    cases h
  have hor : slot = keyNo ||| selector atCardLevel kind secondApplication := by
    rw [if_neg hrange] at h
    unfold selector
    cases atCardLevel <;> cases h <;> rfl
  rw [hor]
  exact halves_or (UInt8.not_lt.mp hrange) hbits

theorem selector_inside (kind kind' : KeyKind) {b b' : Bool}
    (h : selector false kind b = selector false kind' b') : b = b' := by
  have hall : ∀ b b' : Bool,
      (if b then 0x80 else 0 : UInt8) = (if b' then 0x80 else 0) → b = b' := by
    decide
  exact hall b b' h

/-- **The form of a key update.** Of two key updates that a session sends with the same header each
is sent in its form throughout: what is encrypted, how the answer is read and what becomes of the
session. The two forms are the same, except where the card level is selected, the slot is the one the
session was authenticated with, and only one of the two is for a second application. -/
theorem form_eq_iff (h : u.commandIn s keySet = .ok c) (h' : u'.commandIn s keySet' = .ok c')
    (hheader : c.header = c'.header) :
    u.SentAs s keySet c (u.formIn s) ∧ u'.SentAs s keySet' c' (u'.formIn s) ∧
      (u.formIn s = u'.formIn s ↔ (s.application = Aid.card → u.keyNo = s.keyNo →
        u.secondApplication = u'.secondApplication)) := by
  refine ⟨sentAs_formIn h, sentAs_formIn h', ?_⟩
  obtain ⟨slot, payload, hslot, -, rfl⟩ := commandIn_ok h
  obtain ⟨slot', payload', hslot', -, rfl⟩ := commandIn_ok h'
  obtain ⟨-, hheads⟩ := List.append_inj' hheader rfl
  obtain rfl := List.head_eq_of_cons_eq hheads
  obtain ⟨hkeyNo, hbits⟩ := slotByte_ok hslot
  obtain ⟨hkeyNo', hbits'⟩ := slotByte_ok hslot'
  have hsame : u'.keyNo = u.keyNo := hkeyNo'.symm.trans hkeyNo
  have hforms : u.formIn s = u'.formIn s ↔
      (u.keyNo = s.keyNo → u.secondApplication = u'.secondApplication) := by
    unfold formIn
    rw [hsame]
    by_cases hown : u.keyNo = s.keyNo
    · cases u.secondApplication <;> cases u'.secondApplication <;> simp [hown]
    · simp [hown]
  rw [hforms]
  by_cases hlevel : s.application = Aid.card
  · simp only [hlevel, true_implies]
  · have hagree : u.secondApplication = u'.secondApplication := by
      rw [decide_eq_false hlevel] at hbits hbits'
      exact selector_inside u.kind u'.kind (hbits.symm.trans hbits')
    simp only [hagree, implies_true]

/-! ### The slot of the sample session, with and without a second application -/

/-- A new key for the slot that the sample session was authenticated with. -/
def sample (key : AesKey) : KeyUpdate :=
  { aes 0 key with oldKey := some (Bytes.zeros 16) }

theorem form_eq_iff_second_application :
    let s := Session.sample.inApplication ⟨[1, 2, 3], rfl⟩
    let u := { sample (Octets.zero 16) with secondApplication := true }
    let u' := { sample (Octets.fit 16 [1]) with secondApplication := true, version := 1 }
    ∃ c c', u.commandIn s none = .ok c ∧ u'.commandIn s none = .ok c' ∧ c.header = c'.header ∧
      u.formIn s = u'.formIn s := by
  intro s u u'
  obtain ⟨c, hc⟩ : ∃ c, u.commandIn s none = .ok c := ⟨_, rfl⟩
  obtain ⟨c', hc'⟩ : ∃ c, u'.commandIn s none = .ok c := ⟨_, rfl⟩
  have hheader : c.header = c'.header := by
    cases hc
    cases hc'
    rfl
  exact ⟨c, c', hc, hc', hheader, (form_eq_iff hc hc' hheader).2.2.mpr fun _ _ => rfl⟩

/-- At card level the choice of the application changes the form and nothing that names the slot. The
card's answer to a key for its own slot is taken for a success in one form and rejected in the
other. -/
theorem form_differs_at_card_level :
    let u := sample (Octets.zero 16)
    let u' := { u with secondApplication := true }
    let w : Script := { replies := [.ok [CardStatus.ok]] }
    (∃ c c', u.commandIn Session.sample none = .ok c ∧
      u'.commandIn Session.sample none = .ok c' ∧ c.code = c'.code ∧ c.header = c'.header) ∧
      u.formIn Session.sample = .authenticatedSlot ∧ u'.formIn Session.sample = .otherSlot ∧
      ((Session.sample.updateKey {} u none).run Script.transport w).1.1 = .ok () ∧
      ((Session.sample.updateKey {} u' none).run Script.transport w).1.1 =
        .error (.wrongLength .securedResponse 8 0) := by
  intro u u' w
  exact ⟨⟨_, _, rfl, rfl, rfl, rfl⟩, rfl, rfl, by decide +kernel, by decide +kernel⟩

end KeyUpdate

end CardLink
