import CardLink.Proofs.CodecRoundTrips
import CardLink.Proofs.KeyForms
import CardLink.Proofs.PaddedStrings

/-!
# What a card reads from a key cryptogram

A wrong key in a slot cannot be mended, so a card must read from a cryptogram exactly the key that
the host put into it. The card's reader is written against the layout of the text under the padding:
the key, alone or combined with the key in the slot, the version, and in the second case the
checksum of the key.

1. The reader gives back what the layout was filled with (`readKey_own`, `readKey_combined`).
2. A whole key makes a text of two blocks in both forms (`length_pad_plaintext`), and only the old
   key can stand in the way (`plaintext_otherSlot_eq_ok`).
3. The text under the padding determines key and version (`plaintext_injective`).
-/

namespace CardLink.KeyUpdate

/-! ## Whole keys -/

/-- The new key is an AES key or a triple DES key, as its kind says. -/
def HoldsKey (u : KeyUpdate) : Prop :=
  (∃ key : AesKey, u.kind = .aes ∧ u.newKey = key.toList) ∨
    ∃ key : TripleDesKey, u.kind = key.kind ∧ u.newKey = key.bytes

/-- The updates that are made of a key, with any old key, version and choice of the application. -/
theorem holdsKey_aes (keyNo : UInt8) (key : AesKey) (oldKey : Option Bytes) (version : UInt8)
    (secondApplication : Bool) :
    { aes keyNo key with oldKey, version, secondApplication }.HoldsKey :=
  Or.inl ⟨key, rfl, rfl⟩

theorem holdsKey_tripleDes (keyNo : UInt8) (key : TripleDesKey) (oldKey : Option Bytes)
    (version : UInt8) (secondApplication : Bool) :
    { tripleDes keyNo key with oldKey, version, secondApplication }.HoldsKey :=
  Or.inr ⟨key, rfl, rfl⟩

variable {u u' : KeyUpdate}

theorem HoldsKey.length (h : u.HoldsKey) : u.newKey.length = 16 ∨ u.newKey.length = 24 := by
  rcases h with ⟨key, -, hkey⟩ | ⟨key, -, hkey⟩
  · exact Or.inl (by rw [hkey, key.length_toList])
  · rw [hkey]
    cases key with
    | twoKey k => exact Or.inl k.length_toList
    | threeKey k => exact Or.inr k.length_toList

/-! ## The card's reader -/

/-- The key and version in a text for a key of the given length, where the slot holds `old`. -/
def readKey (form : Form) (length : Nat) (old plain : Bytes) : Option (Bytes × UInt8) :=
  match plain.drop length with
  | [] => none
  | version :: rest =>
    match form with
    | .authenticatedSlot => if rest = [] then some (plain.take length, version) else none
    | .otherSlot =>
      let key := Bytes.xor (plain.take length) old
      if rest = Checksum.crc32 key then some (key, version) else none

/-- The key and version in a cryptogram. -/
def readCryptogram (form : Form) (length : Nat) (old payload : Bytes) : Option (Bytes × UInt8) :=
  (Padding.strip payload).toOption.bind (readKey form length old)

theorem readKey_own (key : Bytes) (version : UInt8) (old : Bytes) :
    readKey .authenticatedSlot key.length old (key ++ [version]) = some (key, version) := by
  simp only [readKey, List.drop_left, List.take_left, if_true]

theorem readKey_combined {key old : Bytes} (hold : old.length = key.length) (version : UInt8) :
    readKey .otherSlot key.length old
      (Bytes.xor key old ++ [version] ++ Checksum.crc32 key) = some (key, version) := by
  have hlength : (Bytes.xor key old).length = key.length := by
    rw [Bytes.length_xor, hold, Nat.min_self]
  have hback : Bytes.xor (Bytes.xor key old) old = key := Bytes.xor_xor hold.symm
  rw [List.append_assoc, List.singleton_append]
  simp only [readKey, List.drop_left' hlength, List.take_left' hlength, hback, if_true]

/-! ## The text under the padding -/

theorem cryptogram_eq_ok {form : Form} {payload : Bytes} :
    u.cryptogram form = .ok payload ↔
      ∃ plain, u.plaintext form = .ok plain ∧ payload = Padding.pad plain := by
  unfold cryptogram
  cases u.plaintext form with
  | error err => simp [Except.map]
  | ok plain => simp [Except.map, eq_comm]

/-- For another slot there is a text exactly if the old key is known and as long as the new one. -/
theorem plaintext_otherSlot_eq_ok {plain : Bytes} :
    u.plaintext .otherSlot = .ok plain ↔
      ∃ old, u.oldKey = some old ∧ old.length = u.newKey.length ∧
        plain = Bytes.xor u.newKey old ++ [u.version] ++ Checksum.crc32 u.newKey := by
  constructor
  · intro h
    obtain ⟨old, hold, hlength, hpad⟩ :=
      cryptogram_otherSlot (cryptogram_eq_ok.mpr ⟨plain, h, rfl⟩)
    exact ⟨old, hold, hlength, Padding.pad_injective hpad⟩
  · rintro ⟨old, hold, hlength, rfl⟩
    simp only [plaintext, requireOldKey, hold, if_pos hlength]
    rfl

/-- A card that holds the old key reads the new one. -/
theorem readKey_plaintext {form : Form} {old plain : Bytes} (h : u.plaintext form = .ok plain)
    (hold : form = .otherSlot → u.oldKey = some old) :
    readKey form u.newKey.length old plain = some (u.newKey, u.version) := by
  cases form with
  | authenticatedSlot =>
    cases h
    exact readKey_own u.newKey u.version old
  | otherSlot =>
    obtain ⟨old', hold', hlength, rfl⟩ := plaintext_otherSlot_eq_ok.mp h
    rw [hold rfl] at hold'
    cases hold'
    exact readKey_combined hlength u.version

/-- With key and version the text takes two blocks, with or without the checksum. -/
theorem length_pad_plaintext (hu : u.HoldsKey) {form : Form} {plain : Bytes}
    (h : u.plaintext form = .ok plain) : (Padding.pad plain).length = 32 := by
  have hlength : u.newKey.length < plain.length ∧ plain.length ≤ u.newKey.length + 5 := by
    cases form with
    | authenticatedSlot =>
      cases h
      simp
    | otherSlot =>
      obtain ⟨old, -, hold, rfl⟩ := plaintext_otherSlot_eq_ok.mp h
      simp [hold]
  have hkey := hu.length
  rw [Padding.length_pad]
  unfold Cbc.nextMultiple
  omega

/-- The text determines key and version. For another slot the old key must be known. -/
theorem plaintext_injective {form : Form} {plain : Bytes} (hold : u'.oldKey = u.oldKey)
    (h : u.plaintext form = .ok plain) (h' : u'.plaintext form = .ok plain) :
    u'.newKey = u.newKey ∧ u'.version = u.version := by
  cases form with
  | authenticatedSlot =>
    have hsame : u'.newKey ++ [u'.version] = u.newKey ++ [u.version] :=
      (Except.ok.inj h').trans (Except.ok.inj h).symm
    obtain ⟨hkey, hversion⟩ := List.append_inj' hsame rfl
    exact ⟨hkey, List.head_eq_of_cons_eq hversion⟩
  | otherSlot =>
    obtain ⟨old, hu, hlength, -⟩ := plaintext_otherSlot_eq_ok.mp h
    obtain ⟨old', hu', hlength', -⟩ := plaintext_otherSlot_eq_ok.mp h'
    rw [hold, hu] at hu'
    cases hu'
    have hread := readKey_plaintext h fun _ => hu
    have hread' := readKey_plaintext h' fun _ => hold.trans hu
    rw [← hlength', hlength, hread] at hread'
    obtain ⟨hkey, hversion⟩ := Prod.mk.inj (Option.some.inj hread')
    exact ⟨hkey.symm, hversion.symm⟩

/-! ## The cryptogram -/

/-- A text makes a cryptogram that every protection encrypts and from which the card reads the
key. -/
theorem recovered_of_plaintext (hu : u.HoldsKey) {form : Form} {old plain : Bytes}
    (h : u.plaintext form = .ok plain) (hold : form = .otherSlot → u.oldKey = some old) :
    ∃ payload, u.cryptogram form = .ok payload ∧ payload.length = 32 ∧
      readCryptogram form u.newKey.length old payload = some (u.newKey, u.version) ∧
      ∀ (p : AesProtection) (c : Command), c.mode = .full → c.payload = payload →
        ∃ frame, p.frame c = .ok frame := by
  refine ⟨Padding.pad plain, cryptogram_eq_ok.mpr ⟨plain, h, rfl⟩, length_pad_plaintext hu h, ?_,
    fun p c hfull hpayload => ?_⟩
  · rw [readCryptogram, Padding.strip_pad]
    exact readKey_plaintext h hold
  · refine AesProtection.exists_frame (by rw [hfull]; rfl) fun _ => ?_
    rw [hpayload]
    exact Padding.aligned_pad plain

theorem cryptogram_otherSlot_error_iff :
    (∃ err, u.cryptogram .otherSlot = .error err) ↔
      ∀ old, u.oldKey = some old → old.length ≠ u.newKey.length := by
  constructor
  · rintro ⟨err, herr⟩ old hold hlength
    have hok := cryptogram_eq_ok.mpr
      ⟨_, plaintext_otherSlot_eq_ok.mpr ⟨old, hold, hlength, rfl⟩, rfl⟩
    rw [herr] at hok
    cases hok
  · intro hnone
    cases h : u.cryptogram .otherSlot with
    | error err => exact ⟨err, rfl⟩
    | ok payload =>
      obtain ⟨old, hold, hlength, -⟩ := cryptogram_otherSlot h
      exact absurd hlength (hnone old hold)

/-- **A card recovers the key from a cryptogram.** For every update with a whole key, in the form
for the authenticated slot and, where the old key is known and as long as the new one, in the form
for another slot: there is a cryptogram, it is two blocks long, so that no protection refuses to
encrypt it, and a card that holds the old key reads from it the new key and the version. Nothing but
a missing old key or one of another length prevents the second form. And updates with the same
cryptogram in the same form and with the same old key carry the same key and version. -/
theorem cryptogram_recoverable (hu : u.HoldsKey) :
    (∀ form old, (form = .otherSlot → u.oldKey = some old ∧ old.length = u.newKey.length) →
      ∃ payload, u.cryptogram form = .ok payload ∧ payload.length = 32 ∧
        readCryptogram form u.newKey.length old payload = some (u.newKey, u.version) ∧
        ∀ (p : AesProtection) (c : Command), c.mode = .full → c.payload = payload →
          ∃ frame, p.frame c = .ok frame) ∧
    ((∃ err, u.cryptogram .otherSlot = .error err) ↔
      ∀ old, u.oldKey = some old → old.length ≠ u.newKey.length) ∧
    ∀ (u' : KeyUpdate) (form : Form) (payload : Bytes), u'.oldKey = u.oldKey →
      u.cryptogram form = .ok payload → u'.cryptogram form = .ok payload →
      u'.newKey = u.newKey ∧ u'.version = u.version := by
  refine ⟨fun form old hold => ?_, cryptogram_otherSlot_error_iff,
    fun u' form payload hold h h' => ?_⟩
  · have hplain : ∃ plain, u.plaintext form = .ok plain := by
      cases form with
      | authenticatedSlot => exact ⟨_, rfl⟩
      | otherSlot => exact ⟨_, plaintext_otherSlot_eq_ok.mpr ⟨old, (hold rfl).1, (hold rfl).2, rfl⟩⟩
    obtain ⟨plain, hplain⟩ := hplain
    exact recovered_of_plaintext hu hplain fun hform => (hold hform).1
  · obtain ⟨plain, hplain, rfl⟩ := cryptogram_eq_ok.mp h
    obtain ⟨plain', hplain', hpad⟩ := cryptogram_eq_ok.mp h'
    rw [← Padding.pad_injective hpad] at hplain'
    exact plaintext_injective hold hplain hplain'

/-- A key that ends like padding, with version zero behind it. -/
theorem cryptogram_recoverable_lookalike :
    let key : TripleDesKey := .threeKey (Octets.fit 24 [1, Padding.marker])
    let old : Bytes := Bytes.zeros 24
    let u : KeyUpdate := { tripleDes 1 key with oldKey := some old }
    u.HoldsKey ∧ (∃ payload, u.cryptogram .authenticatedSlot = .ok payload ∧
      readCryptogram .authenticatedSlot 24 old payload = some (key.bytes, 0)) ∧
      ∃ payload, u.cryptogram .otherSlot = .ok payload ∧
        readCryptogram .otherSlot 24 old payload = some (key.bytes, 0) := by
  intro key old u
  have hu : u.HoldsKey := holdsKey_tripleDes 1 key (some old) 0 false
  obtain ⟨hrecovered, -, -⟩ := cryptogram_recoverable hu
  obtain ⟨own, hown, -, hreadOwn, -⟩ := hrecovered .authenticatedSlot old nofun
  obtain ⟨other, hother, -, hreadOther, -⟩ :=
    hrecovered .otherSlot old fun _ => ⟨rfl, Bytes.length_zeros 24⟩
  exact ⟨hu, ⟨own, hown, hreadOwn⟩, other, hother, hreadOther⟩

end CardLink.KeyUpdate
