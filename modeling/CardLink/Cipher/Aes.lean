import CardLink.Cipher.AesTables
import CardLink.Cipher.Block

/-!
# AES with a key of 128 bits

The state is four columns of four bytes. A round substitutes every byte, moves the rows, mixes each
column and adds a round key; the first key is added before the rounds and the last round does not
mix. Decryption follows the list of round keys from the far end and undoes each step.
-/

namespace CardLink

namespace Aes

/-! ## The state -/

/-- One column of the state, top byte first. -/
structure Column where
  b0 : UInt8
  b1 : UInt8
  b2 : UInt8
  b3 : UInt8
  deriving DecidableEq

/-- The sixteen bytes a round works on, and the form of a round key. -/
structure State where
  c0 : Column
  c1 : Column
  c2 : Column
  c3 : Column
  deriving DecidableEq

/-- The column of bytes `i`, `i + 1`, `i + 2` and `i + 3`. -/
def Column.read (bs : Bytes) (i : Nat) : Column :=
  ⟨bs.getD i 0, bs.getD (i + 1) 0, bs.getD (i + 2) 0, bs.getD (i + 3) 0⟩

/-- The bytes of a column. -/
def Column.write (c : Column) : Bytes := [c.b0, c.b1, c.b2, c.b3]

/-- The state that holds a block, column by column. -/
def State.ofBlock (b : Octets 16) : State :=
  ⟨.read b.toList 0, .read b.toList 4, .read b.toList 8, .read b.toList 12⟩

/-- The block that a state holds. -/
def State.toBlock (s : State) : Octets 16 :=
  ⟨s.c0.write ++ s.c1.write ++ s.c2.write ++ s.c3.write, rfl⟩

/-! ## Adding a round key -/

/-- Exclusive or of two columns. -/
def Column.xor (a b : Column) : Column :=
  ⟨a.b0 ^^^ b.b0, a.b1 ^^^ b.b1, a.b2 ^^^ b.b2, a.b3 ^^^ b.b3⟩

/-- Exclusive or of two states. -/
def State.xor (a b : State) : State :=
  ⟨a.c0.xor b.c0, a.c1.xor b.c1, a.c2.xor b.c2, a.c3.xor b.c3⟩

/-! ## Substituting bytes -/

/-- A function applied to each byte of a column. -/
def Column.map (f : UInt8 → UInt8) (c : Column) : Column := ⟨f c.b0, f c.b1, f c.b2, f c.b3⟩

/-- A function applied to each byte of a state. -/
def State.map (f : UInt8 → UInt8) (s : State) : State :=
  ⟨s.c0.map f, s.c1.map f, s.c2.map f, s.c3.map f⟩

/-! ## Moving rows -/

/-- Row `i` moves `i` columns to the left. -/
def State.shiftRows (s : State) : State :=
  ⟨⟨s.c0.b0, s.c1.b1, s.c2.b2, s.c3.b3⟩, ⟨s.c1.b0, s.c2.b1, s.c3.b2, s.c0.b3⟩,
    ⟨s.c2.b0, s.c3.b1, s.c0.b2, s.c1.b3⟩, ⟨s.c3.b0, s.c0.b1, s.c1.b2, s.c2.b3⟩⟩

/-- Row `i` moves `i` columns to the right. -/
def State.unshiftRows (s : State) : State :=
  ⟨⟨s.c0.b0, s.c3.b1, s.c2.b2, s.c1.b3⟩, ⟨s.c1.b0, s.c0.b1, s.c3.b2, s.c2.b3⟩,
    ⟨s.c2.b0, s.c1.b1, s.c0.b2, s.c3.b3⟩, ⟨s.c3.b0, s.c2.b1, s.c1.b2, s.c0.b3⟩⟩

@[simp] theorem State.unshiftRows_shiftRows (s : State) : s.shiftRows.unshiftRows = s := rfl

@[simp] theorem State.shiftRows_unshiftRows (s : State) : s.unshiftRows.shiftRows = s := rfl

/-! ## Mixing columns -/

/-- The product with `x` in the field of 256 elements. -/
def double (b : UInt8) : UInt8 := (b <<< 1) ^^^ (if b &&& 0x80 = 0 then 0 else 0x1b)

/-- The product with the fixed polynomial `3x³ + x² + x + 2`. -/
def Column.mix (c : Column) : Column :=
  ⟨double c.b0 ^^^ (double c.b1 ^^^ c.b1) ^^^ c.b2 ^^^ c.b3,
    c.b0 ^^^ double c.b1 ^^^ (double c.b2 ^^^ c.b2) ^^^ c.b3,
    c.b0 ^^^ c.b1 ^^^ double c.b2 ^^^ (double c.b3 ^^^ c.b3),
    (double c.b0 ^^^ c.b0) ^^^ c.b1 ^^^ c.b2 ^^^ double c.b3⟩

/-- The product with `x³ + 1`. -/
def times9 (b : UInt8) : UInt8 := double (double (double b)) ^^^ b

/-- The product with `x³ + x + 1`. -/
def times11 (b : UInt8) : UInt8 := double (double (double b)) ^^^ double b ^^^ b

/-- The product with `x³ + x² + 1`. -/
def times13 (b : UInt8) : UInt8 := double (double (double b)) ^^^ double (double b) ^^^ b

/-- The product with `x³ + x² + x`. -/
def times14 (b : UInt8) : UInt8 := double (double (double b)) ^^^ double (double b) ^^^ double b

/-- The product with the inverse polynomial `11x³ + 13x² + 9x + 14`. -/
def Column.unmix (c : Column) : Column :=
  ⟨times14 c.b0 ^^^ times11 c.b1 ^^^ times13 c.b2 ^^^ times9 c.b3,
    times9 c.b0 ^^^ times14 c.b1 ^^^ times11 c.b2 ^^^ times13 c.b3,
    times13 c.b0 ^^^ times9 c.b1 ^^^ times14 c.b2 ^^^ times11 c.b3,
    times11 c.b0 ^^^ times13 c.b1 ^^^ times9 c.b2 ^^^ times14 c.b3⟩

/-- Every column mixed. -/
def State.mixColumns (s : State) : State := ⟨s.c0.mix, s.c1.mix, s.c2.mix, s.c3.mix⟩

/-- Every column restored. -/
def State.unmixColumns (s : State) : State := ⟨s.c0.unmix, s.c1.unmix, s.c2.unmix, s.c3.unmix⟩

/-! ## Round keys -/

/-- The last column of a round key, rotated, substituted and marked with the round constant. -/
def Column.schedule (c : Column) (rc : UInt8) : Column :=
  ⟨substitute c.b1 ^^^ rc, substitute c.b2, substitute c.b3, substitute c.b0⟩

/-- The round key that follows another one. -/
def State.nextKey (k : State) (rc : UInt8) : State :=
  let c0 := k.c0.xor (k.c3.schedule rc)
  let c1 := k.c1.xor c0
  let c2 := k.c2.xor c1
  ⟨c0, c1, c2, k.c3.xor c2⟩

/-- The constants of the ten rounds. -/
def roundConstants : List UInt8 := [0x01, 0x02, 0x04, 0x08, 0x10, 0x20, 0x40, 0x80, 0x1b, 0x36]

/-- The round keys that follow `k`, one for each constant. -/
def roundKeys : State → List UInt8 → List State
  | _, [] => []
  | k, rc :: rest => k.nextKey rc :: roundKeys (k.nextKey rc) rest

/-! ## Encryption and decryption -/

/-- The rounds under a list of round keys; the last one does not mix. -/
def rounds : List State → State → State
  | [], s => s
  | [k], s => (s.map substitute).shiftRows.xor k
  | k :: k' :: ks, s => rounds (k' :: ks) ((s.map substitute).shiftRows.mixColumns.xor k)

/-- The rounds undone, those of the last keys first. -/
def unrounds : List State → State → State
  | [], s => s
  | [k], s => (s.xor k).unshiftRows.map unsubstitute
  | k :: k' :: ks, s =>
    ((unrounds (k' :: ks) s).xor k).unmixColumns.unshiftRows.map unsubstitute

end Aes

/-- AES under a key of 128 bits. -/
def aes (key : Octets 16) : BlockCipher 16 :=
  let k := Aes.State.ofBlock key
  let ks := Aes.roundKeys k Aes.roundConstants
  { encrypt := fun b => (Aes.rounds ks ((Aes.State.ofBlock b).xor k)).toBlock
    decrypt := fun b => ((Aes.unrounds ks (Aes.State.ofBlock b)).xor k).toBlock }

end CardLink
