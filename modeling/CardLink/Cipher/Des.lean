import CardLink.Cipher.Block
import CardLink.Cipher.DesTables

/-!
# DES and triple DES

DES is described on bits. Sixteen Feistel rounds exchange the halves of a block between two
permutations that undo each other, so running the rounds with the keys reversed decrypts. Triple
DES encrypts, decrypts and encrypts again under three keys.
-/

namespace CardLink

namespace Des

/-- A string of bits, most significant first. -/
abbrev Bits := List Bool

/-! ## Bits and bytes -/

/-- The eight bits of a byte. -/
def bitsOfByte (b : UInt8) : Bits := [7, 6, 5, 4, 3, 2, 1, 0].map b.toNat.testBit

/-- The bits of a byte string. -/
def bitsOfBytes (bs : Bytes) : Bits := bs.flatMap bitsOfByte

/-- The number that bits write in base two. -/
def value (bits : Bits) : Nat := bits.foldl (fun v b => 2 * v + b.toNat) 0

/-- The bytes that bits write, eight bits each; the last is filled up where bits are missing. -/
def bytesOfBits : Nat → Bits → Bytes
  | 0, _ => []
  | n + 1, bits => UInt8.ofNat (value (bits.take 8)) :: bytesOfBits n (bits.drop 8)

theorem length_bytesOfBits (n : Nat) (bits : Bits) : (bytesOfBits n bits).length = n := by
  induction n generalizing bits with
  | zero => rfl
  | succ n ih => simp [bytesOfBits, ih]

/-! ## The round function -/

/-- The bits that a table names, in the order of the table. -/
def permute (table : List Nat) (bits : Bits) : Bits :=
  table.map fun i => bits.getD (i - 1) false

@[simp] theorem length_permute (table : List Nat) (bits : Bits) :
    (permute table bits).length = table.length := by
  simp [permute]

/-- Bitwise exclusive or. -/
def xorBits (a b : Bits) : Bits := List.zipWith Bool.xor a b

/-- The four bits of a number below sixteen. -/
def nibble (v : Nat) : Bits := [3, 2, 1, 0].map v.testBit

/-- Six bits through one box: the outer two choose the row, the inner four the column. -/
def throughBox (box : Array Nat) (bits : Bits) : Bits :=
  let row := value [bits.getD 0 false, bits.getD 5 false]
  let column := value ((bits.drop 1).take 4)
  nibble (box.getD (16 * row + column) 0)

/-- A string of bits through the boxes, six bits each. -/
def throughBoxes : List (Array Nat) → Bits → Bits
  | [], _ => []
  | box :: rest, bits => throughBox box (bits.take 6) ++ throughBoxes rest (bits.drop 6)

/-- What a round adds to the left half, given its key and the right half. -/
def mangle (key right : Bits) : Bits :=
  permute roundPermutation (throughBoxes boxes (xorBits (permute expansion right) key))

@[simp] theorem length_mangle (key right : Bits) : (mangle key right).length = 32 := by
  simp [mangle, roundPermutation]

/-! ## Round keys -/

/-- The sixteen round keys that the rotating halves give. -/
def roundKeysOf : List Nat → Bits → Bits → List Bits
  | [], _, _ => []
  | r :: rs, left, right =>
    let left' := left.drop r ++ left.take r
    let right' := right.drop r ++ right.take r
    permute roundKeyChoice (left' ++ right') :: roundKeysOf rs left' right'

/-- The round keys of a key of eight bytes, its parity bits ignored. -/
def roundKeys (key : Octets 8) : List Bits :=
  let chosen := permute keyChoice (bitsOfBytes key.toList)
  roundKeysOf rotations (chosen.take 28) (chosen.drop 28)

/-! ## The cipher -/

/-- Feistel rounds under a list of keys. -/
def rounds : List Bits → Bits × Bits → Bits × Bits
  | [], halves => halves
  | key :: keys, (left, right) => rounds keys (right, xorBits left (mangle key right))

/-- The whole cipher on 64 bits: the halves change places once more after the last round. -/
def crypt (keys : List Bits) (bits : Bits) : Bits :=
  let permuted := permute initialPermutation bits
  let halves := rounds keys (permuted.take 32, permuted.drop 32)
  permute finalPermutation (halves.2 ++ halves.1)

/-- The whole cipher on a block. -/
def cryptBlock (keys : List Bits) (b : Octets 8) : Octets 8 :=
  ⟨bytesOfBits 8 (crypt keys (bitsOfBytes b.toList)), length_bytesOfBits _ _⟩

end Des

/-- DES under a key of eight bytes. -/
def des (key : Octets 8) : BlockCipher 8 :=
  let keys := Des.roundKeys key
  { encrypt := Des.cryptBlock keys
    decrypt := Des.cryptBlock keys.reverse }

/-- Triple DES: encryption under the first key, decryption under the second, encryption under the
third. -/
def tripleDes (k₁ k₂ k₃ : Octets 8) : BlockCipher 8 :=
  let d₁ := des k₁
  let d₂ := des k₂
  let d₃ := des k₃
  { encrypt := fun b => d₃.encrypt (d₂.decrypt (d₁.encrypt b))
    decrypt := fun b => d₁.decrypt (d₂.encrypt (d₃.decrypt b)) }

end CardLink
