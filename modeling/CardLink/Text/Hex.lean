import CardLink.Octets

/-!
# Hexadecimal text

Bytes are shown as pairs of hexadecimal digits. Reading accepts digits of either case, two for each
byte, and nothing else.
-/

namespace CardLink.Hex

/-- The sixteen lower-case digits. -/
def lowerDigits : List Char :=
  ['0', '1', '2', '3', '4', '5', '6', '7', '8', '9', 'a', 'b', 'c', 'd', 'e', 'f']

/-- The sixteen upper-case digits. -/
def upperDigits : List Char :=
  ['0', '1', '2', '3', '4', '5', '6', '7', '8', '9', 'A', 'B', 'C', 'D', 'E', 'F']

/-- The two digits of one byte. -/
def pair (digits : List Char) (b : UInt8) : List Char :=
  [digits.getD (b.toNat / 16) '0', digits.getD (b.toNat % 16) '0']

/-- Lower-case text of a byte string. -/
def encode (bs : Bytes) : String := String.ofList (bs.flatMap (pair lowerDigits))

/-- Upper-case text of a byte string. -/
def encodeUpper (bs : Bytes) : String := String.ofList (bs.flatMap (pair upperDigits))

/-- The value of one digit. -/
def digit? (c : Char) : Option Nat :=
  match lowerDigits.idxOf? c with
  | some v => some v
  | none => upperDigits.idxOf? c

/-- The bytes written by a list of digits. -/
def readPairs : List Char → Option Bytes
  | [] => some []
  | [_] => none
  | hi :: lo :: rest => do
    let h ← digit? hi
    let l ← digit? lo
    let bs ← readPairs rest
    return UInt8.ofNat (16 * h + l) :: bs

/-- The bytes written by a text. -/
def decode? (s : String) : Option Bytes := readPairs s.toList

/-- Digit values are recovered from the digits. -/
theorem digit?_lower : ∀ v < 16, digit? (lowerDigits.getD v '0') = some v := by decide

theorem readPairs_flatMap_pair (bs : Bytes) :
    readPairs (bs.flatMap (pair lowerDigits)) = some bs := by
  induction bs with
  | nil => rfl
  | cons b bs ih =>
    have hb : b.toNat < 256 := b.toNat_lt
    have hsum : UInt8.ofNat (16 * (b.toNat / 16) + b.toNat % 16) = b := by
      rw [Nat.div_add_mod, UInt8.ofNat_toNat]
    simp only [List.flatMap_cons, pair, List.cons_append, List.nil_append, readPairs, ih,
      digit?_lower _ (show b.toNat / 16 < 16 by omega),
      digit?_lower _ (show b.toNat % 16 < 16 by omega), Option.bind_eq_bind, Option.bind_some, hsum]
    rfl

/-- Reading undoes writing. -/
theorem decode?_encode (bs : Bytes) : decode? (encode bs) = some bs := by
  simp [decode?, encode, readPairs_flatMap_pair]

end CardLink.Hex
