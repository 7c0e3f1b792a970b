/-!
# Byte strings

Frames, keys and nonces are lists of bytes. This module holds the operations the protocol makes on
them: bytewise exclusive or, rotation by one byte, little-endian numbers and a comparison that
always reads both strings to the end.
-/

namespace CardLink

/-- A byte string of any length. -/
abbrev Bytes := List UInt8

namespace Bytes

/-- `n` zero bytes. -/
def zeros (n : Nat) : Bytes := List.replicate n 0

@[simp] theorem length_zeros (n : Nat) : (zeros n).length = n := List.length_replicate

/-! ## Exclusive or -/

/-- Bytewise exclusive or, as long as the shorter of the two strings. -/
def xor (a b : Bytes) : Bytes := List.zipWith (fun x y => x ^^^ y) a b

@[simp] theorem length_xor (a b : Bytes) : (xor a b).length = min a.length b.length :=
  List.length_zipWith

/-- Adding a string of the same length a second time takes it away again. -/
theorem xor_xor {a b : Bytes} (h : a.length = b.length) : xor (xor a b) b = a := by
  apply List.ext_getElem (by simp [h])
  intro i hi hi'
  simp only [xor, List.getElem_zipWith, UInt8.xor_assoc, UInt8.xor_self, UInt8.xor_zero]

theorem xor_comm (a b : Bytes) : xor a b = xor b a :=
  List.zipWith_comm_of_comm UInt8.xor_comm

theorem xor_left_inj {a b c : Bytes} (ha : a.length = c.length) (hb : b.length = c.length) :
    xor a c = xor b c ↔ a = b := by
  constructor
  · intro h
    rw [← xor_xor ha, h, xor_xor hb]
  · rintro rfl
    rfl

theorem xor_right_inj {a b c : Bytes} (ha : a.length = c.length) (hb : b.length = c.length) :
    xor c a = xor c b ↔ a = b := by
  rw [xor_comm c a, xor_comm c b, xor_left_inj ha hb]

/-! ## Rotation -/

/-- Rotation to the left: the first byte moves to the end. -/
def rotl : Bytes → Bytes
  | [] => []
  | b :: bs => bs ++ [b]

@[simp] theorem length_rotl (bs : Bytes) : (rotl bs).length = bs.length := by
  cases bs <;> simp [rotl]

/-- Rotation to the right: the last byte moves to the front. -/
def rotr (bs : Bytes) : Bytes := (rotl bs.reverse).reverse

@[simp] theorem length_rotr (bs : Bytes) : (rotr bs).length = bs.length := by
  simp [rotr]

@[simp] theorem rotr_rotl (bs : Bytes) : rotr (rotl bs) = bs := by
  cases bs <;> simp [rotr, rotl]

@[simp] theorem rotl_rotr (bs : Bytes) : rotl (rotr bs) = bs := by
  have h := congrArg List.reverse (rotr_rotl bs.reverse)
  simpa [rotr] using h

/-! ## Little-endian numbers -/

/-- The `n` low bytes of a number, least significant first. -/
def little : Nat → Nat → Bytes
  | 0, _ => []
  | n + 1, v => UInt8.ofNat v :: little n (v / 256)

@[simp] theorem length_little (n v : Nat) : (little n v).length = n := by
  induction n generalizing v with
  | zero => rfl
  | succ n ih => simp [little, ih]

/-- The number whose bytes, least significant first, are the given ones. -/
def ofLittle : Bytes → Nat
  | [] => 0
  | b :: bs => b.toNat + 256 * ofLittle bs

theorem ofLittle_little (n v : Nat) : ofLittle (little n v) = v % Nat.pow 256 n := by
  induction n generalizing v with
  | zero => simp [little, ofLittle, Nat.mod_one]
  | succ n ih =>
    have hb : (UInt8.ofNat v).toNat = v % 256 := UInt8.toNat_ofNat'
    have hpow : Nat.pow 256 (n + 1) = 256 * Nat.pow 256 n := Nat.pow_succ'
    rw [little, ofLittle, ih, hb, hpow, Nat.mod_mul]

/-! ## Comparison -/

/-- Equality decided without an early exit: the differences of all pairs of bytes are collected
before the verdict. -/
def sameAs (a b : Bytes) : Bool :=
  a.length == b.length && (xor a b).foldl (fun acc d => acc ||| d) 0 == 0

theorem foldl_or_eq_zero (ds : Bytes) (acc : UInt8) :
    ds.foldl (fun acc d => acc ||| d) acc = 0 ↔ acc = 0 ∧ ∀ d ∈ ds, d = 0 := by
  induction ds generalizing acc with
  | nil => simp
  | cons d ds ih =>
    rw [List.foldl_cons, ih, UInt8.or_eq_zero_iff]
    simp [and_assoc]

/-- All pairs of bytes are equal exactly if one string continues the other. -/
theorem xor_eq_zero_iff_prefix {a b : Bytes} : (∀ d ∈ xor a b, d = 0) ↔ a <+: b ∨ b <+: a := by
  induction a generalizing b with
  | nil => exact iff_of_true nofun (Or.inl List.nil_prefix)
  | cons x a ih =>
    cases b with
    | nil => exact iff_of_true nofun (Or.inr List.nil_prefix)
    | cons y b =>
      rw [xor, List.zipWith_cons_cons, List.forall_mem_cons, ← xor, ih, UInt8.xor_eq_zero_iff,
        List.cons_prefix_cons, List.cons_prefix_cons, eq_comm (a := y), and_or_left]

theorem sameAs_iff {a b : Bytes} : sameAs a b = true ↔ a = b := by
  unfold sameAs
  rw [Bool.and_eq_true, beq_iff_eq, beq_iff_eq, foldl_or_eq_zero, xor_eq_zero_iff_prefix]
  constructor
  · rintro ⟨hlength, -, hab | hba⟩
    · exact hab.eq_of_length hlength
    · exact (hba.eq_of_length hlength.symm).symm
  · rintro rfl
    exact ⟨rfl, rfl, Or.inl (List.prefix_refl a)⟩

end Bytes

end CardLink
