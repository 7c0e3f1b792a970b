import CardLink.Bytes

/-!
# Byte strings of a fixed length

Keys, nonces, cipher blocks and identifiers have a length that never varies. `Octets n` carries it
in the type, so a function that takes one has nothing to check.
-/

namespace CardLink

/-- A byte string of exactly `n` bytes. -/
structure Octets (n : Nat) where
  toList : Bytes
  length_toList : toList.length = n
  deriving DecidableEq

namespace Octets

attribute [simp] length_toList

theorem ext_toList {n : Nat} {a b : Octets n} (h : a.toList = b.toList) : a = b := by
  cases a; cases b; cases h; rfl

/-- A string of fixed length can be told from what follows it. -/
theorem toList_append_inj {n : Nat} {a b : Octets n} {xs ys : Bytes} :
    a.toList ++ xs = b.toList ++ ys ↔ a = b ∧ xs = ys := by
  constructor
  · intro h
    obtain ⟨hab, hxs⟩ := List.append_inj h (by rw [length_toList, length_toList])
    exact ⟨ext_toList hab, hxs⟩
  · rintro ⟨rfl, rfl⟩
    rfl

/-- Reads a byte string that has the right length. -/
def ofList? (n : Nat) (bs : Bytes) : Option (Octets n) :=
  if h : bs.length = n then some ⟨bs, h⟩ else none

/-- The first `n` bytes of a string, filled up with zero bytes where it is shorter. -/
def fit (n : Nat) (bs : Bytes) : Octets n :=
  let front := bs.take n
  ⟨front ++ Bytes.zeros (n - front.length), by
    have hfront : front.length ≤ n := List.length_take_le n bs
    rw [List.length_append, Bytes.length_zeros]
    omega⟩

theorem toList_fit {n : Nat} {bs : Bytes} (h : n ≤ bs.length) : (fit n bs).toList = bs.take n := by
  have hfront : (bs.take n).length = n := List.length_take_of_le h
  simp [fit, hfront, Bytes.zeros]

@[simp] theorem fit_toList {n : Nat} (a : Octets n) : fit n a.toList = a :=
  ext_toList (by rw [toList_fit (by simp)]; exact List.take_of_length_le (by simp))

@[simp] theorem fit_append {n : Nat} (a : Octets n) (rest : Bytes) : fit n (a.toList ++ rest) = a :=
  ext_toList (by rw [toList_fit (by simp)]; simp)

theorem fit_inj {n : Nat} {xs ys : Bytes} (hx : xs.length = n) (hy : ys.length = n) :
    fit n xs = fit n ys ↔ xs = ys := by
  constructor
  · intro h
    have hlists := congrArg toList h
    rwa [toList_fit (Nat.le_of_eq hx.symm), toList_fit (Nat.le_of_eq hy.symm),
      List.take_of_length_le (Nat.le_of_eq hx), List.take_of_length_le (Nat.le_of_eq hy)] at hlists
  · rintro rfl
    rfl

/-- The string of `n` zero bytes. -/
def zero (n : Nat) : Octets n := ⟨Bytes.zeros n, by simp⟩

/-- Bytewise exclusive or. -/
def xor {n : Nat} (a b : Octets n) : Octets n := ⟨Bytes.xor a.toList b.toList, by simp⟩

@[simp] theorem xor_xor {n : Nat} (a b : Octets n) : (a.xor b).xor b = a :=
  ext_toList (Bytes.xor_xor (by simp))

/-- Rotation to the left by one byte. -/
def rotl {n : Nat} (a : Octets n) : Octets n := ⟨Bytes.rotl a.toList, by simp⟩

/-- Rotation to the right by one byte. -/
def rotr {n : Nat} (a : Octets n) : Octets n := ⟨Bytes.rotr a.toList, by simp⟩

/-- Two strings one after the other. -/
def append {m n : Nat} (a : Octets m) (b : Octets n) : Octets (m + n) :=
  ⟨a.toList ++ b.toList, by simp⟩

/-! ## Blocks of a longer string -/

/-- The first `count` blocks of `n` bytes. -/
def blocks (n : Nat) : Nat → Bytes → List (Octets n)
  | 0, _ => []
  | count + 1, bs => fit n bs :: blocks n count (bs.drop n)

/-- The bytes of a list of blocks, in order. -/
def join {n : Nat} : List (Octets n) → Bytes
  | [] => []
  | b :: bs => b.toList ++ join bs

theorem length_join {n : Nat} (bs : List (Octets n)) : (join bs).length = n * bs.length := by
  induction bs with
  | nil => rfl
  | cons b bs ih => simp [join, ih, Nat.mul_succ, Nat.add_comm]

theorem join_append {n : Nat} (as bs : List (Octets n)) :
    join (as ++ bs) = join as ++ join bs := by
  induction as with
  | nil => rfl
  | cons a as ih => rw [List.cons_append, join, join, ih, List.append_assoc]

theorem join_blocks {n count : Nat} {bs : Bytes} (h : bs.length = n * count) :
    join (blocks n count bs) = bs := by
  induction count generalizing bs with
  | zero =>
    rw [Nat.mul_zero] at h
    rw [List.eq_nil_of_length_eq_zero h]
    rfl
  | succ count ih =>
    rw [Nat.mul_succ] at h
    rw [blocks, join, ih (by simp; omega), toList_fit (by omega), List.take_append_drop]

theorem blocks_join {n : Nat} (bs : List (Octets n)) : blocks n bs.length (join bs) = bs := by
  induction bs with
  | nil => rfl
  | cons b bs ih =>
    have hdrop : (b.toList ++ join bs).drop n = join bs := by
      rw [List.drop_append_of_le_length (by simp)]
      simp
    rw [List.length_cons, join, blocks, fit_append, hdrop, ih]

end Octets

end CardLink
