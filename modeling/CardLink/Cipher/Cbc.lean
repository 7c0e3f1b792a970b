import CardLink.Cipher.Block
import CardLink.Error

/-!
# Cipher block chaining

Each block is combined with the ciphertext of the block before it, the first one with the
initialisation vector. There is no padding: a string that is not a whole number of blocks is
refused.
-/

namespace CardLink.Cbc

variable {n : Nat}

/-! ## On blocks -/

/-- Chained encryption of a list of blocks. -/
def encryptBlocks (c : BlockCipher n) : Octets n → List (Octets n) → List (Octets n)
  | _, [] => []
  | iv, b :: bs =>
    let y := c.encrypt (b.xor iv)
    y :: encryptBlocks c y bs

/-- Chained decryption of a list of blocks. -/
def decryptBlocks (c : BlockCipher n) : Octets n → List (Octets n) → List (Octets n)
  | _, [] => []
  | iv, y :: ys => (c.decrypt y).xor iv :: decryptBlocks c y ys

@[simp] theorem length_encryptBlocks (c : BlockCipher n) (iv : Octets n) (bs : List (Octets n)) :
    (encryptBlocks c iv bs).length = bs.length := by
  induction bs generalizing iv with
  | nil => rfl
  | cons b bs ih => simp [encryptBlocks, ih]

@[simp] theorem length_decryptBlocks (c : BlockCipher n) (iv : Octets n) (bs : List (Octets n)) :
    (decryptBlocks c iv bs).length = bs.length := by
  induction bs generalizing iv with
  | nil => rfl
  | cons b bs ih => simp [decryptBlocks, ih]

theorem decryptBlocks_encryptBlocks {c : BlockCipher n} (hc : c.Invertible) (iv : Octets n)
    (bs : List (Octets n)) : decryptBlocks c iv (encryptBlocks c iv bs) = bs := by
  induction bs generalizing iv with
  | nil => rfl
  | cons b bs ih => simp [encryptBlocks, decryptBlocks, hc.decrypt_encrypt, ih]

theorem encryptBlocks_decryptBlocks {c : BlockCipher n} (hc : c.Invertible) (iv : Octets n)
    (ys : List (Octets n)) : encryptBlocks c iv (decryptBlocks c iv ys) = ys := by
  induction ys generalizing iv with
  | nil => rfl
  | cons y ys ih => simp [encryptBlocks, decryptBlocks, hc.encrypt_decrypt, ih]

/-! ## On byte strings -/

/-- The least multiple of `n` that is not below a length. -/
def nextMultiple (n len : Nat) : Nat := (len + n - 1) / n * n

/-- Refuses a length that is not a whole number of blocks. -/
def checkAligned (n : Nat) (what : Measured) (data : Bytes) : Except Error Unit :=
  if data.length % n = 0 then .ok ()
  else .error (.wrongLength what (nextMultiple n data.length) data.length)

/-- The blocks of an aligned string. -/
def blocksOf (n : Nat) (data : Bytes) : List (Octets n) :=
  Octets.blocks n (data.length / n) data

/-- Chained encryption of an aligned string. -/
def encrypt (c : BlockCipher n) (iv : Octets n) (data : Bytes) : Except Error Bytes := do
  checkAligned n .cipherInput data
  return Octets.join (encryptBlocks c iv (blocksOf n data))

/-- Chained decryption of an aligned string. -/
def decrypt (c : BlockCipher n) (iv : Octets n) (data : Bytes) : Except Error Bytes := do
  checkAligned n .cipherInput data
  return Octets.join (decryptBlocks c iv (blocksOf n data))

theorem join_blocksOf {data : Bytes} (h : data.length % n = 0) :
    Octets.join (blocksOf n data) = data :=
  Octets.join_blocks (Nat.mul_div_cancel' (Nat.dvd_of_mod_eq_zero h)).symm

theorem length_blocksOf (n : Nat) (data : Bytes) :
    (blocksOf n data).length = data.length / n := by
  unfold blocksOf
  generalize data.length / n = count
  induction count generalizing data with
  | zero => rfl
  | succ count ih => simp [Octets.blocks, ih]

theorem encrypt_of_aligned (c : BlockCipher n) (iv : Octets n) {data : Bytes}
    (h : data.length % n = 0) :
    encrypt c iv data = .ok (Octets.join (encryptBlocks c iv (blocksOf n data))) := by
  rw [encrypt, checkAligned, if_pos h]
  rfl

theorem decrypt_of_aligned (c : BlockCipher n) (iv : Octets n) {data : Bytes}
    (h : data.length % n = 0) :
    decrypt c iv data = .ok (Octets.join (decryptBlocks c iv (blocksOf n data))) := by
  rw [decrypt, checkAligned, if_pos h]
  rfl

theorem encrypt_of_unaligned (c : BlockCipher n) (iv : Octets n) {data : Bytes}
    (h : data.length % n ≠ 0) : encrypt c iv data =
      .error (.wrongLength .cipherInput (nextMultiple n data.length) data.length) := by
  rw [encrypt, checkAligned, if_neg h]
  rfl

theorem encrypt_ok {c : BlockCipher n} {iv : Octets n} {data out : Bytes}
    (h : encrypt c iv data = .ok out) :
    data.length % n = 0 ∧ out = Octets.join (encryptBlocks c iv (blocksOf n data)) := by
  by_cases haligned : data.length % n = 0
  · rw [encrypt_of_aligned c iv haligned] at h
    cases h
    exact ⟨haligned, rfl⟩
  · rw [encrypt_of_unaligned c iv haligned] at h
    cases h

theorem decrypt_of_unaligned (c : BlockCipher n) (iv : Octets n) {data : Bytes}
    (h : data.length % n ≠ 0) : decrypt c iv data =
      .error (.wrongLength .cipherInput (nextMultiple n data.length) data.length) := by
  rw [decrypt, checkAligned, if_neg h]
  rfl

theorem decrypt_ok {c : BlockCipher n} {iv : Octets n} {data out : Bytes}
    (h : decrypt c iv data = .ok out) :
    data.length % n = 0 ∧ out = Octets.join (decryptBlocks c iv (blocksOf n data)) := by
  by_cases haligned : data.length % n = 0
  · rw [decrypt_of_aligned c iv haligned] at h
    cases h
    exact ⟨haligned, rfl⟩
  · rw [decrypt_of_unaligned c iv haligned] at h
    cases h

theorem length_encrypt {c : BlockCipher n} {iv : Octets n} {data out : Bytes}
    (h : encrypt c iv data = .ok out) : out.length = data.length := by
  obtain ⟨haligned, rfl⟩ := encrypt_ok h
  rw [Octets.length_join, length_encryptBlocks, length_blocksOf]
  exact Nat.mul_div_cancel' (Nat.dvd_of_mod_eq_zero haligned)

theorem length_decrypt {c : BlockCipher n} {iv : Octets n} {data out : Bytes}
    (h : decrypt c iv data = .ok out) : out.length = data.length := by
  obtain ⟨haligned, rfl⟩ := decrypt_ok h
  rw [Octets.length_join, length_decryptBlocks, length_blocksOf]
  exact Nat.mul_div_cancel' (Nat.dvd_of_mod_eq_zero haligned)

theorem blocksOf_join {ys : List (Octets n)} {len : Nat} (hlen : (Octets.join ys).length = len)
    (hys : ys.length = len / n) : blocksOf n (Octets.join ys) = ys := by
  rw [blocksOf, hlen, ← hys]
  exact Octets.blocks_join ys

/-- What was encrypted can be decrypted. -/
theorem decrypt_encrypt {c : BlockCipher n} (hc : c.Invertible) {iv : Octets n} {data out : Bytes}
    (h : encrypt c iv data = .ok out) : decrypt c iv out = .ok data := by
  have hlength := length_encrypt h
  obtain ⟨haligned, rfl⟩ := encrypt_ok h
  have hblocks := blocksOf_join hlength (by rw [length_encryptBlocks, length_blocksOf])
  rw [decrypt_of_aligned c iv (by rw [hlength, haligned]), hblocks, decryptBlocks_encryptBlocks hc,
    join_blocksOf haligned]

/-- What was decrypted can be encrypted again. -/
theorem encrypt_decrypt {c : BlockCipher n} (hc : c.Invertible) {iv : Octets n} {data out : Bytes}
    (h : decrypt c iv data = .ok out) : encrypt c iv out = .ok data := by
  have hlength := length_decrypt h
  obtain ⟨haligned, rfl⟩ := decrypt_ok h
  have hblocks := blocksOf_join hlength (by rw [length_decryptBlocks, length_blocksOf])
  rw [encrypt_of_aligned c iv (by rw [hlength, haligned]), hblocks, encryptBlocks_decryptBlocks hc,
    join_blocksOf haligned]

theorem encrypt_eq_ok_iff {c : BlockCipher n} (hc : c.Invertible) {iv : Octets n}
    {data out : Bytes} : encrypt c iv data = .ok out ↔ decrypt c iv out = .ok data :=
  ⟨decrypt_encrypt hc, encrypt_decrypt hc⟩

end CardLink.Cbc
