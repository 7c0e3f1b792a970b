import CardLink.Proofs.LegacyAuthentication
import Mathlib.Data.Nat.ModEq

/-!
# Cipher block chaining in place

A buffer is encrypted or decrypted where it lies. A loop goes over it from the front, puts another
block in the place of each and carries a chaining value on to the next. Whatever the loop has
written lies before the block it reads, so no block is read that was already replaced.

1. What a loop leaves is what its steps make of the blocks in order (`loop_join`). For the two loops
   that is the result of `encrypt` and of `decrypt` (`encryptInPlace_run`, `decryptInPlace_run`).
2. A chain can be cut between any two blocks, and the second part goes on from the last ciphertext
   block of the first (`encryptBlocks_append`, `decryptBlocks_append`).
3. So the loops undo each other, can be run part by part and refuse a broken block before they
   write anything (`BufferLaws`), under AES and under triple DES.
-/

namespace CardLink.Cbc

variable {n : Nat}

/-! ## Loops over a buffer -/

/-- A step of a loop: from the chaining value and a block, what takes the place of the block and the
next chaining value. -/
abbrev Step (n : Nat) := Octets n → Octets n → Octets n × Octets n

/-- Encryption chains what it has written. -/
def encryptStep (c : BlockCipher n) : Step n := fun chain b =>
  let y := c.encrypt (b.xor chain)
  (y, y)

/-- Decryption chains what it has read. -/
def decryptStep (c : BlockCipher n) : Step n := fun chain y => ((c.decrypt y).xor chain, y)

/-- Replaces `count` blocks of a buffer, the first one at `offset`. -/
def loop (step : Step n) : Nat → Nat → Octets n → Bytes → Bytes
  | 0, _, _, buffer => buffer
  | count + 1, offset, chain, buffer =>
    let r := step chain (Octets.fit n (buffer.drop offset))
    loop step count (offset + n) r.2
      (buffer.take offset ++ r.1.toList ++ buffer.drop (offset + n))

/-- Runs a loop over a whole buffer, once its length has been checked. -/
def inPlace (step : Step n) (iv : Octets n) : EStateM Error Bytes Unit := do
  let buffer ← get
  MonadExcept.ofExcept (checkAligned n .cipherInput buffer)
  set (loop step (buffer.length / n) 0 iv buffer)

/-- Encrypts a buffer in place. -/
def encryptInPlace (c : BlockCipher n) : Octets n → EStateM Error Bytes Unit :=
  inPlace (encryptStep c)

/-- Decrypts a buffer in place. -/
def decryptInPlace (c : BlockCipher n) : Octets n → EStateM Error Bytes Unit :=
  inPlace (decryptStep c)

/-! ## What a loop leaves -/

/-- What the steps make of a list of blocks. -/
def stepBlocks (step : Step n) : Octets n → List (Octets n) → List (Octets n)
  | _, [] => []
  | chain, b :: bs => (step chain b).1 :: stepBlocks step (step chain b).2 bs

theorem stepBlocks_encryptStep (c : BlockCipher n) (iv : Octets n) (bs : List (Octets n)) :
    stepBlocks (encryptStep c) iv bs = encryptBlocks c iv bs := by
  induction bs generalizing iv with
  | nil => rfl
  | cons b bs ih => exact congrArg _ (ih _)

theorem stepBlocks_decryptStep (c : BlockCipher n) (iv : Octets n) (ys : List (Octets n)) :
    stepBlocks (decryptStep c) iv ys = decryptBlocks c iv ys := by
  induction ys generalizing iv with
  | nil => rfl
  | cons y ys ih => exact congrArg _ (ih y)

/-- The invariant of a loop: `front` is done, and the blocks behind it are as they were. -/
theorem loop_join (step : Step n) (front : Bytes) (chain : Octets n) (bs : List (Octets n)) :
    loop step bs.length front.length chain (front ++ Octets.join bs) =
      front ++ Octets.join (stepBlocks step chain bs) := by
  induction bs generalizing front chain with
  | nil => rfl
  | cons b bs ih =>
    have hread : Octets.fit n ((front ++ Octets.join (b :: bs)).drop front.length) = b := by
      rw [List.drop_left, Octets.join, Octets.fit_append]
    have hrest : (front ++ Octets.join (b :: bs)).drop (front.length + n) = Octets.join bs := by
      rw [Octets.join, ← List.append_assoc]
      exact List.drop_left' (by rw [List.length_append, b.length_toList])
    have hfront : (front ++ (step chain b).1.toList).length = front.length + n := by
      rw [List.length_append, Octets.length_toList]
    -- The block that was written joins the front, and the loop goes on behind it.
    rw [List.length_cons, loop, hread, List.take_left, hrest, ← hfront, ih, stepBlocks, Octets.join,
      List.append_assoc]

/-- What a call leaves in its buffer: its result, or the buffer as it was. -/
def leaves (buffer : Bytes) : Except Error Bytes → EStateM.Result Error Bytes Unit
  | .ok out => .ok () out
  | .error e => .error e buffer

theorem inPlace_run (step : Step n) (iv : Octets n) (buffer : Bytes) :
    (inPlace step iv).run buffer = leaves buffer (checkAligned n .cipherInput buffer >>= fun _ =>
      .ok (Octets.join (stepBlocks step iv (blocksOf n buffer)))) := by
  have hrun : (inPlace step iv).run buffer =
      leaves buffer (checkAligned n .cipherInput buffer >>= fun _ =>
        .ok (loop step (buffer.length / n) 0 iv buffer)) := by
    simp only [inPlace, EStateM.run_bind, EStateM.run_get]
    cases checkAligned n .cipherInput buffer <;> rfl
  by_cases haligned : buffer.length % n = 0
  · have hloop := loop_join step [] iv (blocksOf n buffer)
    simp only [List.nil_append, List.length_nil, length_blocksOf, join_blocksOf haligned] at hloop
    rw [hrun, hloop]
  · rw [hrun, checkAligned, if_neg haligned]
    rfl

theorem encryptInPlace_run (c : BlockCipher n) (iv : Octets n) (buffer : Bytes) :
    (encryptInPlace c iv).run buffer = leaves buffer (encrypt c iv buffer) := by
  rw [encryptInPlace, inPlace_run, stepBlocks_encryptStep]
  rfl

theorem decryptInPlace_run (c : BlockCipher n) (iv : Octets n) (buffer : Bytes) :
    (decryptInPlace c iv).run buffer = leaves buffer (decrypt c iv buffer) := by
  rw [decryptInPlace, inPlace_run, stepBlocks_decryptStep]
  rfl

/-! ## Cutting a chain -/

theorem encryptBlocks_append (c : BlockCipher n) (iv : Octets n) (as bs : List (Octets n)) :
    encryptBlocks c iv (as ++ bs) =
      encryptBlocks c iv as ++ encryptBlocks c ((encryptBlocks c iv as).getLastD iv) bs := by
  induction as generalizing iv with
  | nil => rfl
  | cons a as ih =>
    simp only [List.cons_append, encryptBlocks, ih, List.getLastD_cons]

theorem decryptBlocks_append (c : BlockCipher n) (iv : Octets n) (xs ys : List (Octets n)) :
    decryptBlocks c iv (xs ++ ys) =
      decryptBlocks c iv xs ++ decryptBlocks c (xs.getLastD iv) ys := by
  induction xs generalizing iv with
  | nil => rfl
  | cons x xs ih =>
    simp only [List.cons_append, decryptBlocks, ih, List.getLastD_cons]

theorem aligned_append {a b : Bytes} (ha : a.length % n = 0) (hb : b.length % n = 0) :
    (a ++ b).length % n = 0 := by
  rw [List.length_append, Nat.add_mod, ha, hb, Nat.zero_mod]

theorem blocksOf_append {a b : Bytes} (ha : a.length % n = 0) (hb : b.length % n = 0) :
    blocksOf n (a ++ b) = blocksOf n a ++ blocksOf n b := by
  have hjoin : Octets.join (blocksOf n a ++ blocksOf n b) = a ++ b := by
    rw [Octets.join_append, join_blocksOf ha, join_blocksOf hb]
  have hcount : (blocksOf n a ++ blocksOf n b).length = (a ++ b).length / n := by
    rw [List.length_append, length_blocksOf, length_blocksOf, List.length_append,
      Nat.add_div_of_dvd_right (Nat.dvd_of_mod_eq_zero ha)]
  rw [← hjoin, blocksOf_join (congrArg _ hjoin) hcount]

/-- The last block of a string. -/
def lastBlock (n : Nat) (bs : Bytes) : Octets n := Octets.fit n (bs.drop (bs.length - n))

theorem lastBlock_join {bs : List (Octets n)} (hne : bs ≠ []) (iv : Octets n) :
    lastBlock n (Octets.join bs) = bs.getLastD iv := by
  obtain ⟨front, last, rfl⟩ := (List.eq_nil_or_concat' bs).resolve_left hne
  have hlast : Octets.join [last] = last.toList := List.append_nil _
  have hdrop : (Octets.join front ++ last.toList).length - n = (Octets.join front).length := by
    rw [List.length_append, last.length_toList, Nat.add_sub_cancel]
  rw [lastBlock, Octets.join_append, hlast, hdrop, List.drop_left, Octets.fit_toList,
    List.getLastD_concat]

theorem blocksOf_ne_nil {a : Bytes} (h : a.length % n = 0) (hne : a ≠ []) : blocksOf n a ≠ [] := by
  intro hnil
  have hjoin := join_blocksOf h
  rw [hnil] at hjoin
  exact hne hjoin.symm

section

variable (c : BlockCipher n) (iv : Octets n) {a b : Bytes}

/-- What follows a part is encrypted from the last ciphertext block of the part. -/
theorem encrypt_append (ha : a.length % n = 0) (hb : b.length % n = 0) (hne : a ≠ []) :
    ∃ x y, encrypt c iv a = .ok x ∧ encrypt c (lastBlock n x) b = .ok y ∧
      encrypt c iv (a ++ b) = .ok (x ++ y) := by
  -- There is a block to go on from, so the vector `iv` is forgotten.
  have hsealed : encryptBlocks c iv (blocksOf n a) ≠ [] := by
    rw [← List.length_pos_iff, length_encryptBlocks, List.length_pos_iff]
    exact blocksOf_ne_nil ha hne
  refine ⟨_, _, encrypt_of_aligned c iv ha, encrypt_of_aligned c _ hb, ?_⟩
  rw [encrypt_of_aligned c iv (aligned_append ha hb), blocksOf_append ha hb, encryptBlocks_append,
    Octets.join_append, lastBlock_join hsealed iv]

/-- What follows a part is decrypted from the last block of the part. -/
theorem decrypt_append (ha : a.length % n = 0) (hb : b.length % n = 0) (hne : a ≠ []) :
    ∃ x y, decrypt c iv a = .ok x ∧ decrypt c (lastBlock n a) b = .ok y ∧
      decrypt c iv (a ++ b) = .ok (x ++ y) := by
  have hlast := lastBlock_join (blocksOf_ne_nil ha hne) iv
  rw [join_blocksOf ha] at hlast
  refine ⟨_, _, decrypt_of_aligned c iv ha, decrypt_of_aligned c _ hb, ?_⟩
  rw [decrypt_of_aligned c iv (aligned_append ha hb), blocksOf_append ha hb, decryptBlocks_append,
    Octets.join_append, hlast]

end

/-! ## The laws -/

/-- How the loops of a cipher treat the buffers they are given. -/
structure BufferLaws (c : BlockCipher n) : Prop where
  /-- The loops leave what `encrypt` and `decrypt` return. -/
  encrypt_leaves : ∀ iv buffer,
    (encryptInPlace c iv).run buffer = leaves buffer (encrypt c iv buffer)
  decrypt_leaves : ∀ iv buffer,
    (decryptInPlace c iv).run buffer = leaves buffer (decrypt c iv buffer)
  /-- The first block is combined with the initialisation vector. -/
  encrypt_block : ∀ iv (b : Octets n),
    (encryptInPlace c iv).run b.toList = .ok () (c.encrypt (b.xor iv)).toList
  decrypt_block : ∀ iv (y : Octets n),
    (decryptInPlace c iv).run y.toList = .ok () ((c.decrypt y).xor iv).toList
  /-- Whole blocks are encrypted to as many, and come back by decryption. -/
  encrypt_decrypt : ∀ iv buffer, buffer.length % n = 0 → ∃ out,
    (encryptInPlace c iv).run buffer = .ok () out ∧ out.length = buffer.length ∧
      (do encryptInPlace c iv; decryptInPlace c iv).run buffer = .ok () buffer
  /-- Whole blocks are decrypted to as many, and come back by encryption. -/
  decrypt_encrypt : ∀ iv buffer, buffer.length % n = 0 → ∃ out,
    (decryptInPlace c iv).run buffer = .ok () out ∧ out.length = buffer.length ∧
      (do decryptInPlace c iv; encryptInPlace c iv).run buffer = .ok () buffer
  /-- Two strings in one buffer are encrypted as they are one after the other, the second from the
  last ciphertext block of the first. -/
  encrypt_append : ∀ iv a b, a.length % n = 0 → b.length % n = 0 → a ≠ [] → ∃ x y,
    (encryptInPlace c iv).run a = .ok () x ∧
      (encryptInPlace c (lastBlock n x)).run b = .ok () y ∧
      (encryptInPlace c iv).run (a ++ b) = .ok () (x ++ y)
  decrypt_append : ∀ iv a b, a.length % n = 0 → b.length % n = 0 → a ≠ [] → ∃ x y,
    (decryptInPlace c iv).run a = .ok () x ∧
      (decryptInPlace c (lastBlock n a)).run b = .ok () y ∧
      (decryptInPlace c iv).run (a ++ b) = .ok () (x ++ y)
  /-- A length that is no whole number of blocks is refused, and the buffer stays as it was. -/
  unaligned : ∀ iv buffer, buffer.length % n ≠ 0 →
    let refusal : Error := .wrongLength .cipherInput (nextMultiple n buffer.length) buffer.length
    (encryptInPlace c iv).run buffer = .error refusal buffer ∧
      (decryptInPlace c iv).run buffer = .error refusal buffer

section

variable {c : BlockCipher n} {iv : Octets n} {buffer out : Bytes}

theorem run_of_encrypt (h : encrypt c iv buffer = .ok out) :
    (encryptInPlace c iv).run buffer = .ok () out := by
  rw [encryptInPlace_run, h, leaves]

theorem run_of_decrypt (h : decrypt c iv buffer = .ok out) :
    (decryptInPlace c iv).run buffer = .ok () out := by
  rw [decryptInPlace_run, h, leaves]

end

theorem run_seq {f g : EStateM Error Bytes Unit} {buffer mid out : Bytes}
    (hf : f.run buffer = .ok () mid) (hg : g.run mid = .ok () out) :
    (do f; g).run buffer = .ok () out := by
  rw [EStateM.run_bind, hf]
  exact hg

theorem blocksOf_toList (hn : 0 < n) (b : Octets n) : blocksOf n b.toList = [b] := by
  rw [blocksOf, b.length_toList, Nat.div_self hn, Octets.blocks, Octets.fit_toList, Octets.blocks]

theorem bufferLaws {c : BlockCipher n} (hn : 0 < n) (hc : c.Invertible) : BufferLaws c where
  encrypt_leaves := encryptInPlace_run c
  decrypt_leaves := decryptInPlace_run c
  encrypt_block iv b := by
    have haligned : b.toList.length % n = 0 := by rw [b.length_toList, Nat.mod_self]
    rw [run_of_encrypt (encrypt_of_aligned c iv haligned), blocksOf_toList hn]
    exact congrArg _ (List.append_nil _)
  decrypt_block iv y := by
    have haligned : y.toList.length % n = 0 := by rw [y.length_toList, Nat.mod_self]
    rw [run_of_decrypt (decrypt_of_aligned c iv haligned), blocksOf_toList hn]
    exact congrArg _ (List.append_nil _)
  encrypt_decrypt iv buffer haligned := by
    have hencrypt := encrypt_of_aligned c iv haligned
    exact ⟨_, run_of_encrypt hencrypt, length_encrypt hencrypt,
      run_seq (run_of_encrypt hencrypt) (run_of_decrypt (decrypt_encrypt hc hencrypt))⟩
  decrypt_encrypt iv buffer haligned := by
    have hdecrypt := decrypt_of_aligned c iv haligned
    exact ⟨_, run_of_decrypt hdecrypt, length_decrypt hdecrypt,
      run_seq (run_of_decrypt hdecrypt) (run_of_encrypt (encrypt_decrypt hc hdecrypt))⟩
  encrypt_append iv a b ha hb hne := by
    obtain ⟨x, y, hx, hy, hxy⟩ := encrypt_append c iv ha hb hne
    exact ⟨x, y, run_of_encrypt hx, run_of_encrypt hy, run_of_encrypt hxy⟩
  decrypt_append iv a b ha hb hne := by
    obtain ⟨x, y, hx, hy, hxy⟩ := decrypt_append c iv ha hb hne
    exact ⟨x, y, run_of_decrypt hx, run_of_decrypt hy, run_of_decrypt hxy⟩
  unaligned iv buffer h := by
    rw [encryptInPlace_run, decryptInPlace_run, encrypt_of_unaligned c iv h,
      decrypt_of_unaligned c iv h]
    exact ⟨rfl, rfl⟩

/-- **Chaining in place.** Under every AES key and every triple DES key, of two parts or three, the
loops leave in a buffer of whole blocks as many blocks, and each undoes the other. A buffer can be
cut between two blocks and worked on part by part, the second part from the last ciphertext block of
the first, which is how the messages of the older authentication follow each other. A broken block
is refused by both loops, and the buffer stays as it was. -/
theorem chaining_in_place :
    (∀ key : AesKey, BufferLaws (aes key)) ∧ (∀ key : TripleDesKey, BufferLaws key.cipher) ∧
      ∀ bs, Handshake.finalBlock bs = lastBlock 8 bs :=
  ⟨fun key => bufferLaws (by decide) (aes_invertible key),
    fun key => bufferLaws (by decide) key.cipher_invertible, fun _ => rfl⟩

/-- The two halves of a buffer under triple DES, and a buffer under AES with a byte too many. -/
theorem chaining_in_place_halves :
    let key : TripleDesKey := .threeKey (Octets.zero 24)
    let iv : Octets 8 := Octets.zero 8
    (∃ x y, (encryptInPlace key.cipher iv).run [1, 2, 3, 4, 5, 6, 7, 8] = .ok () x ∧
      (encryptInPlace key.cipher (Handshake.finalBlock x)).run (Bytes.zeros 8) = .ok () y ∧
      (encryptInPlace key.cipher iv).run ([1, 2, 3, 4, 5, 6, 7, 8] ++ Bytes.zeros 8) =
        .ok () (x ++ y)) ∧
      (encryptInPlace (aes AesKey.factory) (Octets.zero 16)).run (Bytes.zeros 17) =
        .error (.wrongLength .cipherInput 32 17) (Bytes.zeros 17) := by
  intro key iv
  obtain ⟨haes, hdes, -⟩ := chaining_in_place
  exact ⟨(hdes key).encrypt_append iv [1, 2, 3, 4, 5, 6, 7, 8] (Bytes.zeros 8) (by decide)
      (by decide) (by decide),
    ((haes AesKey.factory).unaligned (Octets.zero 16) (Bytes.zeros 17) (by decide)).1⟩

end CardLink.Cbc
