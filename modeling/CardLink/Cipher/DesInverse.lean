import CardLink.Cipher.Des

/-!
# Decryption inverts DES and triple DES

The two outer permutations undo each other. A Feistel round leaves one half as it is, so whatever
the round function adds to the other half can be added a second time and cancels; running the rounds
with the keys reversed, on halves that have changed places, therefore leads back to the beginning.
-/

namespace CardLink

namespace Des

/-! ## Bits and bytes -/

theorem ofNat_value_bitsOfByte (b : UInt8) : UInt8.ofNat (value (bitsOfByte b)) = b := by
  have h : ∀ n : Fin 256, value (bitsOfByte (UInt8.ofNat n)) = n.val := by decide +kernel
  have hb : value (bitsOfByte b) = b.toNat := by simpa using h ⟨b.toNat, b.toNat_lt⟩
  rw [hb, UInt8.ofNat_toNat]

theorem bitsOfByte_value {bits : Bits} (h : bits.length = 8) :
    bitsOfByte (UInt8.ofNat (value bits)) = bits := by
  have hall : ∀ b₇ b₆ b₅ b₄ b₃ b₂ b₁ b₀ : Bool,
      bitsOfByte (UInt8.ofNat (value [b₇, b₆, b₅, b₄, b₃, b₂, b₁, b₀])) =
        [b₇, b₆, b₅, b₄, b₃, b₂, b₁, b₀] := by decide +kernel
  match bits, h with
  | [b₇, b₆, b₅, b₄, b₃, b₂, b₁, b₀], _ => exact hall b₇ b₆ b₅ b₄ b₃ b₂ b₁ b₀

@[simp] theorem length_bitsOfBytes (bs : Bytes) : (bitsOfBytes bs).length = 8 * bs.length := by
  induction bs with
  | nil => rfl
  | cons b bs ih =>
    rw [bitsOfBytes, List.flatMap_cons, List.length_append]
    rw [bitsOfBytes] at ih
    simp [ih, bitsOfByte, Nat.mul_succ, Nat.add_comm]

theorem bytesOfBits_bitsOfBytes (bs : Bytes) : bytesOfBits bs.length (bitsOfBytes bs) = bs := by
  induction bs with
  | nil => rfl
  | cons b bs ih =>
    have hlen : (bitsOfByte b).length = 8 := rfl
    have htake : (bitsOfBytes (b :: bs)).take 8 = bitsOfByte b := List.take_left' hlen
    have hdrop : (bitsOfBytes (b :: bs)).drop 8 = bitsOfBytes bs := List.drop_left' hlen
    rw [List.length_cons, bytesOfBits, htake, hdrop, ih, ofNat_value_bitsOfByte]

theorem bitsOfBytes_bytesOfBits {n : Nat} {bits : Bits} (h : bits.length = 8 * n) :
    bitsOfBytes (bytesOfBits n bits) = bits := by
  induction n generalizing bits with
  | zero => exact (List.eq_nil_of_length_eq_zero h).symm
  | succ n ih =>
    have hrest : bitsOfBytes (bytesOfBits n (bits.drop 8)) = bits.drop 8 := ih (by simp; omega)
    have hbyte : bitsOfByte (UInt8.ofNat (value (bits.take 8))) = bits.take 8 :=
      bitsOfByte_value (by simp; omega)
    rw [bytesOfBits, bitsOfBytes, List.flatMap_cons, hbyte, ← bitsOfBytes, hrest,
      List.take_append_drop]

/-! ## Permutations -/

/-- One table after another picks what the composed table picks. -/
theorem permute_permute {outer inner : List Nat} (h : ∀ i ∈ outer, i - 1 < inner.length)
    (bits : Bits) :
    permute outer (permute inner bits) =
      permute (outer.map fun i => inner.getD (i - 1) 0) bits := by
  simp only [permute, List.map_map]
  refine List.map_congr_left fun i hi => ?_
  simp [List.getD_eq_getElem?_getD, h i hi]

/-- The table that names every bit once and in order changes nothing. -/
theorem permute_range' {n : Nat} {bits : Bits} (h : bits.length = n) :
    permute (List.range' 1 n) bits = bits := by
  apply List.ext_getElem (by simp [h])
  intro i hi hi'
  simp [permute, List.getD_eq_getElem?_getD, hi']

theorem final_initial {bits : Bits} (h : bits.length = 64) :
    permute finalPermutation (permute initialPermutation bits) = bits := by
  have hrange : ∀ i ∈ finalPermutation, i - 1 < initialPermutation.length := by decide
  have hcomp : (finalPermutation.map fun i => initialPermutation.getD (i - 1) 0) =
      List.range' 1 64 := by decide
  rw [permute_permute hrange, hcomp, permute_range' h]

theorem initial_final {bits : Bits} (h : bits.length = 64) :
    permute initialPermutation (permute finalPermutation bits) = bits := by
  have hrange : ∀ i ∈ initialPermutation, i - 1 < finalPermutation.length := by decide
  have hcomp : (initialPermutation.map fun i => finalPermutation.getD (i - 1) 0) =
      List.range' 1 64 := by decide
  rw [permute_permute hrange, hcomp, permute_range' h]

/-! ## Feistel rounds -/

@[simp] theorem length_xorBits (a b : Bits) : (xorBits a b).length = min a.length b.length :=
  List.length_zipWith

theorem xorBits_xorBits {a b : Bits} (h : a.length = b.length) : xorBits (xorBits a b) b = a := by
  apply List.ext_getElem (by simp [h])
  intro i hi hi'
  simp [xorBits]

theorem rounds_append (ks ks' : List Bits) (halves : Bits × Bits) :
    rounds (ks ++ ks') halves = rounds ks' (rounds ks halves) := by
  induction ks generalizing halves with
  | nil => rfl
  | cons k ks ih => exact ih _

theorem length_rounds (ks : List Bits) {left right : Bits} (hleft : left.length = 32)
    (hright : right.length = 32) :
    (rounds ks (left, right)).1.length = 32 ∧ (rounds ks (left, right)).2.length = 32 := by
  induction ks generalizing left right with
  | nil => exact ⟨hleft, hright⟩
  | cons k ks ih => exact ih hright (by simp [hleft])

/-- Rounds are undone by the same rounds under the reversed keys, with the halves exchanged before
and after. -/
theorem rounds_reverse_swap (ks : List Bits) {left right : Bits} (hleft : left.length = 32)
    (hright : right.length = 32) :
    rounds ks.reverse (rounds ks (left, right)).swap = (right, left) := by
  induction ks generalizing left right with
  | nil => rfl
  | cons k ks ih =>
    have hback : xorBits (xorBits left (mangle k right)) (mangle k right) = left :=
      xorBits_xorBits (by simpa using hleft)
    have hfirst : rounds (k :: ks) (left, right) =
        rounds ks (right, xorBits left (mangle k right)) := rfl
    have hrest : rounds ks.reverse (rounds ks (right, xorBits left (mangle k right))).swap =
        (xorBits left (mangle k right), right) := ih hright (by simp [hleft])
    rw [List.reverse_cons, rounds_append, hfirst, hrest]
    simp only [rounds, hback]

/-! ## The cipher -/

/-- The cipher under the reversed keys undoes the cipher. -/
theorem crypt_reverse_crypt (ks : List Bits) {bits : Bits} (h : bits.length = 64) :
    crypt ks.reverse (crypt ks bits) = bits := by
  have hlen : (permute initialPermutation bits).length = 64 := length_permute _ _
  have hleft : ((permute initialPermutation bits).take 32).length = 32 := by simp [hlen]
  have hright : ((permute initialPermutation bits).drop 32).length = 32 := by simp [hlen]
  obtain ⟨h₁, h₂⟩ := length_rounds ks hleft hright
  have hundo := rounds_reverse_swap ks hleft hright
  rw [crypt, crypt]
  generalize rounds ks ((permute initialPermutation bits).take 32,
    (permute initialPermutation bits).drop 32) = halves at h₁ h₂ hundo ⊢
  obtain ⟨left, right⟩ := halves
  rw [Prod.swap_prod_mk] at hundo
  rw [initial_final (by simp [h₁, h₂]), List.take_left' h₂, List.drop_left' h₂, hundo,
    List.take_append_drop]
  exact final_initial h

theorem length_crypt (ks : List Bits) (bits : Bits) : (crypt ks bits).length = 64 :=
  length_permute _ _

theorem cryptBlock_reverse_cryptBlock (ks : List Bits) (b : Octets 8) :
    cryptBlock ks.reverse (cryptBlock ks b) = b := by
  apply Octets.ext_toList
  have hbits : (bitsOfBytes b.toList).length = 64 := by simp
  have hback := bytesOfBits_bitsOfBytes b.toList
  rw [b.length_toList] at hback
  simp only [cryptBlock]
  rw [bitsOfBytes_bytesOfBits (length_crypt _ _), crypt_reverse_crypt ks hbits, hback]

end Des

/-- Under every key DES can be undone, in both orders. -/
theorem des_invertible (key : Octets 8) : (des key).Invertible where
  decrypt_encrypt b := Des.cryptBlock_reverse_cryptBlock (Des.roundKeys key) b
  encrypt_decrypt b := by
    simpa [des] using Des.cryptBlock_reverse_cryptBlock (Des.roundKeys key).reverse b

/-- Triple DES can be undone whenever DES can. -/
theorem tripleDes_invertible (k₁ k₂ k₃ : Octets 8) : (tripleDes k₁ k₂ k₃).Invertible where
  decrypt_encrypt b := by
    simp [tripleDes, (des_invertible _).decrypt_encrypt, (des_invertible _).encrypt_decrypt]
  encrypt_decrypt b := by
    simp [tripleDes, (des_invertible _).decrypt_encrypt, (des_invertible _).encrypt_decrypt]

end CardLink
