import CardLink.Cipher.Aes

/-!
# Decryption inverts AES

Each step of a round has an inverse: the substitution because the two tables undo each other, the
mixing because doubling distributes over exclusive or, so that a column multiplied by a polynomial
and then by its inverse is a sum in which everything but the column cancels. Rounds are undone from
the last one on.
-/

namespace CardLink

namespace Aes

/-! ## Blocks and states -/

@[simp] theorem State.ofBlock_toBlock (s : State) : State.ofBlock s.toBlock = s := rfl

theorem Column.write_read {bs : Bytes} {i : Nat} (h : i + 4 ≤ bs.length) :
    (Column.read bs i).write = (bs.drop i).take 4 := by
  rw [List.drop_eq_getElem_cons (by omega), List.drop_eq_getElem_cons (by omega),
    List.drop_eq_getElem_cons (by omega), List.drop_eq_getElem_cons (by omega)]
  simp only [Column.read, Column.write, List.take_succ_cons, List.take_zero,
    List.getD_eq_getElem?_getD, List.getElem?_eq_getElem (show i < bs.length by omega),
    List.getElem?_eq_getElem (show i + 1 < bs.length by omega),
    List.getElem?_eq_getElem (show i + 2 < bs.length by omega),
    List.getElem?_eq_getElem (show i + 3 < bs.length by omega), Option.getD_some]

@[simp] theorem State.toBlock_ofBlock (b : Octets 16) : (State.ofBlock b).toBlock = b := by
  apply Octets.ext_toList
  have hlen : b.toList.length = 16 := b.length_toList
  have h12 : (b.toList.drop 12).take 4 = b.toList.drop 12 := List.take_of_length_le (by simp)
  have hjoin : ∀ i, (b.toList.drop i).take 4 ++ b.toList.drop (i + 4) = b.toList.drop i := by
    intro i
    rw [← List.drop_drop, List.take_append_drop]
  simp only [State.ofBlock, State.toBlock, List.append_assoc]
  rw [Column.write_read (by omega), Column.write_read (by omega), Column.write_read (by omega),
    Column.write_read (by omega), h12, hjoin 8, hjoin 4, hjoin 0, List.drop_zero]

/-! ## Adding a round key -/

theorem xor_xor_cancel (a b : UInt8) : a ^^^ b ^^^ b = a := by
  rw [UInt8.xor_assoc, UInt8.xor_self, UInt8.xor_zero]

@[simp] theorem Column.xor_xor (a b : Column) : (a.xor b).xor b = a := by
  simp only [Column.xor, xor_xor_cancel]

@[simp] theorem State.xor_xor (a b : State) : (a.xor b).xor b = a := by
  simp [State.xor]

/-! ## Substituting bytes -/

theorem substitute_eq_getD (b : UInt8) : substitute b = forwardTable.toList.getD b.toNat 0 := by
  simp [substitute, Array.getD_eq_getD_getElem?, List.getD_eq_getElem?_getD]

theorem unsubstitute_eq_getD (b : UInt8) :
    unsubstitute b = inverseTable.toList.getD b.toNat 0 := by
  simp [unsubstitute, Array.getD_eq_getD_getElem?, List.getD_eq_getElem?_getD]

/-- The entries of the one table, looked up in the other, are all bytes in order. -/
theorem inverse_forward :
    (forwardTable.toList.map fun b => (inverseTable.toList.getD b.toNat 0).toNat) =
      List.range 256 := by
  decide +kernel

/-- The same with the tables exchanged. -/
theorem forward_inverse :
    (inverseTable.toList.map fun b => (forwardTable.toList.getD b.toNat 0).toNat) =
      List.range 256 := by
  decide +kernel

/-- A function that takes the entries of a table to all bytes in order takes the entry at a byte back
to that byte. -/
theorem getD_of_map_eq_range {table : List UInt8} {f : UInt8 → UInt8}
    (h : (table.map fun b => (f b).toNat) = List.range 256) (b : UInt8) :
    f (table.getD b.toNat 0) = b := by
  have hb : b.toNat < 256 := b.toNat_lt
  have hlen : table.length = 256 := by simpa using congrArg List.length h
  have hget : (table.map fun b => (f b).toNat)[b.toNat]? = some b.toNat := by
    rw [h, List.getElem?_range hb]
  rw [List.getElem?_map, List.getElem?_eq_getElem (by omega)] at hget
  rw [List.getD_eq_getElem?_getD, List.getElem?_eq_getElem (by omega)]
  exact UInt8.toNat_inj.1 (by simpa using hget)

theorem unsubstitute_substitute (b : UInt8) : unsubstitute (substitute b) = b := by
  rw [unsubstitute_eq_getD, substitute_eq_getD]
  exact getD_of_map_eq_range inverse_forward b

theorem substitute_unsubstitute (b : UInt8) : substitute (unsubstitute b) = b := by
  rw [unsubstitute_eq_getD, substitute_eq_getD]
  exact getD_of_map_eq_range forward_inverse b

@[simp] theorem State.map_unsubstitute_substitute (s : State) :
    (s.map substitute).map unsubstitute = s := by
  simp [State.map, Column.map, unsubstitute_substitute]

@[simp] theorem State.map_substitute_unsubstitute (s : State) :
    (s.map unsubstitute).map substitute = s := by
  simp [State.map, Column.map, substitute_unsubstitute]

/-! ## Mixing columns -/

theorem topBit (b : UInt8) : b &&& 0x80 = 0 ∨ b &&& 0x80 = 0x80 := by
  have h : ∀ n : Fin 256, UInt8.ofNat n &&& 0x80 = 0 ∨ UInt8.ofNat n &&& 0x80 = 0x80 := by
    decide +kernel
  simpa using h ⟨b.toNat, b.toNat_lt⟩

theorem topBit_xor (a b : UInt8) : (a ^^^ b) &&& 0x80 = (a &&& 0x80) ^^^ (b &&& 0x80) := by
  apply UInt8.eq_of_toBitVec_eq
  ext i
  simp [Bool.and_xor_distrib_right]

/-- Doubling distributes over exclusive or. -/
theorem double_xor (a b : UInt8) : double (a ^^^ b) = double a ^^^ double b := by
  simp only [double, topBit_xor, UInt8.shiftLeft_xor]
  rcases topBit a with ha | ha <;> rcases topBit b with hb | hb <;> simp [ha, hb] <;> ac_nf
  rw [← UInt8.xor_assoc (0x1b : UInt8), UInt8.xor_self, UInt8.zero_xor]

theorem times9_xor (a b : UInt8) : times9 (a ^^^ b) = times9 a ^^^ times9 b := by
  simp only [times9, double_xor]
  ac_rfl

theorem times11_xor (a b : UInt8) : times11 (a ^^^ b) = times11 a ^^^ times11 b := by
  simp only [times11, double_xor]
  ac_rfl

theorem times13_xor (a b : UInt8) : times13 (a ^^^ b) = times13 a ^^^ times13 b := by
  simp only [times13, double_xor]
  ac_rfl

theorem times14_xor (a b : UInt8) : times14 (a ^^^ b) = times14 a ^^^ times14 b := by
  simp only [times14, double_xor]
  ac_rfl

theorem Column.mix_xor (a b : Column) : (a.xor b).mix = a.mix.xor b.mix := by
  simp only [Column.mix, Column.xor, double_xor, Column.mk.injEq]
  refine ⟨?_, ?_, ?_, ?_⟩ <;> ac_rfl

theorem Column.unmix_xor (a b : Column) : (a.xor b).unmix = a.unmix.xor b.unmix := by
  simp only [Column.unmix, Column.xor, times9_xor, times11_xor, times13_xor, times14_xor,
    Column.mk.injEq]
  refine ⟨?_, ?_, ?_, ?_⟩ <;> ac_rfl

/-- A column is the sum of four columns with one byte each. -/
theorem Column.eq_sum (c : Column) :
    c = ((Column.mk c.b0 0 0 0).xor ⟨0, c.b1, 0, 0⟩).xor
      ((Column.mk 0 0 c.b2 0).xor ⟨0, 0, 0, c.b3⟩) := by
  simp [Column.xor]

theorem double_zero : double 0 = 0 := rfl

theorem xor_cancel_left (a b : UInt8) : a ^^^ (a ^^^ b) = b := by
  rw [← UInt8.xor_assoc, UInt8.xor_self, UInt8.zero_xor]

theorem xor_left_comm (a b c : UInt8) : a ^^^ (b ^^^ c) = b ^^^ (a ^^^ c) := by ac_rfl

theorem Column.unmix_mix_single (b : UInt8) :
    (Column.mk b 0 0 0).mix.unmix = ⟨b, 0, 0, 0⟩ ∧
      (Column.mk 0 b 0 0).mix.unmix = ⟨0, b, 0, 0⟩ ∧
      (Column.mk 0 0 b 0).mix.unmix = ⟨0, 0, b, 0⟩ ∧
      (Column.mk 0 0 0 b).mix.unmix = ⟨0, 0, 0, b⟩ := by
  simp only [Column.mix, Column.unmix, times9, times11, times13, times14, double_xor, double_zero,
    Column.mk.injEq, UInt8.xor_zero, UInt8.zero_xor]
  simp only [UInt8.xor_assoc, UInt8.xor_comm, xor_left_comm, UInt8.xor_self, UInt8.xor_zero,
    xor_cancel_left, and_self]

theorem Column.mix_unmix_single (b : UInt8) :
    (Column.mk b 0 0 0).unmix.mix = ⟨b, 0, 0, 0⟩ ∧
      (Column.mk 0 b 0 0).unmix.mix = ⟨0, b, 0, 0⟩ ∧
      (Column.mk 0 0 b 0).unmix.mix = ⟨0, 0, b, 0⟩ ∧
      (Column.mk 0 0 0 b).unmix.mix = ⟨0, 0, 0, b⟩ := by
  simp only [Column.mix, Column.unmix, times9, times11, times13, times14, double_xor, double_zero,
    Column.mk.injEq, UInt8.xor_zero, UInt8.zero_xor]
  simp only [UInt8.xor_assoc, UInt8.xor_comm, xor_left_comm, UInt8.xor_self, UInt8.xor_zero,
    xor_cancel_left, and_self]

@[simp] theorem Column.unmix_mix (c : Column) : c.mix.unmix = c := by
  rw [c.eq_sum]
  simp only [Column.mix_xor, Column.unmix_xor, Column.unmix_mix_single]

@[simp] theorem Column.mix_unmix (c : Column) : c.unmix.mix = c := by
  rw [c.eq_sum]
  simp only [Column.mix_xor, Column.unmix_xor, Column.mix_unmix_single]

@[simp] theorem State.unmixColumns_mixColumns (s : State) : s.mixColumns.unmixColumns = s := by
  simp [State.mixColumns, State.unmixColumns]

@[simp] theorem State.mixColumns_unmixColumns (s : State) : s.unmixColumns.mixColumns = s := by
  simp [State.mixColumns, State.unmixColumns]

/-! ## Rounds -/

theorem unrounds_rounds (ks : List State) (s : State) : unrounds ks (rounds ks s) = s := by
  fun_induction rounds ks s with
  | case1 => rfl
  | case2 => simp [unrounds]
  | case3 s k k' ks ih => simp [unrounds, ih]

theorem rounds_unrounds (ks : List State) (s : State) : rounds ks (unrounds ks s) = s := by
  fun_induction unrounds ks s with
  | case1 => rfl
  | case2 => simp [rounds]
  | case3 s k k' ks ih => simp [rounds, ih]

end Aes

/-- Under every key AES can be undone, in both orders. -/
theorem aes_invertible (key : Octets 16) : (aes key).Invertible where
  decrypt_encrypt b := by simp [aes, Aes.unrounds_rounds]
  encrypt_decrypt b := by simp [aes, Aes.rounds_unrounds]

end CardLink
