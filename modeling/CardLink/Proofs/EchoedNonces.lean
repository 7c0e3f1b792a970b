import CardLink.Proofs.Agreements
import Mathlib.Data.List.Rotate

/-!
# Comparison without an early exit

Tags and echoed nonces are compared to the end. The differences of all pairs of bytes are collected
in one byte, which only ever gains bits, so no difference takes another one back. But the pairs end
with the shorter string: the differences alone accept a part for the whole, and it is the lengths
that rule this out.

1. The differences vanish exactly if one string continues the other (`differences_eq_zero_iff`).
2. With the lengths they decide equality (`Bytes.sameAs_iff`), so a proof is accepted exactly if it
   is the rotated nonce (`rotated_iff`).
-/

namespace CardLink

namespace Bytes

variable {a b : Bytes}

/-! ## Differences -/

/-- The differences of all pairs of bytes, collected in one byte. -/
def differences (a b : Bytes) : UInt8 :=
  (a.zip b).foldl (fun acc p => acc ||| (p.1 ^^^ p.2)) 0

theorem differences_eq_foldl_xor (a b : Bytes) :
    differences a b = (xor a b).foldl (fun acc d => acc ||| d) 0 := by
  rw [differences, xor, ← List.map_uncurry_zip_eq_zipWith, List.foldl_map]
  rfl

theorem sameAs_eq (a b : Bytes) :
    sameAs a b = (a.length == b.length && differences a b == 0) := by
  rw [differences_eq_foldl_xor]
  rfl

theorem differences_eq_zero_iff : differences a b = 0 ↔ a <+: b ∨ b <+: a := by
  rw [differences_eq_foldl_xor, foldl_or_eq_zero, xor_eq_zero_iff_prefix]
  exact and_iff_right rfl

/-! ## Rotation -/

theorem rotl_eq_rotate (bs : Bytes) : rotl bs = bs.rotate 1 := by
  cases bs with
  | nil => rfl
  | cons b bs => rw [rotl, List.rotate_cons_succ, List.rotate_zero]

/-- Every byte of a nonce, one place further to the front, and the first one at the end. -/
structure Rotated (nonce echoed : Bytes) : Prop where
  length_eq : echoed.length = nonce.length
  byte : ∀ i < nonce.length, echoed[i]? = nonce[(i + 1) % nonce.length]?

theorem rotated_iff {nonce echoed : Bytes} : Rotated nonce echoed ↔ echoed = rotl nonce := by
  rw [rotl_eq_rotate]
  constructor
  · intro h
    apply List.ext_getElem?
    intro i
    by_cases hi : i < nonce.length
    · rw [h.byte i hi, List.getElem?_rotate hi]
    · have hi' : nonce.length ≤ i := Nat.le_of_not_lt hi
      rw [List.getElem?_eq_none (h.length_eq.trans_le hi'),
        List.getElem?_eq_none ((List.length_rotate ..).trans_le hi')]
  · rintro rfl
    exact ⟨List.length_rotate .., fun i hi => List.getElem?_rotate hi⟩

end Bytes

namespace Handshake

theorem checkProof_eq_error {rndA echoed : Bytes} {e : Error} :
    checkProof rndA echoed = .error e ↔
      echoed ≠ Bytes.rotl rndA ∧ e = .authenticationFailed .wrongProof := by
  unfold checkProof
  split_ifs with h
  · exact iff_of_false (by intro h'; cases h') fun h' => h'.1 (Bytes.sameAs_iff.mp h).symm
  · constructor
    · intro h'
      cases h'
      exact ⟨fun hechoed => h (Bytes.sameAs_iff.mpr hechoed.symm), rfl⟩
    · rintro ⟨-, rfl⟩
      rfl

/-- **Comparison decides equality.** Two strings of any lengths compare as equal exactly if they are
equal; the collected differences alone would take a string for any that continues it. So the proof
of a card is accepted exactly if it is as long as the host's nonce and holds its bytes rotated to
the left by one, and everything else fails the authentication. -/
theorem comparison_decides :
    (∀ a b : Bytes, Bytes.sameAs a b = true ↔ a = b) ∧
    (∀ a b : Bytes, Bytes.sameAs a b = (a.length == b.length && Bytes.differences a b == 0)) ∧
    (∀ a b : Bytes, Bytes.differences a b = 0 ↔ a <+: b ∨ b <+: a) ∧
    ∀ rndA echoed : Bytes, rndA ≠ [] →
      (checkProof rndA echoed = .ok () ↔ Bytes.Rotated rndA echoed) ∧
      (checkProof rndA echoed = .error (.authenticationFailed .wrongProof) ↔
        ¬ Bytes.Rotated rndA echoed) := by
  refine ⟨fun _ _ => Bytes.sameAs_iff, Bytes.sameAs_eq, fun _ _ => Bytes.differences_eq_zero_iff,
    fun rndA echoed _ => ⟨?_, ?_⟩⟩
  · rw [checkProof_eq_ok, Bytes.rotated_iff]
  · rw [checkProof_eq_error, Bytes.rotated_iff]
    exact and_iff_left rfl

/-- A nonce of three bytes is shown by its rotation, but neither by itself nor by the front of its
rotation, whose bytes do not differ. -/
theorem comparison_decides_short :
    checkProof [0, 1, 2] [1, 2, 0] = .ok () ∧
      checkProof [0, 1, 2] [0, 1, 2] = .error (.authenticationFailed .wrongProof) ∧
      checkProof [0, 1, 2] [1, 2] = .error (.authenticationFailed .wrongProof) ∧
      Bytes.differences [1, 2, 0] [1, 2] = 0 := by
  obtain ⟨-, -, hdifferences, hproof⟩ := comparison_decides
  refine ⟨(hproof [0, 1, 2] [1, 2, 0] (by decide)).1.mpr ⟨rfl, by decide⟩,
    (hproof [0, 1, 2] [0, 1, 2] (by decide)).2.mpr fun h => ?_,
    (hproof [0, 1, 2] [1, 2] (by decide)).2.mpr fun h => ?_,
    (hdifferences [1, 2, 0] [1, 2]).mpr (Or.inr ⟨[0], rfl⟩)⟩
  · exact absurd (h.byte 0 (by decide)) (by decide)
  · exact absurd h.length_eq (by decide)

end Handshake

end CardLink
