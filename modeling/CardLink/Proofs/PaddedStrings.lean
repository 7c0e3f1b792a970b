import Mathlib.Data.List.TakeWhile
import Mathlib.Tactic.SplitIfs
import CardLink.Padding

/-!
# Padded strings

A string can be told from its padding whatever its own last bytes are: the marker is the last byte
that is not zero. The bound on the zero bytes after it makes the padding the shortest one that
completes a block, and therefore the only one.

1. What is stripped is a marker and fewer than sixteen zero bytes, and such an end can always be
   stripped (`strip_eq_ok_iff`).
2. Of these ends exactly one completes a block, and it is the one that `pad` writes
   (`marked_eq_pad`).
-/

namespace CardLink.Padding

/-! ## Lengths -/

theorem length_pad (data : Bytes) :
    (pad data).length = Cbc.nextMultiple 16 (data.length + 1) := by
  have hle : data.length + 1 ≤ Cbc.nextMultiple 16 (data.length + 1) := by
    unfold Cbc.nextMultiple
    omega
  rw [pad, fill, List.length_append, List.length_cons, Bytes.length_zeros]
  omega

theorem aligned_pad (data : Bytes) : (pad data).length % 16 = 0 := by
  rw [length_pad]
  exact Nat.mul_mod_left _ _

theorem length_lt_pad (data : Bytes) : data.length < (pad data).length := by
  rw [length_pad, Cbc.nextMultiple]
  omega

theorem length_pad_le (data : Bytes) : (pad data).length ≤ data.length + 16 := by
  rw [length_pad, Cbc.nextMultiple]
  omega

/-! ## Marked strings -/

/-- A string closed by the marker and some zero bytes. -/
def marked (data : Bytes) (n : Nat) : Bytes := data ++ marker :: Bytes.zeros n

theorem length_marked (data : Bytes) (n : Nat) :
    (marked data n).length = data.length + (n + 1) := by
  rw [marked, List.length_append, List.length_cons, Bytes.length_zeros]

/-- The padding of a string is a marker with as many zero bytes as complete a block. -/
theorem marked_eq_pad {data : Bytes} {n : Nat} (hn : n < 16)
    (haligned : (marked data n).length % 16 = 0) : marked data n = pad data := by
  have hfill : n = Cbc.nextMultiple 16 (data.length + 1) - (data.length + 1) := by
    rw [length_marked] at haligned
    unfold Cbc.nextMultiple
    omega
  rw [pad, fill, ← hfill, marked]

theorem exists_marked_pad (data : Bytes) : ∃ n < 16, pad data = marked data n := by
  refine ⟨_, ?_, rfl⟩
  have hle := length_pad_le data
  rw [length_pad] at hle
  omega

/-- From the end only the zero bytes after the marker are passed over. -/
theorem dropWhile_reverse_marked (data : Bytes) (n : Nat) :
    (marked data n).reverse.dropWhile (fun b => b == 0) = marker :: data.reverse := by
  have hzeros : ∀ b ∈ List.replicate n (0 : UInt8), (b == 0) = true := by
    intro b hb
    rw [List.eq_of_mem_replicate hb]
    rfl
  rw [marked, Bytes.zeros, List.reverse_append, List.reverse_cons, List.reverse_replicate,
    List.append_assoc, List.dropWhile_append_of_pos hzeros]
  exact List.dropWhile_cons_of_neg (by decide)

/-- The zero bytes at the end of a string, put back behind what was left of it. -/
theorem eq_append_zeros (x : Bytes) :
    ∃ n, x = (x.reverse.dropWhile fun b => b == 0).reverse ++ Bytes.zeros n := by
  have hzeros : ∀ b ∈ x.reverse.takeWhile (fun b => b == 0), b = 0 := by
    intro b hb
    have hb := List.mem_takeWhile_imp hb
    exact beq_iff_eq.mp hb
  refine ⟨(x.reverse.takeWhile fun b => b == 0).length, ?_⟩
  have hsplit := congrArg List.reverse
    (List.takeWhile_append_dropWhile (p := fun b => b == 0) (l := x.reverse))
  rw [List.reverse_append, List.reverse_reverse, List.eq_replicate_of_mem hzeros,
    List.reverse_replicate] at hsplit
  exact hsplit.symm

/-! ## Stripping -/

theorem strip_marked {n : Nat} (hn : n < 16) (data : Bytes) : strip (marked data n) = .ok data := by
  have hwithin : (marked data n).length - data.reverse.length ≤ 16 := by
    rw [length_marked, List.length_reverse]
    omega
  rw [strip, dropWhile_reverse_marked]
  simp only [true_and, hwithin, if_true, List.reverse_reverse]

/-- What is stripped is a marker and fewer than sixteen zero bytes. -/
theorem strip_eq_ok_iff {x data : Bytes} :
    strip x = .ok data ↔ ∃ n < 16, x = marked data n := by
  constructor
  · intro h
    obtain ⟨n, hx⟩ := eq_append_zeros x
    unfold strip at h
    generalize x.reverse.dropWhile (fun b => b == 0) = front at h hx
    cases front with
    | nil => cases h
    | cons last before =>
      simp only at h
      split_ifs at h with hlast
      obtain ⟨rfl, hwithin⟩ := hlast
      cases h
      rw [List.reverse_cons, List.append_assoc] at hx
      refine ⟨n, ?_, hx⟩
      rw [hx, List.length_append, List.length_reverse, List.singleton_append, List.length_cons,
        Bytes.length_zeros] at hwithin
      omega
  · rintro ⟨n, hn, rfl⟩
    exact strip_marked hn data

/-- Stripping fails because there is no marker, or because what follows the last byte that is not
zero is no padding. -/
theorem strip_error {x : Bytes} {err : Error} (h : strip x = .error err) :
    err = .malformed .paddingMarkerMissing ∨ err = .malformed .invalidPadding := by
  unfold strip at h
  split at h
  · cases h
    exact Or.inl rfl
  · split_ifs at h
    cases h
    exact Or.inr rfl

@[simp] theorem strip_pad (data : Bytes) : strip (pad data) = .ok data := by
  obtain ⟨n, hn, hpad⟩ := exists_marked_pad data
  rw [hpad, strip_marked hn]

theorem pad_injective : Function.Injective pad := by
  intro a b h
  have hstrip := congrArg strip h
  rw [strip_pad, strip_pad] at hstrip
  exact Except.ok.inj hstrip

/-- A string of whole blocks can be stripped exactly if it is a padded one. -/
theorem strip_aligned_iff {x data : Bytes} (hx : x.length % 16 = 0) :
    strip x = .ok data ↔ x = pad data := by
  constructor
  · intro h
    obtain ⟨n, hn, rfl⟩ := strip_eq_ok_iff.mp h
    exact marked_eq_pad hn hx
  · rintro rfl
    exact strip_pad data

/-- **Padding is unambiguous.** Padding completes the last block of a string with at least one and
at most sixteen bytes, no two strings have the same padded form, and stripping gives back the
string. And from whole blocks stripping succeeds exactly on the padded strings, with the one string
whose padded form they are; it rejects all others. -/
theorem padding_unambiguous :
    (∀ data, (pad data).length % 16 = 0 ∧ data.length + 1 ≤ (pad data).length ∧
      (pad data).length ≤ data.length + 16 ∧ strip (pad data) = .ok data) ∧
    Function.Injective pad ∧
    ∀ x : Bytes, x.length % 16 = 0 →
      (∀ data, strip x = .ok data ↔ x = pad data) ∧
      ((∃ cause, strip x = .error (.malformed cause)) ↔ ∀ data, x ≠ pad data) := by
  refine ⟨fun data => ⟨aligned_pad data, length_lt_pad data, length_pad_le data, strip_pad data⟩,
    pad_injective, fun x hx => ⟨fun data => strip_aligned_iff hx, ?_⟩⟩
  constructor
  · rintro ⟨cause, herr⟩ data rfl
    rw [strip_pad] at herr
    cases herr
  · intro hne
    cases h : strip x with
    | ok data => exact absurd ((strip_aligned_iff hx).mp h) (hne data)
    | error err =>
      rcases strip_error h with rfl | rfl
      · exact ⟨_, rfl⟩
      · exact ⟨_, rfl⟩

/-- Data that ends like padding is given back, and a marker with a whole block of zero bytes after
it is no padding. -/
theorem padding_unambiguous_lookalikes :
    let data : Bytes := [1, marker, 0, 0]
    let x : Bytes := marked (Bytes.zeros 15) 16
    strip (pad data) = .ok data ∧ x.length % 16 = 0 ∧ ∀ data, x ≠ pad data := by
  intro data x
  obtain ⟨hpad, -, hstrip⟩ := padding_unambiguous
  have hx : x.length % 16 = 0 := by decide
  have herr : strip x = .error (.malformed .invalidPadding) := by decide +kernel
  exact ⟨(hpad data).2.2.2, hx, (hstrip x hx).2.mp ⟨_, herr⟩⟩

end CardLink.Padding
