import CardLink.Cipher.AesInverse
import CardLink.Protection.Vectors

/-!
# Inputs that differ as their exchanges do

What is encrypted to an initialisation vector and what is authenticated by a tag have their fields
at fixed places and in fixed widths, so either of them tells all its fields. Two vectors are equal
only if they were made for one direction of one exchange, and an authenticated string belongs to one
counter of one transaction.

1. The bytes of a counter tell the counter (`Counter.bytes_inj`).
2. The block of a vector tells direction, transaction and counter, and so does the vector under any
   key, because AES is invertible (`ivBlock_inj`, `iv_inj`).
3. An authenticated string tells code, counter, transaction and body (`tagInput_inj`).
-/

namespace CardLink

/-! ## Counters -/

theorem Bytes.little_injective {n v v' : Nat} (hv : v < Nat.pow 256 n) (hv' : v' < Nat.pow 256 n)
    (h : little n v = little n v') : v = v' := by
  have hread := congrArg ofLittle h
  rwa [ofLittle_little, ofLittle_little, Nat.mod_eq_of_lt hv, Nat.mod_eq_of_lt hv'] at hread

theorem Counter.bytes_inj {c c' : Counter} : c.bytes = c'.bytes ↔ c = c' := by
  constructor
  · intro h
    obtain ⟨v⟩ := c
    obtain ⟨v'⟩ := c'
    have hvalue : v.toNat = v'.toNat :=
      Bytes.little_injective (n := 2) v.toNat_lt v'.toNat_lt (congrArg Octets.toList h)
    rw [UInt16.toNat_inj.mp hvalue]
  · rintro rfl
    rfl

namespace Protection

variable {d d' : Direction} {key : Octets 16} {ti ti' : TransactionId} {c c' : Counter}
  {code code' : UInt8} {body body' : Bytes}

/-! ## Vectors -/

theorem Direction.label_inj : d.label = d'.label ↔ d = d' := by
  cases d <;> cases d' <;> decide

theorem ivBlock_inj : ivBlock d ti c = ivBlock d' ti' c' ↔ d = d' ∧ ti = ti' ∧ c = c' := by
  constructor
  · intro h
    have hbytes := congrArg Octets.toList h
    simp only [ivBlock, List.append_assoc] at hbytes
    obtain ⟨hlabel, hbytes⟩ := Octets.toList_append_inj.mp hbytes
    obtain ⟨hti, hbytes⟩ := Octets.toList_append_inj.mp hbytes
    obtain ⟨hcounter, -⟩ := Octets.toList_append_inj.mp hbytes
    exact ⟨Direction.label_inj.mp hlabel, hti, Counter.bytes_inj.mp hcounter⟩
  · rintro ⟨rfl, rfl, rfl⟩
    rfl

theorem iv_inj : iv d key ti c = iv d' key ti' c' ↔ d = d' ∧ ti = ti' ∧ c = c' := by
  unfold iv
  rw [(aes_invertible key).encrypt_inj, ivBlock_inj]

/-! ## Authenticated strings -/

theorem tagInput_inj : tagInput code c ti body = tagInput code' c' ti' body' ↔
    code = code' ∧ c = c' ∧ ti = ti' ∧ body = body' := by
  simp only [tagInput, List.cons_append, List.append_assoc, List.cons.injEq,
    Octets.toList_append_inj, Counter.bytes_inj]

/-- **Separation of exchanges.** Under one key, two initialisation vectors are equal exactly if they
have the same direction, transaction and counter. The tags of commands and responses are made of
strings that tell the code or status, the counter, the transaction and what is protected, in a
command header and payload as one string. So no string is authenticated for two counters. -/
theorem inputs_separated (key : Octets 16) :
    (∀ d d' ti ti' c c', iv d key ti c = iv d' key ti' c' ↔ d = d' ∧ ti = ti' ∧ c = c') ∧
    (∀ ti code c header payload, commandTag key ti code c header payload =
      shortCmac key (tagInput code c ti (header ++ payload))) ∧
    (∀ ti status c data, responseTag key ti status c data =
      shortCmac key (tagInput status c ti data)) ∧
    (∀ code code' c c' ti ti' body body', tagInput code c ti body = tagInput code' c' ti' body' ↔
      code = code' ∧ c = c' ∧ ti = ti' ∧ body = body') ∧
    ∀ c c', c ≠ c' → ∀ code code' ti ti' body body',
      tagInput code c ti body ≠ tagInput code' c' ti' body' := by
  refine ⟨fun _ _ _ _ _ _ => iv_inj, fun _ _ _ _ _ => rfl, fun _ _ _ _ => rfl,
    fun _ _ _ _ _ _ _ _ => tagInput_inj, ?_⟩
  intro c c' hne code code' ti ti' body body' h
  obtain ⟨-, hc, -, -⟩ := tagInput_inj.mp h
  exact hne hc

/-- Two counters whose bytes are each other's in reverse are told apart, and so are the directions
of one exchange. -/
theorem inputs_separated_reversed :
    let ti : TransactionId := Octets.zero 4
    tagInput 0 ⟨1⟩ ti [] ≠ tagInput 0 ⟨256⟩ ti [] ∧
      iv .command (Octets.zero 16) ti ⟨1⟩ ≠ iv .response (Octets.zero 16) ti ⟨1⟩ := by
  intro ti
  obtain ⟨hvectors, -, -, -, hstrings⟩ := inputs_separated (Octets.zero 16)
  refine ⟨hstrings ⟨1⟩ ⟨256⟩ (by decide) 0 0 ti ti [] [], fun h => ?_⟩
  obtain ⟨hdirection, -, -⟩ := (hvectors .command .response ti ti ⟨1⟩ ⟨1⟩).mp h
  cases hdirection

end Protection

end CardLink
