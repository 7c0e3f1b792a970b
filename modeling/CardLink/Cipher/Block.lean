import CardLink.Octets

/-!
# Block ciphers

A block cipher under a fixed key is a pair of functions on blocks of `n` bytes. The modes of
operation are written against this pair and know nothing of the cipher behind it.
-/

namespace CardLink

/-- A block cipher whose key is already chosen. -/
structure BlockCipher (n : Nat) where
  encrypt : Octets n → Octets n
  decrypt : Octets n → Octets n

/-- Each direction undoes the other. -/
structure BlockCipher.Invertible {n : Nat} (c : BlockCipher n) : Prop where
  decrypt_encrypt : ∀ b, c.decrypt (c.encrypt b) = b
  encrypt_decrypt : ∀ b, c.encrypt (c.decrypt b) = b

theorem BlockCipher.Invertible.encrypt_inj {n : Nat} {c : BlockCipher n} (hc : c.Invertible)
    {a b : Octets n} : c.encrypt a = c.encrypt b ↔ a = b := by
  constructor
  · intro h
    rw [← hc.decrypt_encrypt a, h, hc.decrypt_encrypt]
  · rintro rfl
    rfl

end CardLink
