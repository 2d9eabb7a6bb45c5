import AmqpReturns.Proofs.Utf8
import AmqpReturns.Table

/-!
# Proofs — the order of bytes

Characters in order have their bytes in order, whatever comes behind them
(`encodeChar_lt`): the longer ones have the higher lead bytes, and those of one length carry their
number in digits, the highest first.  So texts are in the order of their bytes (`encode_lt`), and
the keys of a table are listed in that order (`Table.keys_byteOrder`).
-/

namespace AmqpReturns

namespace Text.Utf8

theorem toNat_lt (c : Char) : c.toNat < 0x110000 := by
  have hv : c.toNat < 0xD800 ∨ 0xDFFF < c.toNat ∧ c.toNat < 0x110000 := c.valid
  omega

/-- Bytes are compared by their heads, and by what is behind where these are the same. -/
theorem cons_lt_cons_of_le {x y : Nat} {xs ys : List UInt8} (hle : x ≤ y) (hy : y < 0x100)
    (h : x = y → xs < ys) : x.toUInt8 :: xs < y.toUInt8 :: ys := by
  rw [List.cons_lt_cons_iff, UInt8.lt_iff_toNat_lt, ← UInt8.toNat_inj,
    toNat_toUInt8 (Nat.lt_of_le_of_lt hle hy), toNat_toUInt8 hy]
  rcases Nat.lt_or_eq_of_le hle with hlt | heq
  · exact .inl hlt
  · exact .inr ⟨heq, h heq⟩

theorem cons_lt_cons_of_lt {x y : Nat} {xs ys : List UInt8} (hlt : x < y) (hy : y < 0x100) :
    x.toUInt8 :: xs < y.toUInt8 :: ys :=
  cons_lt_cons_of_le (Nat.le_of_lt hlt) hy fun e => absurd e (Nat.ne_of_lt hlt)

/-- **Characters in order have their bytes in order.** -/
theorem encodeChar_lt {c d : Char} (h : c < d) (xs ys : List UInt8) :
    encodeChar c ++ xs < encodeChar d ++ ys := by
  have hlt : c.toNat < d.toNat := h
  have hd := toNat_lt d
  -- The cases go by the length of the one, then of the other, which is never the shorter.
  simp only [encodeChar]
  split
  · split
    · exact cons_lt_cons_of_lt hlt (by omega)
    · repeat' split
      all_goals exact cons_lt_cons_of_lt (by omega) (by omega)
  · split
    · split
      · omega
      · split
        · refine cons_lt_cons_of_le (by omega) (by omega) fun h₀ => ?_
          exact cons_lt_cons_of_lt (by omega) (by omega)
        · repeat' split
          all_goals exact cons_lt_cons_of_lt (by omega) (by omega)
    · split
      · split
        · omega
        · split
          · omega
          · split
            · refine cons_lt_cons_of_le (by omega) (by omega) fun h₀ => ?_
              refine cons_lt_cons_of_le (by omega) (by omega) fun h₁ => ?_
              exact cons_lt_cons_of_lt (by omega) (by omega)
            · exact cons_lt_cons_of_lt (by omega) (by omega)
      · split
        · omega
        · split
          · omega
          · split
            · omega
            · refine cons_lt_cons_of_le (by omega) (by omega) fun h₀ => ?_
              refine cons_lt_cons_of_le (by omega) (by omega) fun h₁ => ?_
              refine cons_lt_cons_of_le (by omega) (by omega) fun h₂ => ?_
              exact cons_lt_cons_of_lt (by omega) (by omega)

theorem flatMap_encodeChar_lt : ∀ {cs ds : List Char}, cs < ds →
    cs.flatMap encodeChar < ds.flatMap encodeChar
  | cs, [], h => absurd h (List.not_lt_nil cs)
  | [], d :: ds, _ => by
      obtain ⟨lead, tail, he, -⟩ := front_encodeChar d []
      rw [List.flatMap_nil, List.flatMap_cons, he]
      exact List.nil_lt_cons ..
  | c :: cs, d :: ds, h => by
      rw [List.flatMap_cons, List.flatMap_cons]
      rcases List.cons_lt_cons_iff.mp h with hlt | ⟨rfl, hlt⟩
      · exact encodeChar_lt hlt _ _
      · exact List.append_left_lt (flatMap_encodeChar_lt hlt)

/-- **Texts are in the order of their bytes.** -/
theorem encode_lt {s t : String} (h : s < t) : encode s < encode t :=
  flatMap_encodeChar_lt (String.lt_iff.mp h)

end Text.Utf8

/-- The keys of a table, each once, in the order of their bytes. -/
theorem Table.keys_byteOrder {α : Type} (t : Table α) :
    t.keys.Pairwise fun a b => Text.Utf8.encode a < Text.Utf8.encode b :=
  List.pairwise_map.mpr (t.sorted.imp Text.Utf8.encode_lt)

end AmqpReturns
