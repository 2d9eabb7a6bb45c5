import AmqpReturns.Text.Utf8

/-!
# Proofs — UTF-8 back and forth

Reading finds at the head of what was written the character that was written there
(`front_encodeChar`), so a text comes back from its bytes, with either reader
(`decodeLossy_encode`, `decode?_encode`).  There is one lemma for each length of a character; each
takes the numbers its bytes carry.
-/

namespace AmqpReturns.Text.Utf8

theorem toNat_toUInt8 {n : Nat} (h : n < 0x100) : n.toUInt8.toNat = n := by
  simp only [Nat.toUInt8, UInt8.toNat_ofNat']
  omega

/-! ### One character -/

section

variable {b₀ b₁ b₂ b₃ : UInt8} {x y z u : Nat} (rest : List UInt8)

theorem isContinuation_of (h : b₀.toNat = 0x80 + x) (hx : x < 0x40) :
    isContinuation b₀ = true := by
  simp only [isContinuation, Bool.and_eq_true, decide_eq_true_eq, UInt8.le_iff_toNat_le, h,
    UInt8.reduceToNat]
  omega

theorem payload_of (h : b₀.toNat = 0x80 + x) : payload b₀ = x := by
  unfold payload
  omega

/-- A continuation byte may come second, if it keeps the bounds of the two leads that have some. -/
theorem isSecond_of {lead b first last low high : UInt8} (hb : isContinuation b = true)
    (hlow : lead = first → low ≤ b) (hhigh : lead = last → b ≤ high) :
    (if lead = first then low ≤ b && b ≤ 0xBF
      else if lead = last then 0x80 ≤ b && b ≤ high
      else isContinuation b) = true := by
  have hc := hb
  simp only [isContinuation, Bool.and_eq_true, decide_eq_true_eq] at hc
  split
  · rename_i e
    simp only [hlow e, hc.2, decide_true, Bool.and_self]
  · split
    · rename_i e
      simp only [hhigh e, hc.1, decide_true, Bool.and_self]
    · exact hb

theorem isSecondOfThree_of (h₀ : b₀.toNat = 0xE0 + x) (h₁ : b₁.toNat = 0x80 + y)
    (hy : y < 0x40) (hlow : x = 0 → 0x20 ≤ y) (hhigh : x = 0xD → y < 0x20) :
    isSecondOfThree b₀ b₁ = true := by
  refine isSecond_of (isContinuation_of h₁ hy) (fun e => ?_) fun e => ?_
  · simp only [← UInt8.toNat_inj, UInt8.reduceToNat, h₀] at e
    simp only [UInt8.le_iff_toNat_le, UInt8.reduceToNat, h₁]
    omega
  · simp only [← UInt8.toNat_inj, UInt8.reduceToNat, h₀] at e
    simp only [UInt8.le_iff_toNat_le, UInt8.reduceToNat, h₁]
    omega

theorem isSecondOfFour_of (h₀ : b₀.toNat = 0xF0 + x) (h₁ : b₁.toNat = 0x80 + y)
    (hy : y < 0x40) (hlow : x = 0 → 0x10 ≤ y) (hhigh : x = 4 → y < 0x10) :
    isSecondOfFour b₀ b₁ = true := by
  refine isSecond_of (isContinuation_of h₁ hy) (fun e => ?_) fun e => ?_
  · simp only [← UInt8.toNat_inj, UInt8.reduceToNat, h₀] at e
    simp only [UInt8.le_iff_toNat_le, UInt8.reduceToNat, h₁]
    omega
  · simp only [← UInt8.toNat_inj, UInt8.reduceToNat, h₀] at e
    simp only [UInt8.le_iff_toNat_le, UInt8.reduceToNat, h₁]
    omega

theorem front_one (h : b₀.toNat = x) (hx : x < 0x80) :
    front b₀ rest = (.char (Char.ofNat x), rest) := by
  simp only [front, UInt8.lt_iff_toNat_lt, h, UInt8.reduceToNat]
  rw [if_pos hx]

theorem front_two (h₀ : b₀.toNat = 0xC0 + x) (h₁ : b₁.toNat = 0x80 + y) (hx : 2 ≤ x)
    (hx' : x < 0x20) (hy : y < 0x40) :
    front b₀ (b₁ :: rest) = (.char (Char.ofNat (x * 0x40 + y)), rest) := by
  simp only [front, UInt8.lt_iff_toNat_lt, h₀, UInt8.reduceToNat, isContinuation_of h₁ hy,
    payload_of h₁, Nat.add_sub_cancel_left, if_true]
  rw [if_neg (by omega), if_neg (by omega), if_pos (by omega)]

theorem front_three (h₀ : b₀.toNat = 0xE0 + x) (h₁ : b₁.toNat = 0x80 + y)
    (h₂ : b₂.toNat = 0x80 + z) (hx : x < 0x10) (hy : y < 0x40) (hz : z < 0x40)
    (hlow : x = 0 → 0x20 ≤ y) (hhigh : x = 0xD → y < 0x20) :
    front b₀ (b₁ :: b₂ :: rest) =
      (.char (Char.ofNat (x * 0x1000 + y * 0x40 + z)), rest) := by
  simp only [front, UInt8.lt_iff_toNat_lt, h₀, UInt8.reduceToNat,
    isSecondOfThree_of h₀ h₁ hy hlow hhigh, isContinuation_of h₂ hz, payload_of h₁,
    payload_of h₂, Nat.add_sub_cancel_left, if_true]
  rw [if_neg (by omega), if_neg (by omega), if_neg (by omega), if_pos (by omega)]

theorem front_four (h₀ : b₀.toNat = 0xF0 + x) (h₁ : b₁.toNat = 0x80 + y)
    (h₂ : b₂.toNat = 0x80 + z) (h₃ : b₃.toNat = 0x80 + u) (hx : x < 5) (hy : y < 0x40)
    (hz : z < 0x40) (hu : u < 0x40) (hlow : x = 0 → 0x10 ≤ y) (hhigh : x = 4 → y < 0x10) :
    front b₀ (b₁ :: b₂ :: b₃ :: rest) =
      (.char (Char.ofNat (x * 0x40000 + y * 0x1000 + z * 0x40 + u)), rest) := by
  simp only [front, UInt8.lt_iff_toNat_lt, h₀, UInt8.reduceToNat,
    isSecondOfFour_of h₀ h₁ hy hlow hhigh, isContinuation_of h₂ hz, isContinuation_of h₃ hu,
    payload_of h₁, payload_of h₂, payload_of h₃, Nat.add_sub_cancel_left, if_true]
  rw [if_neg (by omega), if_neg (by omega), if_neg (by omega), if_neg (by omega),
    if_pos (by omega)]

end

/-- **Reading finds the character that was written.** -/
theorem front_encodeChar (c : Char) (rest : List UInt8) :
    ∃ lead tail, encodeChar c = lead :: tail ∧ front lead (tail ++ rest) = (.char c, rest) := by
  -- No character is a surrogate or above U+10FFFF, so the second bytes are in their bounds.
  have hv : c.toNat < 0xD800 ∨ 0xDFFF < c.toNat ∧ c.toNat < 0x110000 := c.valid
  have hc : ∀ n, n = c.toNat → Char.ofNat n = c := by
    rintro _ rfl
    exact Char.ofNat_toNat c
  simp only [encodeChar]
  split
  · refine ⟨_, _, rfl, ?_⟩
    have h := front_one rest (toNat_toUInt8 (n := c.toNat) (by omega)) (by omega)
    rwa [hc _ rfl] at h
  · split
    · refine ⟨_, _, rfl, ?_⟩
      have h := front_two rest (toNat_toUInt8 (n := 0xC0 + c.toNat / 0x40) (by omega))
        (toNat_toUInt8 (n := 0x80 + c.toNat % 0x40) (by omega)) (by omega) (by omega) (by omega)
      rwa [hc _ (by omega)] at h
    · split
      · refine ⟨_, _, rfl, ?_⟩
        have h := front_three rest (toNat_toUInt8 (n := 0xE0 + c.toNat / 0x1000) (by omega))
          (toNat_toUInt8 (n := 0x80 + c.toNat / 0x40 % 0x40) (by omega))
          (toNat_toUInt8 (n := 0x80 + c.toNat % 0x40) (by omega)) (by omega) (by omega)
          (by omega) (by omega) (by omega)
        rwa [hc _ (by omega)] at h
      · refine ⟨_, _, rfl, ?_⟩
        have h := front_four rest (toNat_toUInt8 (n := 0xF0 + c.toNat / 0x40000) (by omega))
          (toNat_toUInt8 (n := 0x80 + c.toNat / 0x1000 % 0x40) (by omega))
          (toNat_toUInt8 (n := 0x80 + c.toNat / 0x40 % 0x40) (by omega))
          (toNat_toUInt8 (n := 0x80 + c.toNat % 0x40) (by omega)) (by omega) (by omega)
          (by omega) (by omega) (by omega) (by omega)
        rwa [hc _ (by omega)] at h

/-! ### A text -/

theorem readable_encode (cs : List Char) : readable (cs.flatMap encodeChar) = (cs, none) := by
  induction cs with
  | nil => rw [List.flatMap_nil, readable]
  | cons c cs ih =>
      obtain ⟨lead, tail, he, hf⟩ := front_encodeChar c (cs.flatMap encodeChar)
      rw [List.flatMap_cons, he, List.cons_append, readable]
      split
      · rename_i c' rest' h
        rw [hf] at h
        cases h
        rw [ih]
      · rename_i h
        rw [hf] at h
        cases h
      · rename_i h
        rw [hf] at h
        cases h

/-- Where strict reading finds no fault, the other reads the same. -/
theorem decodeCharsLossy_of_readable {bytes : List UInt8} {cs : List Char}
    (h : readable bytes = (cs, none)) : decodeCharsLossy bytes = cs := by
  fun_induction readable bytes generalizing cs with
  | case1 =>
      cases h
      rw [decodeCharsLossy]
  | case2 lead rest c rest' hf _ cs' stop hr ih =>
      cases h
      rw [decodeCharsLossy]
      split
      · rename_i h
        rw [hf] at h
        cases h
        rw [ih hr]
      · rename_i h
        rw [hf] at h
        cases h
      · rename_i h
        rw [hf] at h
        cases h
  | case3 => cases h
  | case4 => cases h

/-- **A text comes back from its bytes.** -/
theorem decodeLossy_encode (s : String) : decodeLossy (encode s) = s := by
  rw [decodeLossy, encode, decodeCharsLossy_of_readable (readable_encode _), String.ofList_toList]

/-- Strict reading finds no fault in it. -/
theorem decode?_encode (s : String) : decode? (encode s) = .ok s := by
  simp only [decode?, encode, readable_encode, String.ofList_toList]

end AmqpReturns.Text.Utf8
