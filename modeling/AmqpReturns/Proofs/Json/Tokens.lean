import AmqpReturns.Json.Text
import AmqpReturns.Proofs.Json.Grammar
import AmqpReturns.Proofs.Readable
import Mathlib.Data.List.TakeWhile

/-!
# Proofs — blanks, words and strings

Each function that takes a token off a text succeeds just where that token of the grammar stands,
and leaves what is behind it: `skipWord_eq_ok_iff`, `readHex_eq_ok_iff`, `readEscape_eq_ok_iff`,
`skipEscape_eq_ok_iff`, and from these `readChars_eq_ok_iff` and `skipString_eq_ok_iff`.  As they
are functions, a body ends in one place only (`IsBody.unique`) and spells one text only
(`Spells.unique`).
-/

namespace AmqpReturns.Json

section

variable {ε α β : Type}

theorem map_eq_ok_iff {x : Except ε α} {f : α → β} {b : β} :
    x.map f = .ok b ↔ ∃ a, x = .ok a ∧ f a = b := by
  cases x <;> simp [Except.map]

theorem bind_eq_ok_iff {x : Except ε α} {f : α → Except ε β} {b : β} :
    (x >>= f) = .ok b ↔ ∃ a, x = .ok a ∧ f a = .ok b := by
  cases x <;> simp [bind, Except.bind]

end

/-! ### Blanks -/

theorem isBlank_iff {c : Char} : isBlank c = true ↔ c ∈ [' ', '\t', '\n', '\r'] := by
  simp [isBlank, or_assoc]

theorem blanks_nil : Blanks [] := fun _ hc => absurd hc List.not_mem_nil

theorem Blanks.append {bs bs' : List Char} (h : Blanks bs) (h' : Blanks bs') :
    Blanks (bs ++ bs') := fun c hc =>
  (List.mem_append.mp hc).elim (h c) (h' c)

theorem skipBlank_append {bs : List Char} (h : Blanks bs) (cs : List Char) :
    skipBlank (bs ++ cs) = skipBlank cs :=
  List.dropWhile_append_of_pos fun c hc => isBlank_iff.mpr (h c hc)

theorem skipBlank_cons {c : Char} (h : isBlank c = false) (cs : List Char) :
    skipBlank (c :: cs) = c :: cs :=
  List.dropWhile_cons_of_neg (by rw [h]; exact Bool.false_ne_true)

/-- Blanks are passed over up to the next token. -/
theorem skipBlank_token {bs : List Char} {c : Char} (hbs : Blanks bs) (hc : isBlank c = false)
    (cs : List Char) : skipBlank (bs ++ c :: cs) = c :: cs := by
  rw [skipBlank_append hbs, skipBlank_cons hc]

theorem of_skipBlank {cs cs' : List Char} (h : skipBlank cs = cs') :
    ∃ bs, Blanks bs ∧ cs = bs ++ cs' := by
  refine ⟨cs.takeWhile isBlank, fun c hc => isBlank_iff.mp ?_, ?_⟩
  · exact List.mem_takeWhile_imp hc
  · rw [← h, skipBlank, List.takeWhile_append_dropWhile]

/-- Blanks and what comes behind them cannot be cut in two ways. -/
theorem skipBlank_cut {bs bs' cs cs' : List Char} {c c' : Char} (h : Blanks bs) (h' : Blanks bs')
    (hc : isBlank c = false) (hc' : isBlank c' = false)
    (heq : bs ++ c :: cs = bs' ++ c' :: cs') : c = c' ∧ cs = cs' := by
  have hs := congrArg skipBlank heq
  rw [skipBlank_token h hc, skipBlank_token h' hc'] at hs
  exact List.cons.inj hs

/-! ### Words -/

theorem skipWord_eq_ok_iff {word cs rest : List Char} :
    skipWord word cs = .ok rest ↔ cs = word ++ rest := by
  induction word generalizing cs with
  | nil => simp [skipWord]
  | cons w word ih =>
    cases cs with
    | nil => simp [skipWord]
    | cons c cs =>
      by_cases h : c = w
      · simp [skipWord, h, ih]
      · simp [skipWord, h]

/-! ### Escapes -/

theorem IsHexDigit.lt {c : Char} {x : Nat} (h : IsHexDigit c x) : x < 16 :=
  h.elim (fun h => (List.getElem?_eq_some_iff.mp h).1) fun h => (List.getElem?_eq_some_iff.mp h).1

theorem IsHex.lt {ds : List Char} {n : Nat} (h : IsHex ds n) : n < 0x10000 := by
  obtain ⟨ha, hb, hc, hd⟩ := h
  have := ha.lt
  have := hb.lt
  have := hc.lt
  have := hd.lt
  omega

theorem digit?_eq_some_iff {c : Char} {x : Nat} :
    Text.Hex.digit? c = some x ↔ IsHexDigit c x := by
  constructor
  · intro h
    have table : ∀ n < 103, ∀ x ∈ Text.Hex.digit? (Char.ofNat n), IsHexDigit (Char.ofNat n) x := by
      decide
    have hc : c.toNat < 103 := by
      simp only [Text.Hex.digit?, Char.le_def, UInt32.le_iff_toNat_le, Char.reduceVal,
        UInt32.reduceToNat, Char.toNat_val] at h
      grind
    simpa only [Char.ofNat_toNat] using table c.toNat hc x (by rwa [Char.ofNat_toNat])
  · have read {digits : List Char} (hlen : digits.length = 16)
        (h : ∀ x < 16, digits[x]?.bind Text.Hex.digit? = some x) (hx : digits[x]? = some c) :
        Text.Hex.digit? c = some x := by
      have hlt := (List.getElem?_eq_some_iff.mp hx).1
      simpa only [hx, Option.bind_some] using h x (hlen ▸ hlt)
    rintro (h | h)
    · exact read (by decide) (by decide) h
    · exact read (by decide) (by decide) h

theorem readHex_eq_ok_iff {cs rest : List Char} {n : Nat} :
    readHex cs = .ok (n, rest) ↔ ∃ ds, IsHex ds n ∧ cs = ds ++ rest := by
  constructor
  · intro h
    unfold readHex at h
    split at h
    · next a b c d tail =>
      split at h
      · next x y z u ha hb hc hd =>
        simp only [Except.ok.injEq, Prod.mk.injEq] at h
        obtain ⟨hn, rfl⟩ := h
        refine ⟨[a, b, c, d], ?_, rfl⟩
        have hn : n = 0x1000 * x + 0x100 * y + 0x10 * z + u := by omega
        rw [digit?_eq_some_iff] at ha hb hc hd
        exact hn ▸ .four ha hb hc hd
      · cases h
    · split at h <;> cases h
  · rintro ⟨_, ⟨ha, hb, hc, hd⟩, rfl⟩
    rw [← digit?_eq_some_iff] at ha hb hc hd
    simp only [readHex, List.cons_append, List.nil_append, ha, hb, hc, hd, Except.ok.injEq,
      Prod.mk.injEq, and_true]
    omega

theorem readHex_append {ds : List Char} {n : Nat} (h : IsHex ds n) (rest : List Char) :
    readHex (ds ++ rest) = .ok (n, rest) :=
  readHex_eq_ok_iff.mpr ⟨ds, h, rfl⟩

theorem shortEscape?_eq_some_iff {e c : Char} :
    shortEscape? e = some c ↔ (e, c) ∈ shortEscapes := by
  unfold shortEscape?
  split
  case h_9 => simp_all [shortEscapes]
  all_goals simp [shortEscapes, eq_comm]

/-- A `u` begins an escape by digits, never a short one. -/
theorem ne_u_of_mem_shortEscapes {e c : Char} (h : (e, c) ∈ shortEscapes) : e ≠ 'u' := by
  rintro rfl
  simp [shortEscapes] at h

theorem skipEscape_eq_ok_iff {cs rest : List Char} :
    skipEscape cs = .ok rest ↔
      (∃ e c, (e, c) ∈ shortEscapes ∧ cs = e :: rest) ∨
        ∃ ds n, IsHex ds n ∧ cs = 'u' :: (ds ++ rest) := by
  cases cs with
  | nil => simp [skipEscape]
  | cons e cs =>
    by_cases he : e = 'u'
    · subst he
      have hu : ∀ c, ('u', c) ∉ shortEscapes := fun c h => ne_u_of_mem_shortEscapes h rfl
      have hs : skipEscape ('u' :: cs) = .ok rest ↔ ∃ ds n, IsHex ds n ∧ cs = ds ++ rest := by
        simp only [skipEscape, if_true, map_eq_ok_iff, Prod.exists, readHex_eq_ok_iff]
        constructor
        · rintro ⟨n, _, ⟨ds, h⟩, rfl⟩
          exact ⟨ds, n, h⟩
        · rintro ⟨ds, n, h⟩
          exact ⟨n, rest, ⟨ds, h⟩, rfl⟩
      simp [hs, hu]
    · cases hs : shortEscape? e with
      | none => simp [skipEscape, he, hs, ← shortEscape?_eq_some_iff]
      | some c => simp [skipEscape, he, hs, ← shortEscape?_eq_some_iff]

/-! ### Surrogate pairs -/

theorem isLeading_iff {n : Nat} : isLeading n = true ↔ ∃ high < 0x400, n = 0xD800 + high := by
  simp only [isLeading, Bool.and_eq_true, decide_eq_true_eq]
  exact ⟨fun h => ⟨n - 0xD800, by omega⟩, by omega⟩

theorem isTrailing_iff {n : Nat} : isTrailing n = true ↔ ∃ low < 0x400, n = 0xDC00 + low := by
  simp only [isTrailing, Bool.and_eq_true, decide_eq_true_eq]
  exact ⟨fun h => ⟨n - 0xDC00, by omega⟩, by omega⟩

theorem readTrailing_eq_ok_iff {leading : Nat} {cs rest : List Char} {c : Char} :
    readTrailing leading cs = .ok (c, rest) ↔
      ∃ ds low, IsHex ds (0xDC00 + low) ∧ low < 0x400 ∧ cs = '\\' :: 'u' :: (ds ++ rest) ∧
        c = Char.ofNat (0x10000 + (leading - 0xD800) * 0x400 + low) := by
  constructor
  · intro h
    unfold readTrailing at h
    split at h
    case h_1 => cases h
    case h_3 => cases h
    case h_2 cs =>
      split at h
      case h_1 => cases h
      case h_3 => cases h
      case h_2 cs =>
        split at h
        · cases h
        · next n rest' hn =>
          split at h
          · next ht =>
            obtain ⟨low, hlow, rfl⟩ := isTrailing_iff.mp ht
            simp only [Except.ok.injEq, Prod.mk.injEq] at h
            obtain ⟨hc, rfl⟩ := h
            obtain ⟨ds, hds, rfl⟩ := readHex_eq_ok_iff.mp hn
            exact ⟨ds, low, hds, hlow, rfl, by rw [← hc, Nat.add_sub_cancel_left]⟩
          · cases h
  · rintro ⟨ds, low, hds, hlow, rfl, rfl⟩
    simp only [readTrailing, readHex_eq_ok_iff.mpr ⟨ds, hds, rfl⟩,
      isTrailing_iff.mpr ⟨low, hlow, rfl⟩, if_true, Nat.add_sub_cancel_left]

/-- The numbers of characters are those of neither half of a pair. -/
theorem not_isLeading_toNat (c : Char) :
    isLeading c.toNat = false ∧ isTrailing c.toNat = false := by
  have hv : c.toNat < 0xD800 ∨ 0xDFFF < c.toNat ∧ c.toNat < 0x110000 := c.valid
  simp only [isLeading, isTrailing, Bool.and_eq_false_iff, decide_eq_false_iff_not]
  omega

theorem readEscape_eq_ok_iff {cs rest : List Char} {c : Char} :
    readEscape cs = .ok (c, rest) ↔ ∃ w, SpellsChar ('\\' :: w) c ∧ cs = w ++ rest := by
  constructor
  · intro h
    unfold readEscape at h
    split at h
    case h_1 => cases h
    case h_2 e cs =>
      split at h
      · next he =>
        subst he
        split at h
        · cases h
        · next n rest' hn =>
          obtain ⟨ds, hds, rfl⟩ := readHex_eq_ok_iff.mp hn
          have hlt := hds.lt
          split at h
          · cases h
          split at h
          · next hl =>
            obtain ⟨high, hhigh, rfl⟩ := isLeading_iff.mp hl
            obtain ⟨ds', low, hds', hlow, rfl, rfl⟩ := readTrailing_eq_ok_iff.mp h
            refine ⟨'u' :: (ds ++ '\\' :: 'u' :: ds'), .pair hds hds' hhigh hlow ?_, by simp⟩
            rw [Nat.add_sub_cancel_left, Text.Utf8.toNat_ofNat (by omega)]
            omega
          · next ht hl =>
            simp only [Except.ok.injEq, Prod.mk.injEq] at h
            obtain ⟨rfl, rfl⟩ := h
            refine ⟨'u' :: ds, .hex ?_, rfl⟩
            rw [Text.Utf8.toNat_ofNat]
            · exact hds
            · simp only [isLeading, isTrailing, Bool.and_eq_true, decide_eq_true_eq] at hl ht
              omega
      · split at h
        · next hs =>
          simp only [Except.ok.injEq, Prod.mk.injEq] at h
          obtain ⟨rfl, rfl⟩ := h
          exact ⟨[e], .short (shortEscape?_eq_some_iff.mp hs), rfl⟩
        · cases h
  · rintro ⟨w, hw, rfl⟩
    cases hw with
    | plain h => exact absurd rfl h.2.2
    | @short e _ h =>
      simp [readEscape, ne_u_of_mem_shortEscapes h, shortEscape?_eq_some_iff.mpr h]
    | hex h =>
      simp [readEscape, readHex_append h, not_isLeading_toNat c]
    | @pair ds ds' _ high low h h' hhigh hlow hc =>
      have hl : isLeading (0xD800 + high) = true := isLeading_iff.mpr ⟨high, hhigh, rfl⟩
      have ht : isTrailing (0xD800 + high) = false := by
        simp only [isTrailing, Bool.and_eq_false_iff, decide_eq_false_iff_not]
        omega
      have hr : readTrailing (0xD800 + high) ('\\' :: 'u' :: (ds' ++ rest)) = .ok (c, rest) := by
        refine readTrailing_eq_ok_iff.mpr ⟨ds', low, h', hlow, rfl, ?_⟩
        rw [Nat.add_sub_cancel_left, Nat.mul_comm, ← hc, Char.ofNat_toNat]
      simp [readEscape, readHex_append h, ht, hl, hr]

/-! ### Strings -/

theorem isControl_iff {c : Char} : isControl c = true ↔ ¬ 0x20 ≤ c.toNat := by
  simp [isControl]

theorem readChars_plain {c : Char} (h : IsPlain c) (cs : List Char) :
    readChars (c :: cs) = (readChars cs).map fun (s, rest) => (c :: s, rest) := by
  have hc : isControl c = false := Bool.eq_false_iff.mpr fun hc => isControl_iff.mp hc h.1
  rw [readChars, if_neg h.2.1, if_neg h.2.2, hc, if_neg Bool.false_ne_true]

theorem readChars_escape {cs rest : List Char} {c : Char} (h : readEscape cs = .ok (c, rest)) :
    readChars ('\\' :: cs) = (readChars rest).map fun (s, rest) => (c :: s, rest) := by
  rw [readChars, if_neg (by decide), if_pos rfl]
  split
  · next he => simp [h] at he
  · next he =>
    simp only [h, Except.ok.injEq, Prod.mk.injEq] at he
    obtain ⟨rfl, rfl⟩ := he
    rfl

/-- A character is read from any of the ways to write it. -/
theorem readChars_append {w : List Char} {c : Char} (hw : SpellsChar w c) (cs : List Char) :
    readChars (w ++ cs) = (readChars cs).map fun (s, rest) => (c :: s, rest) := by
  have escaped {w : List Char} (hw : SpellsChar ('\\' :: w) c) :
      readChars ('\\' :: w ++ cs) = (readChars cs).map fun (s, rest) => (c :: s, rest) :=
    readChars_escape (readEscape_eq_ok_iff.mpr ⟨w, hw, rfl⟩)
  cases hw with
  | plain h => exact readChars_plain h cs
  | short h => exact escaped (.short h)
  | hex h => exact escaped (.hex h)
  | pair h h' hhigh hlow hc => exact escaped (.pair h h' hhigh hlow hc)

theorem skipString_plain {c : Char} (h : IsPlain c) (cs : List Char) :
    skipString (c :: cs) = skipString cs := by
  have hc : isControl c = false := Bool.eq_false_iff.mpr fun hc => isControl_iff.mp hc h.1
  rw [skipString, if_neg h.2.1, if_neg h.2.2, hc, if_neg Bool.false_ne_true]

theorem skipString_escape {cs rest : List Char} (h : skipEscape cs = .ok rest) :
    skipString ('\\' :: cs) = skipString rest := by
  rw [skipString, if_neg (by decide), if_pos rfl]
  split
  · next he => simp [h] at he
  · next he => rw [h, Except.ok.injEq] at he; rw [he]

theorem readChars_eq_ok_iff {cs s rest : List Char} :
    readChars cs = .ok (s, rest) ↔ ∃ k, Spells k s ∧ cs = k ++ '"' :: rest := by
  constructor
  · intro h
    fun_induction readChars cs generalizing s rest with
    | case1 => cases h
    | case2 cs =>
      simp only [Except.ok.injEq, Prod.mk.injEq] at h
      obtain ⟨rfl, rfl⟩ := h
      exact ⟨[], .nil, rfl⟩
    | case3 => cases h
    | case4 cs c rest' hc hlt hne ih =>
      simp only [map_eq_ok_iff, Prod.exists, Prod.mk.injEq] at h
      obtain ⟨s', _, hr, rfl, rfl⟩ := h
      obtain ⟨k, hk, rfl⟩ := ih hr
      obtain ⟨w, hw, rfl⟩ := readEscape_eq_ok_iff.mp hc
      exact ⟨'\\' :: w ++ k, .cons hw hk, by simp⟩
    | case5 => cases h
    | case6 c cs hq hb hctl ih =>
      simp only [map_eq_ok_iff, Prod.exists, Prod.mk.injEq] at h
      obtain ⟨s', _, hr, rfl, rfl⟩ := h
      obtain ⟨k, hk, rfl⟩ := ih hr
      have hc : 0x20 ≤ c.toNat := by rwa [isControl_iff, Decidable.not_not] at hctl
      exact ⟨[c] ++ k, .cons (.plain ⟨hc, hq, hb⟩) hk, rfl⟩
  · rintro ⟨k, hk, rfl⟩
    induction hk with
    | nil => simp [readChars]
    | @cons w k s c hw hk ih =>
      rw [List.append_assoc, readChars_append hw, ih]
      rfl

theorem skipString_eq_ok_iff {cs rest : List Char} :
    skipString cs = .ok rest ↔ ∃ k, IsBody k ∧ cs = k ++ '"' :: rest := by
  constructor
  · intro h
    fun_induction skipString cs generalizing rest with
    | case1 => cases h
    | case2 cs =>
      simp only [Except.ok.injEq] at h
      exact ⟨[], .nil, by rw [h]; rfl⟩
    | case3 => cases h
    | case4 cs rest' he hlt hne ih =>
      obtain ⟨k, hk, rfl⟩ := ih h
      rcases skipEscape_eq_ok_iff.mp he with ⟨e, c, hs, rfl⟩ | ⟨ds, n, hd, rfl⟩
      · exact ⟨_, .short hs hk, rfl⟩
      · exact ⟨_, .hex hd hk, by simp⟩
    | case5 => cases h
    | case6 c cs hq hb hctl ih =>
      obtain ⟨k, hk, rfl⟩ := ih h
      have hc : 0x20 ≤ c.toNat := by rwa [isControl_iff, Decidable.not_not] at hctl
      exact ⟨c :: k, .plain ⟨hc, hq, hb⟩ hk, rfl⟩
  · rintro ⟨k, hk, rfl⟩
    induction hk with
    | nil => simp [skipString]
    | plain h hk ih => rw [List.cons_append, skipString_plain h, ih]
    | short h hk ih =>
      exact (skipString_escape (skipEscape_eq_ok_iff.mpr (.inl ⟨_, _, h, rfl⟩))).trans ih
    | @hex ds k n h hk ih =>
      have he : skipEscape ('u' :: (ds ++ k) ++ '"' :: rest) = .ok (k ++ '"' :: rest) :=
        skipEscape_eq_ok_iff.mpr (.inr ⟨ds, n, h, by simp⟩)
      exact (skipString_escape he).trans ih

theorem skipString_append {k : List Char} (h : IsBody k) (rest : List Char) :
    skipString (k ++ '"' :: rest) = .ok rest :=
  skipString_eq_ok_iff.mpr ⟨k, h, rfl⟩

/-- A body ends in one place only. -/
theorem IsBody.unique {k k' rest rest' : List Char} (h : IsBody k) (h' : IsBody k')
    (heq : k ++ '"' :: rest = k' ++ '"' :: rest') : k = k' ∧ rest = rest' := by
  have hr := skipString_append h rest
  rw [heq, skipString_append h', Except.ok.injEq] at hr
  subst hr
  exact ⟨List.append_cancel_right heq, rfl⟩

/-- A body spells one text only. -/
theorem Spells.unique {k s s' : List Char} (h : Spells k s) (h' : Spells k s') : s = s' := by
  have hr : readChars (k ++ ['"']) = .ok (s, []) := readChars_eq_ok_iff.mpr ⟨k, h, rfl⟩
  have hr' : readChars (k ++ ['"']) = .ok (s', []) := readChars_eq_ok_iff.mpr ⟨k, h', rfl⟩
  rw [hr, Except.ok.injEq, Prod.mk.injEq] at hr'
  exact hr'.1

theorem Spells.isBody {k s : List Char} (h : Spells k s) : IsBody k := by
  induction h with
  | nil => exact .nil
  | cons hw hk ih =>
    cases hw with
    | plain h => exact .plain h ih
    | short h => exact .short h ih
    | hex h => exact .hex h ih
    | pair h h' hhigh hlow hc =>
      rw [List.cons_append, List.cons_append, List.append_assoc]
      exact .hex h (.hex h' ih)

theorem readString_eq_ok_iff {cs rest : List Char} {s : String} :
    readString cs = .ok (s, rest) ↔ ∃ k, Spells k s.toList ∧ cs = k ++ '"' :: rest := by
  simp only [readString, map_eq_ok_iff, Prod.exists, Prod.mk.injEq, readChars_eq_ok_iff]
  constructor
  · rintro ⟨s, _, h, rfl, rfl⟩
    rwa [String.toList_ofList]
  · exact fun h => ⟨s.toList, rest, h, String.ofList_toList, rfl⟩

/-! ### Plain characters -/

/-- Plain characters spell themselves. -/
theorem spells_self {s : List Char} (h : s.all fun c => decide (IsPlain c)) : Spells s s := by
  induction s with
  | nil => exact .nil
  | cons c s ih =>
    rw [List.all_cons, Bool.and_eq_true, decide_eq_true_eq] at h
    exact .cons (w := [c]) (.plain h.1) (ih h.2)

end AmqpReturns.Json
