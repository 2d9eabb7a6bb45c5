import AmqpReturns.Json.Number
import AmqpReturns.Proofs.Json.Tokens
import Mathlib.Data.List.Induction

/-!
# Proofs — numbers

A number ends where no more of it can follow (`Ends`).  Skipping takes one number of the grammar
off a text (`of_skipNumber`), and all of it when it ends there (`skipNumber_append`).  Reading
gives an integer for plain digits only, the one they write (`of_readNumber`), as long as 64 bits
hold it (`readNumber_append`); a fraction, an exponent or a minus sign before zero make a double of
whatever value.
-/

namespace AmqpReturns.Json

theorem isDigit_eq (c : Char) : isDigit c = c.isDigit := rfl

/-! ### Where digits and numbers end -/

/-- The text does not go on with a digit. -/
def NoDigit (cs : List Char) : Prop :=
  ∀ c ∈ cs.head?, c.isDigit = false

/-- The text goes on with nothing that belongs to a number. -/
def Ends (cs : List Char) : Prop :=
  ∀ c ∈ cs.head?, c.isDigit = false ∧ c ∉ ['.', 'e', 'E']

theorem Ends.noDigit {cs : List Char} (h : Ends cs) : NoDigit cs := fun c hc => (h c hc).1

theorem ends_cons {c : Char} (h : c.isDigit = false ∧ c ∉ ['.', 'e', 'E']) (cs : List Char) :
    Ends (c :: cs) := by
  rintro _ ⟨⟩
  exact h

theorem Ends.append {bs cs : List Char} (h : Ends cs) (hbs : Blanks bs) : Ends (bs ++ cs) := by
  cases bs with
  | nil => exact h
  | cons c bs =>
    have blank : ∀ c ∈ [' ', '\t', '\n', '\r'], c.isDigit = false ∧ c ∉ ['.', 'e', 'E'] := by
      simp
    exact ends_cons (blank c (hbs c List.mem_cons_self)) _

theorem Blanks.ends {bs : List Char} (hbs : Blanks bs) : Ends bs := by
  have hnil : Ends [] := fun _ hc => absurd hc (by simp)
  have h := hnil.append hbs
  rwa [List.append_nil] at h

theorem spanDigits_append {ds rest : List Char} (h : ∀ d ∈ ds, d.isDigit) (hrest : NoDigit rest) :
    spanDigits (ds ++ rest) = (ds, rest) := by
  have hr : rest.takeWhile isDigit = [] ∧ rest.dropWhile isDigit = rest := by
    cases rest with
    | nil => exact ⟨rfl, rfl⟩
    | cons c rest => simp [isDigit_eq, hrest c rfl]
  have hds : ∀ d ∈ ds, isDigit d := h
  rw [spanDigits, List.takeWhile_append_of_pos hds, List.dropWhile_append_of_pos hds, hr.1, hr.2,
    List.append_nil]

theorem of_spanDigits {cs ds rest : List Char} (h : spanDigits cs = (ds, rest)) :
    (∀ d ∈ ds, d.isDigit) ∧ cs = ds ++ rest := by
  obtain ⟨rfl, rfl⟩ := Prod.mk.inj h
  exact ⟨fun d hd => List.mem_takeWhile_imp hd, (List.takeWhile_append_dropWhile).symm⟩

theorem noDigit_exponent {e rest : List Char} (he : IsExponent e) (hrest : Ends rest) :
    NoDigit (e ++ rest) ∧ (e ++ rest).head? ≠ some '.' := by
  cases he with
  | none => exact ⟨hrest.noDigit, fun h => (hrest '.' h).2 (by simp)⟩
  | some he hs h =>
    simp only [List.mem_cons, List.not_mem_nil, or_false] at he
    rcases he with rfl | rfl <;> exact ⟨fun c hc => by cases hc; rfl, by simp⟩

theorem noDigit_fraction {f rest : List Char} (hf : IsFraction f) (hrest : NoDigit rest) :
    NoDigit (f ++ rest) := by
  cases hf with
  | none => exact hrest
  | some h => exact fun c hc => by cases hc; rfl

/-! ### Skipping -/

theorem of_skipDigits {cs rest : List Char} (h : skipDigits cs = .ok rest) :
    ∃ ds, IsDigits ds ∧ cs = ds ++ rest := by
  unfold skipDigits at h
  split at h
  · cases h
  · next ds rest' hne heq =>
    obtain ⟨hds, rfl⟩ := of_spanDigits heq
    rw [Except.ok.injEq] at h
    subst h
    exact ⟨ds, ⟨fun hnil => hne hnil, hds⟩, rfl⟩

theorem skipDigits_append {ds rest : List Char} (h : IsDigits ds) (hrest : NoDigit rest) :
    skipDigits (ds ++ rest) = .ok rest := by
  obtain ⟨d, ds, rfl⟩ := List.exists_cons_of_ne_nil h.1
  rw [skipDigits, spanDigits_append h.2 hrest]

theorem of_readSign (cs : List Char) :
    ∃ sign ∈ [[], ['+'], ['-']], cs = sign ++ (readSign cs).2 := by
  unfold readSign
  split
  · exact ⟨['+'], by simp, rfl⟩
  · exact ⟨['-'], by simp, rfl⟩
  · exact ⟨[], by simp, rfl⟩

theorem readSign_append {sign ds rest : List Char} (hs : sign ∈ [[], ['+'], ['-']])
    (h : IsDigits ds) : (readSign (sign ++ (ds ++ rest))).2 = ds ++ rest := by
  obtain ⟨d, ds, rfl⟩ := List.exists_cons_of_ne_nil h.1
  have hd : d.isDigit := h.2 d List.mem_cons_self
  simp only [List.mem_cons, List.not_mem_nil, or_false] at hs
  rcases hs with rfl | rfl | rfl
  · unfold readSign
    split
    · next heq => cases heq; simp at hd
    · next heq => cases heq; simp at hd
    · rfl
  · rfl
  · rfl

theorem of_skipExponent {cs rest : List Char} (h : skipExponent cs = .ok rest) :
    ∃ e, IsExponent e ∧ cs = e ++ rest := by
  have exponent {e : Char} {cs : List Char} (he : e ∈ ['e', 'E'])
      (h : skipDigits (readSign cs).2 = .ok rest) :
      ∃ w, IsExponent w ∧ e :: cs = w ++ rest := by
    obtain ⟨ds, hds, heq⟩ := of_skipDigits h
    obtain ⟨sign, hs, hcs⟩ := of_readSign cs
    exact ⟨e :: (sign ++ ds), .some he hs hds, by rw [hcs, heq]; simp⟩
  unfold skipExponent at h
  split at h
  · exact exponent (by simp) h
  · exact exponent (by simp) h
  · rw [Except.ok.injEq] at h
    exact ⟨[], .none, h⟩

theorem skipExponent_append {e rest : List Char} (he : IsExponent e) (hrest : Ends rest) :
    skipExponent (e ++ rest) = .ok rest := by
  cases he with
  | none =>
    unfold skipExponent
    split
    · next heq => exact absurd (by simp) (hrest 'e' (congrArg List.head? heq)).2
    · next heq => exact absurd (by simp) (hrest 'E' (congrArg List.head? heq)).2
    · rfl
  | @some e sign ds he hs h =>
    have hd : skipDigits (readSign (sign ++ (ds ++ rest))).2 = .ok rest := by
      rw [readSign_append hs h, skipDigits_append h hrest.noDigit]
    simp only [List.mem_cons, List.not_mem_nil, or_false] at he
    rcases he with rfl | rfl <;> simpa [skipExponent] using hd

theorem of_skipFraction {cs rest : List Char} (h : skipFraction cs = .ok rest) :
    ∃ f e, IsFraction f ∧ IsExponent e ∧ cs = f ++ (e ++ rest) := by
  unfold skipFraction at h
  split at h
  · obtain ⟨rest', hd, hr⟩ := bind_eq_ok_iff.mp h
    obtain ⟨ds, hds, rfl⟩ := of_skipDigits hd
    obtain ⟨e, he, rfl⟩ := of_skipExponent hr
    exact ⟨'.' :: ds, e, .some hds, he, rfl⟩
  · obtain ⟨e, he, rfl⟩ := of_skipExponent h
    exact ⟨[], e, .none, he, rfl⟩

theorem skipFraction_append {f e rest : List Char} (hf : IsFraction f) (he : IsExponent e)
    (hrest : Ends rest) : skipFraction (f ++ (e ++ rest)) = .ok rest := by
  obtain ⟨hnd, hdot⟩ := noDigit_exponent he hrest
  cases hf with
  | none =>
    unfold skipFraction
    split
    · next heq => exact absurd (congrArg List.head? heq) hdot
    · exact skipExponent_append he hrest
  | @some ds h =>
    show skipDigits (ds ++ (e ++ rest)) >>= skipExponent = .ok rest
    rw [skipDigits_append h hnd]
    exact skipExponent_append he hrest

/-- The text after a number without its sign. -/
def skipUnsigned (cs : List Char) : Except Fault (List Char) :=
  match spanDigits cs with
  | ([], _) => .error .invalidNumber
  | ('0' :: _ :: _, _) => .error .invalidNumber
  | (_, rest) => skipFraction rest

theorem skipNumber_of_ne {cs : List Char} (h : cs.head? ≠ some '-') :
    skipNumber cs = skipUnsigned cs := by
  cases cs with
  | nil => rfl
  | cons c cs =>
    have hc : c ≠ '-' := fun hc => h (congrArg some hc)
    simp only [skipNumber, List.cons.injEq, hc, false_and, imp_false, not_false_eq_true,
      implies_true]
    rfl

theorem isInteger_of_ne {ds : List Char} (hne : ds ≠ []) (hds : ∀ d ∈ ds, d.isDigit)
    (hzero : ∀ d ds', ds ≠ '0' :: d :: ds') : IsInteger ds := by
  refine ⟨⟨hne, hds⟩, fun hd => ?_⟩
  match ds, hd with
  | [_], rfl => rfl
  | _ :: d :: ds, rfl => exact (hzero d ds rfl).elim

theorem of_skipUnsigned {cs rest : List Char} (h : skipUnsigned cs = .ok rest) :
    ∃ i f e, IsInteger i ∧ IsFraction f ∧ IsExponent e ∧ cs = i ++ (f ++ (e ++ rest)) := by
  unfold skipUnsigned at h
  split at h
  · cases h
  · cases h
  · next ds rest' hne hzero heq =>
    obtain ⟨hds, rfl⟩ := of_spanDigits heq
    obtain ⟨f, e, hf, he, rfl⟩ := of_skipFraction h
    exact ⟨ds, f, e, isInteger_of_ne hne hds hzero, hf, he, rfl⟩

theorem skipUnsigned_append {i f e rest : List Char} (hi : IsInteger i) (hf : IsFraction f)
    (he : IsExponent e) (hrest : Ends rest) :
    skipUnsigned (i ++ (f ++ (e ++ rest))) = .ok rest := by
  have hnd : NoDigit (f ++ (e ++ rest)) := noDigit_fraction hf (noDigit_exponent he hrest).1
  rw [skipUnsigned, spanDigits_append hi.1.2 hnd]
  split
  · next heq => exact absurd (Prod.mk.inj heq).1 hi.1.1
  · next heq =>
    obtain ⟨rfl, -⟩ := Prod.mk.inj heq
    exact absurd (hi.2 rfl) (by simp)
  · next heq =>
    obtain ⟨-, rfl⟩ := Prod.mk.inj heq
    exact skipFraction_append hf he hrest

/-- An integer part does not begin with a minus sign. -/
theorem IsInteger.head?_ne {i : List Char} (hi : IsInteger i) (rest : List Char) :
    (i ++ rest).head? ≠ some '-' := by
  obtain ⟨d, ds, rfl⟩ := List.exists_cons_of_ne_nil hi.1.1
  rintro h
  cases h
  exact absurd (hi.1.2 '-' List.mem_cons_self) (by decide)

theorem IsInteger.isNumber {i : List Char} (hi : IsInteger i) : IsNumber i := by
  have h : IsNumber ([] ++ (i ++ ([] ++ []))) := .parts (by simp) hi .none .none
  rwa [List.nil_append, List.nil_append, List.append_nil] at h

/-- A number begins with a digit or a minus sign. -/
theorem IsNumber.head {w : List Char} (h : IsNumber w) :
    ∃ c cs, w = c :: cs ∧ (c.isDigit ∨ c = '-') := by
  obtain @⟨sign, i, f, e, hs, hi, -, -⟩ := h
  simp only [List.mem_cons, List.not_mem_nil, or_false] at hs
  rcases hs with rfl | rfl
  · obtain ⟨d, ds, rfl⟩ := List.exists_cons_of_ne_nil hi.1.1
    exact ⟨d, _, rfl, .inl (hi.1.2 d List.mem_cons_self)⟩
  · exact ⟨'-', _, rfl, .inr rfl⟩

theorem of_skipNumber {cs rest : List Char} (h : skipNumber cs = .ok rest) :
    ∃ w, IsNumber w ∧ cs = w ++ rest := by
  by_cases hm : cs.head? = some '-'
  · obtain ⟨cs, rfl⟩ : ∃ cs', cs = '-' :: cs' := List.head?_eq_some_iff.mp hm
    obtain ⟨i, f, e, hi, hf, he, rfl⟩ := of_skipUnsigned h
    exact ⟨['-'] ++ (i ++ (f ++ e)), .parts (by simp) hi hf he, by simp⟩
  · rw [skipNumber_of_ne hm] at h
    obtain ⟨i, f, e, hi, hf, he, rfl⟩ := of_skipUnsigned h
    exact ⟨[] ++ (i ++ (f ++ e)), .parts (by simp) hi hf he, by simp⟩

theorem skipNumber_append {w rest : List Char} (h : IsNumber w) (hrest : Ends rest) :
    skipNumber (w ++ rest) = .ok rest := by
  obtain @⟨sign, i, f, e, hs, hi, hf, he⟩ := h
  simp only [List.mem_cons, List.not_mem_nil, or_false] at hs
  simp only [List.append_assoc]
  rcases hs with rfl | rfl
  · exact (skipNumber_of_ne (hi.head?_ne _)).trans (skipUnsigned_append hi hf he hrest)
  · exact skipUnsigned_append hi hf he hrest

/-! ### Decimal digits -/

theorem isInteger_toDigits (n : Nat) : IsInteger (Nat.toDigits 10 n) := by
  refine ⟨⟨Nat.toDigits_ne_nil, fun d => Nat.isDigit_of_mem_toDigits (by decide) (by decide)⟩, ?_⟩
  induction n using Nat.strongRecOn with
  | ind n ih =>
    rcases Nat.lt_or_ge n 10 with hn | hn
    · rw [Nat.toDigits_of_lt_base hn]
      exact fun h => congrArg (· :: []) (Option.some.inj h)
    · -- the digits begin with those of `n / 10`, which is not zero
      rw [Nat.toDigits_of_base_le (by decide) hn, List.head?_append_of_ne_nil _ Nat.toDigits_ne_nil]
      intro h
      have hz := congrArg (Nat.ofDigitChars 10 · 0) (ih (n / 10) (by omega) h)
      simp only [Nat.ofDigitChars_ten_toDigits] at hz
      have : n / 10 = 0 := hz
      omega

theorem exists_digitChar {d : Char} (h : d.isDigit) : ∃ x < 10, d = Nat.digitChar x := by
  have table : ∀ n < 58, 48 ≤ n → Char.ofNat n = Nat.digitChar (n - 48) := by decide
  simp only [Char.isDigit_iff_toNat, Char.reduceToNat] at h
  refine ⟨d.toNat - 48, by omega, ?_⟩
  rw [← table d.toNat (by omega) (by omega), Char.ofNat_toNat]

/-- Digits are those of the number they write. -/
theorem IsInteger.eq_toDigits {ds : List Char} (h : IsInteger ds) :
    ds = Nat.toDigits 10 (Nat.ofDigitChars 10 ds 0) := by
  induction ds using List.reverseRecOn with
  | nil => exact absurd rfl h.1.1
  | append_singleton ds d ih =>
    obtain ⟨x, hx, rfl⟩ := exists_digitChar (h.1.2 d (by simp))
    rw [Nat.ofDigitChars_append, Nat.ofDigitChars_cons_digitChar_of_lt_ten hx, Nat.ofDigitChars_nil]
    rcases eq_or_ne ds [] with rfl | hne
    · rw [Nat.ofDigitChars_nil, Nat.mul_zero, Nat.zero_add, Nat.toDigits_of_lt_base hx,
        List.nil_append]
    · have hhead : ds.head? ≠ some '0' := fun hz => by
        have := h.2 (by rw [List.head?_append_of_ne_nil _ hne, hz])
        exact hne (List.append_eq_singleton_iff.mp this |>.resolve_right (by simp) |>.1)
      have hds : ds = Nat.toDigits 10 (Nat.ofDigitChars 10 ds 0) :=
        ih ⟨⟨hne, fun c hc => h.1.2 c (List.mem_append_left _ hc)⟩, fun hz => absurd hz hhead⟩
      have hpos : 0 < Nat.ofDigitChars 10 ds 0 := Nat.pos_of_ne_zero fun hz => by
        rw [hz] at hds
        exact hhead (hds ▸ rfl)
      rw [← Nat.toDigits_append_toDigits (by decide) hpos hx, ← hds, Nat.toDigits_of_lt_base hx]

theorem le_ofDigitChars (n : Nat) (ds : List Char) : n ≤ Nat.ofDigitChars 10 ds n := by
  induction ds generalizing n with
  | nil => exact Nat.le_of_eq Nat.ofDigitChars_nil.symm
  | cons d ds ih =>
    rw [Nat.ofDigitChars_cons]
    have := ih (10 * n + (d.toNat - '0'.toNat))
    omega

theorem appendDigits_of_lt {n : Nat} {ds : List Char}
    (h : Nat.ofDigitChars 10 ds n < UInt64.size) :
    appendDigits n ds = (Nat.ofDigitChars 10 ds n, 0) := by
  induction ds generalizing n with
  | nil => rfl
  | cons d ds ih =>
    rw [Nat.ofDigitChars_cons] at h ⊢
    have hn := le_ofDigitChars (10 * n + (d.toNat - '0'.toNat)) ds
    rw [appendDigits, digitValue, Nat.mul_comm, if_pos (by omega), ih h]

theorem of_appendDigits {n m : Nat} {ds : List Char} (h : appendDigits n ds = (m, 0)) :
    m = Nat.ofDigitChars 10 ds n := by
  induction ds generalizing n with
  | nil => exact (Prod.mk.inj h).1.symm
  | cons d ds ih =>
    rw [appendDigits, digitValue, Nat.mul_comm] at h
    split at h
    · exact (ih h).trans Nat.ofDigitChars_cons.symm
    · exact absurd (Prod.mk.inj h).2 (Nat.succ_ne_zero _)

/-! ### Reading integers -/

/-- The number is a double. -/
def Number.IsReal (v : Number) : Prop :=
  ∃ bits, v = .real bits

theorem isReal_of_toDouble {negative : Bool} {n : Nat} {e : Int} {v : Number}
    (h : toDouble negative n e = .ok v) : v.IsReal := by
  obtain ⟨f, -, rfl⟩ := map_eq_ok_iff.mp h
  exact ⟨_, rfl⟩

theorem isReal_of_toDouble_map {negative : Bool} {n : Nat} {e : Int} {v : Number}
    {rest rest' : List Char} (h : (toDouble negative n e).map (·, rest) = .ok (v, rest')) :
    v.IsReal := by
  obtain ⟨v', hv, heq⟩ := map_eq_ok_iff.mp h
  exact (Prod.mk.inj heq).1 ▸ isReal_of_toDouble hv

theorem isReal_of_readExponent {negative : Bool} {n : Nat} {e : Int} {cs rest : List Char}
    {v : Number} (h : readExponent negative n e cs = .ok (v, rest)) : v.IsReal := by
  unfold readExponent at h
  dsimp only at h
  split at h
  · cases h
  · cases h
  · split at h
    · split at h
      · cases h
      · simp only [Except.ok.injEq, Prod.mk.injEq] at h
        exact ⟨_, h.1.symm⟩
    · exact isReal_of_toDouble_map h

theorem isReal_of_readFraction {negative : Bool} {n : Nat} {e : Int} {cs rest : List Char}
    {v : Number} (h : readFraction negative n e cs = .ok (v, rest)) : v.IsReal := by
  unfold readFraction at h
  split at h
  · cases h
  · cases h
  · unfold readScale at h
    dsimp only at h
    split at h
    · exact isReal_of_readExponent h
    · exact isReal_of_readExponent h
    · exact isReal_of_toDouble_map h

theorem of_readUnsigned {negative : Bool} {cs rest : List Char} {v : Number}
    (h : readUnsigned negative cs = .ok (v, rest)) :
    v.IsReal ∨ ∃ n, cs = Nat.toDigits 10 n ++ rest ∧ v = signed negative n := by
  unfold readUnsigned at h
  split at h
  · cases h
  · cases h
  · cases h
  · next ds rest' hne hne' hzero heq =>
    obtain ⟨hds, rfl⟩ := of_spanDigits heq
    have hi : IsInteger ds := by
      refine isInteger_of_ne ?_ hds hzero
      rintro rfl
      cases rest' with
      | nil => exact hne rfl rfl
      | cons c cs => exact hne' c cs rfl rfl
    dsimp only at h
    split at h
    · exact .inl (isReal_of_readFraction h)
    · exact .inl (isReal_of_readExponent h)
    · exact .inl (isReal_of_readExponent h)
    · split at h
      · next hdrop =>
        simp only [Except.ok.injEq, Prod.mk.injEq] at h
        obtain ⟨rfl, rfl⟩ := h
        have hm := of_appendDigits (Prod.ext rfl hdrop)
        exact .inr ⟨Nat.ofDigitChars 10 ds 0, by rw [← hi.eq_toDigits],
          congrArg (signed negative) hm⟩
      · exact .inl (isReal_of_toDouble_map h)

theorem readNumber_of_ne {cs : List Char} (h : cs.head? ≠ some '-') :
    readNumber cs = readUnsigned false cs := by
  cases cs with
  | nil => rfl
  | cons c cs =>
    have hc : c ≠ '-' := fun hc => h (congrArg some hc)
    simp only [readNumber, List.cons.injEq, hc, false_and, imp_false, not_false_eq_true,
      implies_true]

/-- Only plain digits are read as an integer that is not negative. -/
theorem of_readNumber {cs rest : List Char} {v : Int} (h : readNumber cs = .ok (.integer v, rest))
    (hv : 0 ≤ v) : cs = Nat.toDigits 10 v.toNat ++ rest := by
  by_cases hm : cs.head? = some '-'
  · obtain ⟨cs, rfl⟩ : ∃ cs', cs = '-' :: cs' := List.head?_eq_some_iff.mp hm
    rcases of_readUnsigned h with ⟨_, hr⟩ | ⟨n, -, hn⟩
    · cases hr
    · simp only [signed, Bool.not_true, Bool.false_eq_true, if_false] at hn
      split at hn
      · cases hn; omega
      · cases hn
  · rw [readNumber_of_ne hm] at h
    rcases of_readUnsigned h with ⟨_, hr⟩ | ⟨n, hcs, hn⟩
    · cases hr
    · cases hn
      exact hcs

theorem readNumber_append {n : Nat} {rest : List Char} (hn : n < UInt64.size)
    (hrest : Ends rest) :
    readNumber (Nat.toDigits 10 n ++ rest) = .ok (.integer n, rest) := by
  have hi := isInteger_toDigits n
  rw [readNumber_of_ne (hi.head?_ne rest), readUnsigned, spanDigits_append hi.1.2 hrest.noDigit]
  have happend : appendDigits 0 (Nat.toDigits 10 n) = (n, 0) := by
    rw [appendDigits_of_lt (by rwa [Nat.ofDigitChars_ten_toDigits]), Nat.ofDigitChars_ten_toDigits]
  have ends {c : Char} {cs : List Char} (hc : c ∈ ['.', 'e', 'E']) (heq : rest = c :: cs) : False :=
    (hrest c (congrArg List.head? heq)).2 hc
  split
  · next heq => exact absurd (Prod.mk.inj heq).1 hi.1.1
  · next heq => exact absurd (Prod.mk.inj heq).1 hi.1.1
  · next heq =>
    have hz := (Prod.mk.inj heq).1
    exact absurd (hi.2 (by rw [hz]; rfl)) (by rw [hz]; simp)
  · next ds rest' _ _ _ heq =>
    obtain ⟨rfl, rfl⟩ := Prod.mk.inj heq
    rw [happend]
    dsimp only
    split
    · exact (ends (by simp) rfl).elim
    · exact (ends (by simp) rfl).elim
    · exact (ends (by simp) rfl).elim
    · rfl

end AmqpReturns.Json
