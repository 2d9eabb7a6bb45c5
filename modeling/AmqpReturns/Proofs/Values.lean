import AmqpReturns.Proofs.Survival

/-!
# Proofs — values of properties and of headers

A normal form holds the same number (`number?_normalize`), and reading a header value keeps its
number (`number?_of_toProperty?`).  A property and its normal form are written alike
(`ofProperty_normalize`), so what is written tells properties apart as far as their normal forms
do (`ofProperty_eq_iff`), which is all the way, but for a signed and an unsigned number that are
the same (`Property.SameNumber`).  After one trip through a header a property is in its normal
form, and stays as it is (`trips_succ`).
-/

namespace AmqpReturns

/-! ### Numbers -/

/-- The number that a property holds. -/
def Property.number? : Property → Option Int
  | .int n => some n.toInt
  | .uint n => some n.toNat
  | .bool _ | .text _ | .bytes _ => none

/-- The whole number that a header value holds.  A moment counts as its seconds. -/
def Wire.Value.number? : Value → Option Int
  | .shortShortInt n => some n.toInt
  | .shortInt n => some n.toInt
  | .longInt n => some n.toInt
  | .longLongInt n => some n.toInt
  | .shortShortUInt n => some n.toNat
  | .shortUInt n => some n.toNat
  | .longUInt n => some n.toNat
  | .timestamp n => some n.toNat
  | .boolean _ | .float _ | .double _ | .decimal _ _ | .shortString _ | .longString _
  | .fieldArray _ | .fieldTable _ | .byteArray _ | .void => none

theorem exists_uint_of_not_isSteady {p : Property} (h : ¬ p.IsSteady) : ∃ n, p = .uint n := by
  cases p with
  | uint n => exact ⟨n, rfl⟩
  | _ => exact absurd trivial h

/-- A normal form holds the same number. -/
theorem number?_normalize (p : Property) : p.normalize.number? = p.number? := by
  by_cases h : p.IsSteady
  · rw [normalize_eq_self h]
  · obtain ⟨n, rfl⟩ := exists_uint_of_not_isSteady h
    obtain ⟨hnormal, hnumber⟩ := normalize_uint h
    rw [hnormal]
    exact congrArg some hnumber

/-- **Reading a header value keeps its number**, whatever its width. -/
theorem number?_of_toProperty? {v : Wire.Value} {p : Property} (h : v.toProperty? = some p) :
    p.number? = v.number? := by
  cases v with
  | shortShortInt n => cases h; exact congrArg some (Int8.toInt_toInt64 n)
  | shortInt n => cases h; exact congrArg some (Int16.toInt_toInt64 n)
  | longInt n => cases h; exact congrArg some (Int32.toInt_toInt64 n)
  | shortShortUInt n => cases h; exact congrArg (some ∘ Nat.cast) (UInt8.toNat_toUInt64 n)
  | shortUInt n => cases h; exact congrArg (some ∘ Nat.cast) (UInt16.toNat_toUInt64 n)
  | longUInt n => cases h; exact congrArg (some ∘ Nat.cast) (UInt32.toNat_toUInt64 n)
  | float _ | double _ | decimal _ _ | fieldArray _ | fieldTable _ | void => cases h
  | _ => cases h; rfl

/-! ### What is written alike -/

/-- A property and its normal form are written alike. -/
theorem ofProperty_normalize (p : Property) :
    Wire.Value.ofProperty p.normalize = Wire.Value.ofProperty p := by
  by_cases h : p.IsSteady
  · rw [normalize_eq_self h]
  · obtain ⟨n, rfl⟩ := exists_uint_of_not_isSteady h
    obtain ⟨hlow, hhigh⟩ := not_or.mp h
    have hs : ¬ n.toNat < UInt32.size := hlow
    have hm : n.toNat < 0x8000000000000000 := Nat.not_le.mp hhigh
    rw [(normalize_uint h).1]
    simp only [Wire.Value.ofProperty]
    rw [if_neg hs, if_pos hm]

theorem ofProperty_eq_iff {p q : Property} :
    Wire.Value.ofProperty p = Wire.Value.ofProperty q ↔ p.normalize = q.normalize := by
  constructor
  · intro h
    have hread := congrArg Wire.Value.toProperty? h
    rw [toProperty?_ofProperty, toProperty?_ofProperty] at hread
    exact Option.some.inj hread
  · intro h
    rw [← ofProperty_normalize p, h, ofProperty_normalize]

/-- One number from 2^32 up to 2^63, signed in `p` and unsigned in `q`. -/
def Property.SameNumber (p q : Property) : Prop :=
  ∃ (m : Int64) (n : UInt64), p = .int m ∧ q = .uint n ∧ m.toInt = n.toNat ∧
    4294967296 ≤ n.toNat ∧ n.toNat < 9223372036854775808

/-- A normal form of another kind holds the same number, signed. -/
theorem sameNumber_normalize {p : Property} (h : ¬ p.IsSteady) : p.normalize.SameNumber p := by
  obtain ⟨n, rfl⟩ := exists_uint_of_not_isSteady h
  obtain ⟨hnormal, hnumber⟩ := normalize_uint h
  obtain ⟨hlow, hhigh⟩ := not_or.mp h
  exact ⟨n.toInt64, n, hnormal, rfl, hnumber, Nat.not_lt.mp hlow, Nat.not_le.mp hhigh⟩

/-- The number decides about the property on either side. -/
theorem Property.SameNumber.normalize_eq {p q : Property} (h : p.SameNumber q) :
    p.normalize = q.normalize := by
  obtain ⟨m, n, rfl, rfl, hmn, hlow, hhigh⟩ := h
  have hn : ¬ (Property.uint n).IsSteady := by
    simp only [Property.IsSteady]
    omega
  obtain ⟨hnormal, hnumber⟩ := normalize_uint hn
  rw [hnormal]
  exact congrArg Property.int (Int64.toInt_inj.mp (hmn.trans hnumber.symm))

/-- **Normal forms are the same** for one property, and for one number signed and unsigned. -/
theorem normalize_eq_iff {p q : Property} :
    p.normalize = q.normalize ↔ p = q ∨ p.SameNumber q ∨ q.SameNumber p := by
  constructor
  · intro h
    by_cases hp : p.IsSteady
    · rw [normalize_eq_self hp] at h
      by_cases hq : q.IsSteady
      · exact .inl (h.trans (normalize_eq_self hq))
      · exact .inr (.inl (h ▸ sameNumber_normalize hq))
    · by_cases hq : q.IsSteady
      · rw [normalize_eq_self hq] at h
        exact .inr (.inr (h ▸ sameNumber_normalize hp))
      · -- Both are unsigned numbers, and these are the same.
        obtain ⟨n, rfl⟩ := exists_uint_of_not_isSteady hp
        obtain ⟨n', rfl⟩ := exists_uint_of_not_isSteady hq
        have hnumber := congrArg Property.number? h
        rw [number?_normalize, number?_normalize] at hnumber
        have hnat : n.toNat = n'.toNat := Int.ofNat_inj.mp (Option.some.inj hnumber)
        exact .inl (congrArg Property.uint (UInt64.toNat_inj.mp hnat))
  · rintro (rfl | h | h)
    · rfl
    · exact h.normalize_eq
    · exact h.normalize_eq.symm

/-! ### Trips through a header -/

/-- The property that comes back when a property is written and read `n` times, one after the
other. -/
def Property.trips : Nat → Property → Option Property
  | 0, p => some p
  | n + 1, p => (Wire.Value.ofProperty p).toProperty?.bind (trips n)

theorem normalize_normalize (p : Property) : p.normalize.normalize = p.normalize :=
  ofProperty_eq_iff.mp (ofProperty_normalize p)

/-- From the first trip on it is the normal form that comes back. -/
theorem trips_succ (n : Nat) (p : Property) : p.trips (n + 1) = some p.normalize := by
  induction n generalizing p with
  | zero => rw [Property.trips, toProperty?_ofProperty]; rfl
  | succ n ih =>
      rw [Property.trips, toProperty?_ofProperty, Option.bind_some, ih, normalize_normalize]

/-- **Properties through headers.**  Written and read again, a property is there with the number
it had, and is itself unless that number is unsigned and lies from 2^32 up to 2^63, when it comes
back signed.  The values that are written are those that come back when they are read and written
again.  Properties are written alike when they are the same, or are one such number signed and
unsigned.  And further trips change nothing. -/
theorem properties_through_headers :
    (∀ p : Property, ∃ q, (Wire.Value.ofProperty p).toProperty? = some q ∧
      q.number? = p.number? ∧ (p.IsSteady ∧ q = p ∨ q.SameNumber p)) ∧
    (∀ v : Wire.Value, (∃ p, Wire.Value.ofProperty p = v) ↔
      v.toProperty?.map Wire.Value.ofProperty = some v) ∧
    (∀ p q : Property, Wire.Value.ofProperty p = Wire.Value.ofProperty q ↔
      p = q ∨ p.SameNumber q ∨ q.SameNumber p) ∧
    ∀ (n : Nat) (p : Property), p.trips (n + 1) = (Wire.Value.ofProperty p).toProperty? := by
  refine ⟨fun p => ⟨p.normalize, toProperty?_ofProperty p, number?_normalize p, ?_⟩, fun v => ?_,
    fun p q => ofProperty_eq_iff.trans normalize_eq_iff, fun n p => ?_⟩
  · by_cases h : p.IsSteady
    · exact .inl ⟨h, normalize_eq_self h⟩
    · exact .inr (sameNumber_normalize h)
  · constructor
    · rintro ⟨p, rfl⟩
      rw [toProperty?_ofProperty, Option.map_some, ofProperty_normalize]
    · intro h
      obtain ⟨p, -, hp⟩ := Option.map_eq_some_iff.mp h
      exact ⟨p, hp⟩
  · rw [trips_succ, toProperty?_ofProperty]

/-- The least number that comes back signed, and the least that does not any more. -/
example : (Property.uint 4294967296).trips 2 = some (.int 4294967296) ∧
    (Property.uint 9223372036854775808).trips 2 = some (.uint 9223372036854775808) := by
  decide

end AmqpReturns
