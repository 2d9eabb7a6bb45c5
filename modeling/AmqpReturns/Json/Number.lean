import AmqpReturns.Json.Fault

/-!
# Json — numbers

A number without a point and an exponent is an integer as long as 64 bits hold it; every other
number is a double.  A double is computed from the digits that fit into 64 bits and a power of
ten, by one multiplication or division, so it need not be the nearest one.
-/

namespace AmqpReturns.Json

/-- A number as it was read. -/
inductive Number where
  | integer (v : Int)
  /-- A double, by its bits. -/
  | real (bits : UInt64)
  deriving DecidableEq, Repr

/-- A number where something else was asked for. -/
def Number.found : Number → Found
  | .integer v => .integer v
  | .real bits => .real bits

/-- The decimal digits. -/
def isDigit (c : Char) : Bool :=
  '0' ≤ c && c ≤ '9'

/-- The value of a decimal digit. -/
def digitValue (c : Char) : Nat :=
  c.toNat - '0'.toNat

/-- The digits at the head of a text, and the rest. -/
def spanDigits (cs : List Char) : List Char × List Char :=
  (cs.takeWhile isDigit, cs.dropWhile isDigit)

/-- Appends digits to a number while it fits into 64 bits: the number, and how many digits were
left out. -/
def appendDigits (n : Nat) : List Char → Nat × Nat
  | [] => (n, 0)
  | d :: ds =>
    let n' := n * 10 + digitValue d
    if n' < UInt64.size then appendDigits n' ds else (n, ds.length + 1)

/-! ### Doubles -/

/-- `f * 10 ^ e`.  Powers below those a double can hold are divided out in two goes. -/
def scaled (f : Float) (e : Int) : Except Fault Float :=
  if e.natAbs ≤ 308 then
    let power := Float.ofScientific 1 false e.natAbs
    if 0 ≤ e then
      let g := f * power
      if g.isInf then .error .numberOutOfRange else .ok g
    else .ok (f / power)
  else if f == 0 then .ok f
  else if 0 ≤ e then .error .numberOutOfRange
  else scaled (f / Float.ofScientific 1 false 308) (e + 308)
termination_by e.natAbs
decreasing_by omega

/-- The double `significand * 10 ^ exponent`, with its sign. -/
def toDouble (negative : Bool) (significand : Nat) (exponent : Int) : Except Fault Number :=
  (scaled significand.toUInt64.toFloat exponent).map fun f =>
    .real (if negative then -f else f).toBits

/-- Exponents above this one are not computed. -/
def greatestExponent : Nat := 0x7FFFFFFF

/-- The sign of an exponent, `true` for minus, and the text after it. -/
def readSign : List Char → Bool × List Char
  | '+' :: cs => (false, cs)
  | '-' :: cs => (true, cs)
  | cs => (false, cs)

/-- The number whose exponent follows, after its `e`. -/
def readExponent (negative : Bool) (significand : Nat) (exponent : Int) (cs : List Char) :
    Read Number :=
  let (down, cs) := readSign cs
  match spanDigits cs with
  | ([], []) => .error .endInValue
  | ([], _ :: _) => .error .invalidNumber
  | (ds, rest) =>
    let e := ds.foldl (fun n d => n * 10 + digitValue d) 0
    if greatestExponent < e then
      if significand ≠ 0 ∧ !down then .error .numberOutOfRange
      else .ok (.real (if negative then -0.0 else 0.0 : Float).toBits, rest)
    else (toDouble negative significand (if down then exponent - e else exponent + e)).map (·, rest)

/-- The number after its digits, which are complete unless an exponent follows. -/
def readScale (negative : Bool) (significand : Nat) (exponent : Int) (cs : List Char) :
    Read Number :=
  match cs with
  | 'e' :: rest | 'E' :: rest => readExponent negative significand exponent rest
  | rest => (toDouble negative significand exponent).map (·, rest)

/-- The number whose fraction follows, after its point.  Digits that do not fit are left out. -/
def readFraction (negative : Bool) (significand : Nat) (exponent : Int) (cs : List Char) :
    Read Number :=
  match spanDigits cs with
  | ([], []) => .error .endInValue
  | ([], _ :: _) => .error .invalidNumber
  | (ds, rest) =>
    let (significand, dropped) := appendDigits significand ds
    readScale negative significand (exponent - (ds.length - dropped : Nat)) rest

/-- The integer of a sign and an absolute value, or the double where 64 bits do not hold it.
Minus zero is a double. -/
def signed (negative : Bool) (n : Nat) : Number :=
  if !negative then .integer n
  else if 0 < n ∧ n ≤ 0x8000000000000000 then .integer (-n)
  else .real (-n.toUInt64.toFloat).toBits

/-! ### Reading and skipping -/

/-- A number without its sign. -/
def readUnsigned (negative : Bool) (cs : List Char) : Read Number :=
  match spanDigits cs with
  | ([], []) => .error .endInValue
  | ([], _ :: _) => .error .invalidNumber
  | ('0' :: _ :: _, _) => .error .invalidNumber
  | (ds, rest) =>
    let (significand, dropped) := appendDigits 0 ds
    match rest with
    | '.' :: rest => readFraction negative significand dropped rest
    | 'e' :: rest | 'E' :: rest => readExponent negative significand dropped rest
    | rest =>
      if dropped = 0 then .ok (signed negative significand, rest)
      else (toDouble negative significand dropped).map (·, rest)

/-- A number. -/
def readNumber : List Char → Read Number
  | '-' :: cs => readUnsigned true cs
  | cs => readUnsigned false cs

/-- The text after at least one digit. -/
def skipDigits (cs : List Char) : Except Fault (List Char) :=
  match spanDigits cs with
  | ([], _) => .error .invalidNumber
  | (_, rest) => .ok rest

/-- The text after an exponent, if there is one. -/
def skipExponent : List Char → Except Fault (List Char)
  | 'e' :: cs | 'E' :: cs => skipDigits (readSign cs).2
  | cs => .ok cs

/-- The text after a fraction and an exponent, where there are. -/
def skipFraction : List Char → Except Fault (List Char)
  | '.' :: cs => skipDigits cs >>= skipExponent
  | cs => skipExponent cs

/-- The text after a number that is not read.  No range is checked. -/
def skipNumber (cs : List Char) : Except Fault (List Char) :=
  let cs := match cs with
    | '-' :: cs => cs
    | cs => cs
  match spanDigits cs with
  | ([], _) => .error .invalidNumber
  | ('0' :: _ :: _, _) => .error .invalidNumber
  | (_, rest) => skipFraction rest

/-! ### The rest of the text is shorter -/

theorem length_spanDigits (cs : List Char) :
    (spanDigits cs).1.length + (spanDigits cs).2.length = cs.length := by
  simp only [spanDigits, ← List.length_append, List.takeWhile_append_dropWhile]

theorem length_readSign_le (cs : List Char) : (readSign cs).2.length ≤ cs.length := by
  unfold readSign; split <;> simp

theorem rest_of_map {α β : Type} {x : Except Fault α} {f : α → β} {rest rest' : List Char} {b : β}
    (h : x.map (fun a => (f a, rest)) = .ok (b, rest')) : rest' = rest := by
  cases x with
  | error e => simp [Except.map] at h
  | ok a => simp only [Except.map, Except.ok.injEq, Prod.mk.injEq] at h; exact h.2.symm

theorem length_of_readExponent {negative : Bool} {n : Nat} {e : Int} {cs rest : List Char}
    {v : Number} (h : readExponent negative n e cs = .ok (v, rest)) :
    rest.length ≤ cs.length := by
  have hs := length_spanDigits (readSign cs).2
  have hr := length_readSign_le cs
  unfold readExponent at h
  dsimp only at h
  split at h
  · cases h
  · cases h
  · next heq =>
    rw [heq] at hs
    simp only at hs
    split at h
    · split at h
      · cases h
      · simp only [Except.ok.injEq, Prod.mk.injEq] at h
        rw [← h.2]; omega
    · have := rest_of_map h
      subst this; omega

theorem length_of_readScale {negative : Bool} {n : Nat} {e : Int} {cs rest : List Char}
    {v : Number} (h : readScale negative n e cs = .ok (v, rest)) : rest.length ≤ cs.length := by
  unfold readScale at h
  split at h
  · exact Nat.le_succ_of_le (length_of_readExponent h)
  · exact Nat.le_succ_of_le (length_of_readExponent h)
  · exact Nat.le_of_eq (congrArg _ (rest_of_map h))

theorem length_of_readFraction {negative : Bool} {n : Nat} {e : Int} {cs rest : List Char}
    {v : Number} (h : readFraction negative n e cs = .ok (v, rest)) :
    rest.length ≤ cs.length := by
  have hs := length_spanDigits cs
  unfold readFraction at h
  split at h
  · cases h
  · cases h
  · next heq =>
    rw [heq] at hs
    have := length_of_readScale h
    simp only at hs; omega

theorem length_of_readUnsigned {negative : Bool} {cs rest : List Char} {v : Number}
    (h : readUnsigned negative cs = .ok (v, rest)) : rest.length ≤ cs.length := by
  have hs := length_spanDigits cs
  unfold readUnsigned at h
  split at h
  · cases h
  · cases h
  · cases h
  · next heq =>
    rw [heq] at hs
    simp only at hs
    dsimp only at h
    split at h
    · have := length_of_readFraction h
      simp only [List.length_cons] at hs; omega
    · have := length_of_readExponent h
      simp only [List.length_cons] at hs; omega
    · have := length_of_readExponent h
      simp only [List.length_cons] at hs; omega
    · split at h
      · simp only [Except.ok.injEq, Prod.mk.injEq] at h
        rw [← h.2]; omega
      · have := rest_of_map h
        subst this; omega

theorem length_of_readNumber {cs rest : List Char} {v : Number}
    (h : readNumber cs = .ok (v, rest)) : rest.length ≤ cs.length := by
  unfold readNumber at h
  split at h
  · exact Nat.le_succ_of_le (length_of_readUnsigned h)
  · exact length_of_readUnsigned h

theorem length_of_skipDigits {cs rest : List Char} (h : skipDigits cs = .ok rest) :
    rest.length < cs.length := by
  have hs := length_spanDigits cs
  unfold skipDigits at h
  split at h
  · cases h
  · next ds rest' hne heq =>
    simp only [Except.ok.injEq] at h
    subst h
    rw [heq] at hs
    cases ds with
    | nil => exact (hne rfl).elim
    | cons => simp only [List.length_cons] at hs; omega

theorem length_of_skipExponent {cs rest : List Char} (h : skipExponent cs = .ok rest) :
    rest.length ≤ cs.length := by
  unfold skipExponent at h
  split at h
  · next cs' =>
    have := length_of_skipDigits h
    have := length_readSign_le cs'
    simp only [List.length_cons]; omega
  · next cs' =>
    have := length_of_skipDigits h
    have := length_readSign_le cs'
    simp only [List.length_cons]; omega
  · simp only [Except.ok.injEq] at h
    simp [h]

theorem length_of_skipFraction {cs rest : List Char} (h : skipFraction cs = .ok rest) :
    rest.length ≤ cs.length := by
  unfold skipFraction at h
  split at h
  · next cs' =>
    cases hd : skipDigits cs' with
    | error e => simp [hd, bind, Except.bind] at h
    | ok rest' =>
      simp only [hd, bind, Except.bind] at h
      have := length_of_skipDigits hd
      have := length_of_skipExponent h
      simp only [List.length_cons]; omega
  · exact length_of_skipExponent h

theorem length_of_skipNumber {cs rest : List Char} (h : skipNumber cs = .ok rest) :
    rest.length < cs.length := by
  unfold skipNumber at h
  have key : ∀ cs' : List Char, cs'.length ≤ cs.length →
      (match spanDigits cs' with
        | ([], _) => Except.error Fault.invalidNumber
        | ('0' :: _ :: _, _) => .error .invalidNumber
        | (_, rest) => skipFraction rest) = .ok rest → rest.length < cs.length := by
    intro cs' hle h
    have hs := length_spanDigits cs'
    split at h
    · cases h
    · cases h
    · next ds rest' hne _ heq =>
      rw [heq] at hs
      have := length_of_skipFraction h
      cases ds with
      | nil => exact (hne rfl).elim
      | cons => simp only [List.length_cons] at hs; omega
  refine key _ ?_ h
  split <;> simp

end AmqpReturns.Json
