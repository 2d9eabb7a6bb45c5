import AmqpReturns.Json.Fault
import AmqpReturns.Text.Hex

/-!
# Json — blanks, words and strings

A string is either read, which gives its characters, or skipped, which is less strict: a skipped
string may hold halves of surrogate pairs.  Both begin after the opening quote and end after the
closing one.
-/

namespace AmqpReturns.Json

/-- The characters that may stand between tokens. -/
def isBlank (c : Char) : Bool :=
  c = ' ' || c = '\t' || c = '\n' || c = '\r'

/-- The text from its first token on. -/
def skipBlank (cs : List Char) : List Char :=
  cs.dropWhile isBlank

theorem length_skipBlank_le (cs : List Char) : (skipBlank cs).length ≤ cs.length :=
  (List.dropWhile_sublist isBlank).length_le

/-- The text after `word`. -/
def skipWord : List Char → List Char → Except Fault (List Char)
  | [], cs => .ok cs
  | _ :: _, [] => .error .endInValue
  | w :: word, c :: cs => if c = w then skipWord word cs else .error .expectedIdent

theorem length_of_skipWord : ∀ {word cs rest : List Char},
    skipWord word cs = .ok rest → rest.length ≤ cs.length
  | [], cs, rest, h => by simp only [skipWord, Except.ok.injEq] at h; simp [h]
  | _ :: _, [], _, h => by simp [skipWord] at h
  | w :: word, c :: cs, rest, h => by
    unfold skipWord at h
    split at h
    · exact Nat.le_succ_of_le (length_of_skipWord h)
    · cases h

/-! ### Escapes -/

/-- The number written by four hexadecimal digits, and the rest.  A text counts as too short for
them by its bytes. -/
def readHex (cs : List Char) : Read Nat :=
  match cs with
  | a :: b :: c :: d :: rest =>
    match Text.Hex.digit? a, Text.Hex.digit? b, Text.Hex.digit? c, Text.Hex.digit? d with
    | some a, some b, some c, some d => .ok (((a * 16 + b) * 16 + c) * 16 + d, rest)
    | _, _, _, _ => .error .invalidEscape
  | cs =>
    if cs.foldl (fun n c => n + c.utf8Size) 0 < 4 then .error .endInString
    else .error .invalidEscape

theorem length_of_readHex {cs rest : List Char} {n : Nat} (h : readHex cs = .ok (n, rest)) :
    rest.length < cs.length := by
  unfold readHex at h
  split at h
  · split at h
    · simp only [Except.ok.injEq, Prod.mk.injEq] at h
      simp [← h.2]; omega
    · cases h
  · split at h <;> cases h

/-- The character of a short escape. -/
def shortEscape? (c : Char) : Option Char :=
  match c with
  | '"' => some '"'
  | '\\' => some '\\'
  | '/' => some '/'
  | 'b' => some '\x08'
  | 'f' => some '\x0c'
  | 'n' => some '\n'
  | 'r' => some '\r'
  | 't' => some '\t'
  | _ => none

/-- Numbers that stand for the first half of a surrogate pair. -/
def isLeading (n : Nat) : Bool :=
  0xD800 ≤ n && n ≤ 0xDBFF

/-- Numbers that stand for the second half of a surrogate pair. -/
def isTrailing (n : Nat) : Bool :=
  0xDC00 ≤ n && n ≤ 0xDFFF

/-- The second half of a surrogate pair whose first half is `leading`. -/
def readTrailing (leading : Nat) (cs : List Char) : Read Char :=
  match cs with
  | [] => .error .endInString
  | '\\' :: cs =>
    match cs with
    | [] => .error .endInString
    | 'u' :: cs =>
      match readHex cs with
      | .error e => .error e
      | .ok (n, rest) =>
        if isTrailing n then
          .ok (Char.ofNat (0x10000 + (leading - 0xD800) * 0x400 + (n - 0xDC00)), rest)
        else .error .loneSurrogate
    | _ :: _ => .error .unfinishedPair
  | _ :: _ => .error .unfinishedPair

theorem length_of_readTrailing {leading : Nat} {cs rest : List Char} {c : Char}
    (h : readTrailing leading cs = .ok (c, rest)) : rest.length < cs.length := by
  unfold readTrailing at h
  split at h
  · cases h
  · split at h
    · cases h
    · split at h
      · cases h
      · next hr =>
        split at h
        · simp only [Except.ok.injEq, Prod.mk.injEq] at h
          have := length_of_readHex hr
          simp [← h.2]; omega
        · cases h
    · cases h
  · cases h

/-- The character of an escape, after the backslash. -/
def readEscape (cs : List Char) : Read Char :=
  match cs with
  | [] => .error .endInString
  | c :: cs =>
    if c = 'u' then
      match readHex cs with
      | .error e => .error e
      | .ok (n, rest) =>
        if isTrailing n then .error .loneSurrogate
        else if isLeading n then readTrailing n rest
        else .ok (Char.ofNat n, rest)
    else
      match shortEscape? c with
      | some c => .ok (c, cs)
      | none => .error .invalidEscape

theorem length_of_readEscape {cs rest : List Char} {c : Char}
    (h : readEscape cs = .ok (c, rest)) : rest.length < cs.length := by
  unfold readEscape at h
  split at h
  · cases h
  · split at h
    · split at h
      · cases h
      · next hr =>
        have := length_of_readHex hr
        split at h
        · cases h
        · split at h
          · have := length_of_readTrailing h
            simp only [List.length_cons]; omega
          · simp only [Except.ok.injEq, Prod.mk.injEq] at h
            simp only [List.length_cons, ← h.2]; omega
    · split at h
      · simp only [Except.ok.injEq, Prod.mk.injEq] at h
        simp [← h.2]
      · cases h

/-- The text after an escape that is not read. -/
def skipEscape (cs : List Char) : Except Fault (List Char) :=
  match cs with
  | [] => .error .endInString
  | c :: cs =>
    if c = 'u' then (readHex cs).map (·.2)
    else if (shortEscape? c).isSome then .ok cs
    else .error .invalidEscape

theorem length_of_skipEscape {cs rest : List Char} (h : skipEscape cs = .ok rest) :
    rest.length < cs.length := by
  unfold skipEscape at h
  split at h
  · cases h
  · split at h
    · next cs _ =>
      cases hr : readHex cs with
      | error e => simp [hr, Except.map] at h
      | ok p =>
        obtain ⟨n, r⟩ := p
        simp only [hr, Except.map, Except.ok.injEq] at h
        have := length_of_readHex hr
        simp only [List.length_cons, ← h]; omega
    · split at h
      · simp only [Except.ok.injEq] at h
        simp [← h]
      · cases h

/-! ### Strings -/

/-- Characters that a string must not hold as they are. -/
def isControl (c : Char) : Bool :=
  c.toNat < 0x20

/-- The characters of a string. -/
def readChars (cs : List Char) : Read (List Char) :=
  match cs with
  | [] => .error .endInString
  | c :: cs =>
    if c = '"' then .ok ([], cs)
    else if c = '\\' then
      match h : readEscape cs with
      | .error e => .error e
      | .ok (c, rest) =>
        have := length_of_readEscape h
        (readChars rest).map fun (s, rest) => (c :: s, rest)
    else if isControl c then .error .controlCharacter
    else (readChars cs).map fun (s, rest) => (c :: s, rest)
termination_by cs.length
decreasing_by all_goals simp only [List.length_cons]; omega

theorem length_of_readChars (cs : List Char) {s rest : List Char} :
    readChars cs = .ok (s, rest) → rest.length < cs.length := by
  fun_induction readChars cs generalizing s rest with
  | case1 => simp
  | case2 cs => simp only [Except.ok.injEq, Prod.mk.injEq]; rintro ⟨-, rfl⟩; simp
  | case3 => simp
  | case4 cs c rest' _ hlt _ ih =>
    cases hr : readChars rest' with
    | error e => simp [Except.map]
    | ok p =>
      obtain ⟨s', r⟩ := p
      simp only [Except.map, Except.ok.injEq, Prod.mk.injEq]
      rintro ⟨-, rfl⟩
      have := ih hr
      simp only [List.length_cons]; omega
  | case5 => simp
  | case6 c cs _ _ _ ih =>
    cases hr : readChars cs with
    | error e => simp [Except.map]
    | ok p =>
      obtain ⟨s', r⟩ := p
      simp only [Except.map, Except.ok.injEq, Prod.mk.injEq]
      rintro ⟨-, rfl⟩
      have := ih hr
      simp only [List.length_cons]; omega

/-- A string. -/
def readString (cs : List Char) : Read String :=
  (readChars cs).map fun (s, rest) => (String.ofList s, rest)

theorem length_of_readString {cs rest : List Char} {s : String}
    (h : readString cs = .ok (s, rest)) : rest.length < cs.length := by
  unfold readString at h
  cases hr : readChars cs with
  | error e => simp [hr, Except.map] at h
  | ok p =>
    obtain ⟨s', r⟩ := p
    simp only [hr, Except.map, Except.ok.injEq, Prod.mk.injEq] at h
    exact h.2 ▸ length_of_readChars cs hr

/-- The text after a string that is not read. -/
def skipString (cs : List Char) : Except Fault (List Char) :=
  match cs with
  | [] => .error .endInString
  | c :: cs =>
    if c = '"' then .ok cs
    else if c = '\\' then
      match h : skipEscape cs with
      | .error e => .error e
      | .ok rest =>
        have := length_of_skipEscape h
        skipString rest
    else if isControl c then .error .controlCharacter
    else skipString cs
termination_by cs.length
decreasing_by all_goals simp only [List.length_cons]; omega

theorem length_of_skipString (cs : List Char) {rest : List Char} :
    skipString cs = .ok rest → rest.length < cs.length := by
  fun_induction skipString cs generalizing rest with
  | case1 => simp
  | case2 cs => simp only [Except.ok.injEq]; rintro rfl; simp
  | case3 => simp
  | case4 cs rest' _ hlt _ ih => intro h; have := ih h; simp only [List.length_cons]; omega
  | case5 => simp
  | case6 c cs _ _ _ ih => intro h; have := ih h; simp only [List.length_cons]; omega

end AmqpReturns.Json
