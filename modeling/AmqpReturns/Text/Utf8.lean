/-!
# Text — UTF-8

Characters as bytes and back.  `front` says what stands at the head of a byte sequence: a
character, bytes that begin none, or a character the sequence is too short for.  Both readers
are built from it.

* `encode`: the bytes of a text.
* `decode?`: strict reading.  It refuses with a `Fault`, which holds the length of the longest
  readable beginning and the length of what stopped it.
* `decodeLossy`: reading that puts U+FFFD in place of each run of bytes that begins no character.
-/

namespace AmqpReturns.Text.Utf8

/-! ### Writing -/

/-- The bytes of one character. -/
def encodeChar (c : Char) : List UInt8 :=
  let n := c.toNat
  if n < 0x80 then [n.toUInt8]
  else if n < 0x800 then [(0xC0 + n / 0x40).toUInt8, (0x80 + n % 0x40).toUInt8]
  else if n < 0x10000 then
    [(0xE0 + n / 0x1000).toUInt8, (0x80 + n / 0x40 % 0x40).toUInt8, (0x80 + n % 0x40).toUInt8]
  else
    [(0xF0 + n / 0x40000).toUInt8, (0x80 + n / 0x1000 % 0x40).toUInt8,
      (0x80 + n / 0x40 % 0x40).toUInt8, (0x80 + n % 0x40).toUInt8]

/-- The bytes of a text. -/
def encode (s : String) : List UInt8 :=
  s.toList.flatMap encodeChar

/-! ### Reading -/

/-- What stands at the head of a byte sequence. -/
inductive Front where
  /-- A character. -/
  | char (c : Char)
  /-- This many bytes which begin no character. -/
  | invalid (size : Nat)
  /-- The beginning of a character which the sequence is too short for. -/
  | truncated
  deriving DecidableEq, Repr

/-- A byte which continues a character. -/
def isContinuation (b : UInt8) : Bool :=
  0x80 ≤ b && b ≤ 0xBF

/-- The second bytes that may follow the lead byte of a three-byte character.  The bounds keep
out characters with a shorter form and the surrogates. -/
def isSecondOfThree (lead b : UInt8) : Bool :=
  if lead = 0xE0 then 0xA0 ≤ b && b ≤ 0xBF
  else if lead = 0xED then 0x80 ≤ b && b ≤ 0x9F
  else isContinuation b

/-- The second bytes that may follow the lead byte of a four-byte character.  The bounds keep
out characters with a shorter form and numbers above U+10FFFF. -/
def isSecondOfFour (lead b : UInt8) : Bool :=
  if lead = 0xF0 then 0x90 ≤ b && b ≤ 0xBF
  else if lead = 0xF4 then 0x80 ≤ b && b ≤ 0x8F
  else isContinuation b

/-- The six bits a continuation byte carries. -/
def payload (b : UInt8) : Nat :=
  b.toNat - 0x80

/-- What stands at the head of `lead :: rest`, and what follows it. -/
def front (lead : UInt8) (rest : List UInt8) : Front × List UInt8 :=
  if lead < 0x80 then (.char (Char.ofNat lead.toNat), rest)
  else if lead < 0xC2 then (.invalid 1, rest)
  else if lead < 0xE0 then
    match rest with
    | [] => (.truncated, [])
    | b₁ :: rest₁ =>
      if isContinuation b₁ then
        (.char (Char.ofNat ((lead.toNat - 0xC0) * 0x40 + payload b₁)), rest₁)
      else (.invalid 1, rest)
  else if lead < 0xF0 then
    match rest with
    | [] => (.truncated, [])
    | b₁ :: rest₁ =>
      if isSecondOfThree lead b₁ then
        match rest₁ with
        | [] => (.truncated, [])
        | b₂ :: rest₂ =>
          if isContinuation b₂ then
            (.char (Char.ofNat ((lead.toNat - 0xE0) * 0x1000 + payload b₁ * 0x40 + payload b₂)),
              rest₂)
          else (.invalid 2, rest₁)
      else (.invalid 1, rest)
  else if lead < 0xF5 then
    match rest with
    | [] => (.truncated, [])
    | b₁ :: rest₁ =>
      if isSecondOfFour lead b₁ then
        match rest₁ with
        | [] => (.truncated, [])
        | b₂ :: rest₂ =>
          if isContinuation b₂ then
            match rest₂ with
            | [] => (.truncated, [])
            | b₃ :: rest₃ =>
              if isContinuation b₃ then
                (.char (Char.ofNat ((lead.toNat - 0xF0) * 0x40000 + payload b₁ * 0x1000 +
                  payload b₂ * 0x40 + payload b₃)), rest₃)
              else (.invalid 3, rest₂)
          else (.invalid 2, rest₁)
      else (.invalid 1, rest)
  else (.invalid 1, rest)

/-- Every step of a reader takes at least the lead byte. -/
theorem length_front_le (lead : UInt8) (rest : List UInt8) :
    (front lead rest).2.length ≤ rest.length := by
  unfold front
  repeat' split
  all_goals simp only [List.length_cons, List.length_nil]; omega

/-- Where strict reading stopped. -/
structure Fault where
  /-- The length in bytes of the longest readable beginning. -/
  validUpTo : Nat
  /-- How many bytes begin no character; `none` where the sequence ends inside one. -/
  errorLength : Option Nat
  deriving DecidableEq, Repr

/-- The longest readable beginning of a byte sequence, and what ends it before the end of the
sequence: the bytes that begin no character, or `none` for a character cut short. -/
def readable (bytes : List UInt8) : List Char × Option (Option Nat) :=
  match bytes with
  | [] => ([], none)
  | lead :: rest =>
    match h : front lead rest with
    | (.char c, rest') =>
      have : rest'.length ≤ rest.length := by
        have := length_front_le lead rest; rwa [h] at this
      let (cs, stop) := readable rest'
      (c :: cs, stop)
    | (.invalid size, _) => ([], some (some size))
    | (.truncated, _) => ([], some none)
termination_by bytes.length
decreasing_by simp only [List.length_cons]; omega

/-- Strict reading. -/
def decode? (bytes : List UInt8) : Except Fault String :=
  match readable bytes with
  | (cs, none) => .ok (String.ofList cs)
  | (cs, some stop) => .error ⟨(cs.flatMap encodeChar).length, stop⟩

/-- The character that stands for bytes which begin none. -/
def replacement : Char := '\ufffd'

/-- The characters of a byte sequence, with U+FFFD for each run of bytes that begins none. -/
def decodeCharsLossy (bytes : List UInt8) : List Char :=
  match bytes with
  | [] => []
  | lead :: rest =>
    match h : front lead rest with
    | (.char c, rest') =>
      have : rest'.length ≤ rest.length := by
        have := length_front_le lead rest; rwa [h] at this
      c :: decodeCharsLossy rest'
    | (.invalid _, rest') =>
      have : rest'.length ≤ rest.length := by
        have := length_front_le lead rest; rwa [h] at this
      replacement :: decodeCharsLossy rest'
    | (.truncated, _) => [replacement]
termination_by bytes.length
decreasing_by all_goals simp only [List.length_cons]; omega

/-- Reading that never refuses. -/
def decodeLossy (bytes : List UInt8) : String :=
  String.ofList (decodeCharsLossy bytes)

end AmqpReturns.Text.Utf8
