import AmqpReturns.Failure
import AmqpReturns.Json.Skip
import AmqpReturns.Log
import AmqpReturns.Settings.Basic

/-!
# Settings — reading

Settings are read from a JSON document: an object with any of the fields, or a list of their
values in order, which may stop early.  Fields that are not given keep their defaults.  Unknown
members are passed over.  `Settings.read` gives the settings or the first fault; a fault is logged
and becomes a failure in `Settings.ofJson`.
-/

namespace AmqpReturns

open Json

/-! ### Values -/

namespace Json

/-- The fault of a value that is not of the kind `expected`, from its first character on.  The
value is read as far as needed to say what it is, and may turn out to be faulty itself. -/
def mismatch (expected : String) (c : Char) (cs : List Char) : Fault :=
  let word (rest : String) (found : Found) : Fault :=
    match skipWord rest.toList cs with
    | .error e => e
    | .ok _ => .wrongType found expected
  if c = 'n' then word "ull" .null
  else if c = 't' then word "rue" (.boolean true)
  else if c = 'f' then word "alse" (.boolean false)
  else if c = '-' ∨ isDigit c then
    match readNumber (c :: cs) with
    | .error e => e
    | .ok (n, _) => .wrongType n.found expected
  else if c = '"' then
    match readString cs with
    | .error e => e
    | .ok (s, _) => .wrongType (.text s) expected
  else if c = '[' then .wrongType .sequence expected
  else if c = '\x7b' then .wrongType .map expected
  else .expectedValue

/-- A string, from its quote on. -/
def readTextValue (cs : List Char) : Read String :=
  match skipBlank cs with
  | [] => .error .endInValue
  | c :: cs => if c = '"' then readString cs else .error (mismatch "a string" c cs)

/-- A truth value. -/
def readFlagValue (cs : List Char) : Read Bool :=
  match skipBlank cs with
  | [] => .error .endInValue
  | c :: cs =>
    if c = 't' then (skipWord "rue".toList cs).map (true, ·)
    else if c = 'f' then (skipWord "alse".toList cs).map (false, ·)
    else .error (mismatch "a boolean" c cs)

/-- A number of a port. -/
def readPortValue (cs : List Char) : Read UInt16 :=
  match skipBlank cs with
  | [] => .error .endInValue
  | c :: cs =>
    if c = '-' ∨ isDigit c then
      match readNumber (c :: cs) with
      | .error e => .error e
      | .ok (.real bits, _) => .error (.wrongType (.real bits) "u16")
      | .ok (.integer n, rest) =>
        if 0 ≤ n ∧ n.toNat < UInt16.size then .ok (n.toNat.toUInt16, rest)
        else .error (.wrongValue n "u16")
    else .error (mismatch "u16" c cs)

end Json

namespace Settings

/-- The value of a field. -/
def readValue (f : Field) (cs : List Char) : Read f.Value :=
  match f with
  | .port => readPortValue cs
  | .mandatory => readFlagValue cs
  | .appName | .host | .user | .password | .vhost | .defaultEncoding => readTextValue cs

theorem length_of_readTextValue {cs rest : List Char} {v : String}
    (h : readTextValue cs = .ok (v, rest)) : rest.length < cs.length := by
  have hb := length_skipBlank_le cs
  unfold readTextValue at h
  split at h
  · cases h
  · next heq =>
    rw [heq, List.length_cons] at hb
    split at h
    · have := length_of_readString h; omega
    · cases h

theorem length_of_readFlagValue {cs rest : List Char} {v : Bool}
    (h : readFlagValue cs = .ok (v, rest)) : rest.length < cs.length := by
  have hb := length_skipBlank_le cs
  have word : ∀ {w cs' : List Char} {b : Bool},
      (skipWord w cs').map (b, ·) = .ok (v, rest) → rest.length ≤ cs'.length := by
    intro w cs' b hw
    cases hr : skipWord w cs' with
    | error e => simp [hr, Except.map] at hw
    | ok r =>
      simp only [hr, Except.map, Except.ok.injEq, Prod.mk.injEq] at hw
      exact hw.2 ▸ length_of_skipWord hr
  unfold readFlagValue at h
  split at h
  · cases h
  · next heq =>
    rw [heq, List.length_cons] at hb
    split at h
    · have := word h; omega
    split at h
    · have := word h; omega
    · cases h

theorem length_of_readPortValue {cs rest : List Char} {v : UInt16}
    (h : readPortValue cs = .ok (v, rest)) : rest.length ≤ cs.length := by
  have hb := length_skipBlank_le cs
  unfold readPortValue at h
  split at h
  · cases h
  · next heq =>
    rw [heq] at hb
    split at h
    · split at h
      · cases h
      · cases h
      · next hn =>
        have := length_of_readNumber hn
        split at h
        · simp only [Except.ok.injEq, Prod.mk.injEq] at h
          rw [← h.2]; omega
        · cases h
    · cases h

theorem length_of_readValue {f : Field} {cs rest : List Char} {v : f.Value}
    (h : readValue f cs = .ok (v, rest)) : rest.length ≤ cs.length := by
  cases f with
  | port => exact length_of_readPortValue h
  | mandatory => exact Nat.le_of_lt (length_of_readFlagValue h)
  | appName | host | user | password | vhost | defaultEncoding =>
    exact Nat.le_of_lt (length_of_readTextValue h)

/-! ### Lists -/

/-- What follows the last value of a full list. -/
def endList (cs : List Char) : Except Fault (List Char) :=
  match skipBlank cs with
  | [] => .error .endInList
  | c :: cs =>
    if c = ']' then .ok cs
    else if c = ',' then
      match skipBlank cs with
      | ']' :: _ => .error .trailingComma
      | _ => .error .trailingCharacters
    else .error .trailingCharacters

/-- The values of `fields`, as many as the list has, over `s`.  Values after the first are
preceded by a comma. -/
def readItems (first : Bool) (s : Settings) : List Field → List Char → Read Settings
  | [], cs => (endList cs).map (s, ·)
  | f :: fields, cs =>
    let item (cs : List Char) : Read Settings :=
      match readValue f cs with
      | .error e => .error e
      | .ok (v, rest) => readItems false (s.set f v) fields rest
    match skipBlank cs with
    | [] => .error .endInList
    | c :: rest =>
      if c = ']' then .ok (s, rest)
      else if first then item (c :: rest)
      else if c = ',' then
        match skipBlank rest with
        | [] => .error .endInValue
        | c :: rest => if c = ']' then .error .trailingComma else item (c :: rest)
      else .error .expectedListEnd

/-! ### Objects -/

/-- The fields given so far and their settings. -/
structure Given where
  settings : Settings := default
  fields : List Field := []

/-- The member whose opening quote has been passed.  No field may come twice; members of other
names are passed over. -/
def readMember (g : Given) (cs : List Char) : Read Given :=
  match readString cs with
  | .error e => .error e
  | .ok (key, cs) =>
    match Field.ofName? key with
    | none => (skipColon cs >>= skipValue).map (g, ·)
    | some f =>
      if f ∈ g.fields then .error (.duplicateField f.name)
      else
        match skipColon cs with
        | .error e => .error e
        | .ok cs => (readValue f cs).map fun (v, cs) => (⟨g.settings.set f v, f :: g.fields⟩, cs)

theorem length_of_readMember {g g' : Given} {cs rest : List Char}
    (h : readMember g cs = .ok (g', rest)) : rest.length < cs.length := by
  unfold readMember at h
  split at h
  · cases h
  · next key cs₁ hk =>
    have := length_of_readString hk
    split at h
    · cases hc : skipColon cs₁ with
      | error e => simp [hc, bind, Except.bind, Except.map] at h
      | ok cs₂ =>
        simp only [hc, bind, Except.bind] at h
        have := length_of_skipColon hc
        cases hv : skipValue cs₂ with
        | error e => simp [hv, Except.map] at h
        | ok cs₃ =>
          simp only [hv, Except.map, Except.ok.injEq, Prod.mk.injEq] at h
          have := length_of_skipValue hv
          rw [← h.2]; omega
    · next f _ =>
      split at h
      · cases h
      · split at h
        · cases h
        · next cs₂ hc =>
          have := length_of_skipColon hc
          cases hv : readValue f cs₂ with
          | error e => simp [hv, Except.map] at h
          | ok p =>
            obtain ⟨v, r⟩ := p
            simp only [hv, Except.map, Except.ok.injEq, Prod.mk.injEq] at h
            have := length_of_readValue hv
            rw [← h.2]; omega

/-- How an object goes on. -/
inductive Onward where
  /-- The object has ended before this text. -/
  | ended (rest : List Char)
  /-- A member follows; its opening quote has been passed. -/
  | member (rest : List Char)

/-- How an object goes on.  Members after the first are preceded by a comma. -/
def nextMember (first : Bool) (cs : List Char) : Except Fault Onward :=
  match skipBlank cs with
  | [] => .error .endInObject
  | c :: rest =>
    if c = '\x7d' then .ok (.ended rest)
    else if first then if c = '"' then .ok (.member rest) else .error .keyNotString
    else if c = ',' then
      match skipBlank rest with
      | [] => .error .endInValue
      | c :: rest =>
        if c = '"' then .ok (.member rest)
        else if c = '\x7d' then .error .trailingComma
        else .error .keyNotString
    else .error .expectedObjectEnd

theorem length_of_nextMember {first : Bool} {cs rest : List Char}
    (h : nextMember first cs = .ok (.member rest)) : rest.length < cs.length := by
  have hb := length_skipBlank_le cs
  unfold nextMember at h
  split at h
  · cases h
  · next c rest₁ heq =>
    rw [heq, List.length_cons] at hb
    have hb₁ := length_skipBlank_le rest₁
    split at h
    · cases h
    split at h
    · split at h
      · simp only [Except.ok.injEq, Onward.member.injEq] at h
        rw [← h]; omega
      · cases h
    split at h
    · split at h
      · cases h
      · next heq₁ =>
        rw [heq₁, List.length_cons] at hb₁
        split at h
        · simp only [Except.ok.injEq, Onward.member.injEq] at h
          rw [← h]; omega
        split at h
        · cases h
        · cases h
    · cases h

/-- The members of an object up to its end. -/
def readMembers (first : Bool) (g : Given) (cs : List Char) : Read Settings :=
  match hn : nextMember first cs with
  | .error e => .error e
  | .ok (.ended rest) => .ok (g.settings, rest)
  | .ok (.member rest) =>
    match hm : readMember g rest with
    | .error e => .error e
    | .ok (g, rest') =>
      have := length_of_nextMember hn
      have := length_of_readMember hm
      readMembers false g rest'
termination_by cs.length

/-! ### Documents -/

/-- The settings at the head of a text. -/
def readDocument (cs : List Char) : Read Settings :=
  match skipBlank cs with
  | [] => .error .endInValue
  | c :: cs =>
    if c = '[' then readItems true default Field.all cs
    else if c = '\x7b' then readMembers true {} cs
    else .error (mismatch "struct AmqpConfigs" c cs)

/-- The settings of a text. -/
def read (text : String) : Except Fault Settings :=
  match readDocument text.toList with
  | .error e => .error e
  | .ok (s, rest) => if (skipBlank rest).isEmpty then .ok s else .error .trailingCharacters

/-- Reads settings, and logs why it could not. -/
def ofJson (text : String) : Except Failure Settings × List Log :=
  match read text with
  | .ok s => (.ok s, [])
  | .error e =>
    (.error (.configuration e.message),
      [⟨.error, "failure to parse amqp configs", [("error", .text e.message)]⟩])

end Settings

end AmqpReturns
