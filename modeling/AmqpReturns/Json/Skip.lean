import AmqpReturns.Json.Number
import AmqpReturns.Json.Text

/-!
# Json — values that are not read

`skipValue` passes over one value of any kind.  The value must be well formed; nothing else is
asked of it.  The brackets around the place that is read are kept as a list, the innermost first,
so values may be nested to any depth.
-/

namespace AmqpReturns.Json

/-- What a value lies in. -/
inductive Bracket where
  | list
  | object
  deriving DecidableEq, Repr

/-- The character that ends a bracket. -/
def Bracket.close : Bracket → Char
  | .list => ']'
  | .object => '\x7d'

/-- The fault of a text that ends inside a bracket. -/
def Bracket.unclosed : Bracket → Fault
  | .list => .endInList
  | .object => .endInObject

/-- The fault of a text that goes on after an item with neither a comma nor the end. -/
def Bracket.unseparated : Bracket → Fault
  | .list => .expectedListEnd
  | .object => .expectedObjectEnd

/-- The text after a value without parts. -/
def skipScalar (c : Char) (cs : List Char) : Except Fault (List Char) :=
  if c = '"' then skipString cs
  else if c = 'n' then skipWord "ull".toList cs
  else if c = 't' then skipWord "rue".toList cs
  else if c = 'f' then skipWord "alse".toList cs
  else if c = '-' ∨ isDigit c then skipNumber (c :: cs)
  else .error .expectedValue

/-- The text after the colon of a member. -/
def skipColon (cs : List Char) : Except Fault (List Char) :=
  match skipBlank cs with
  | [] => .error .endInObject
  | c :: cs => if c = ':' then .ok cs else .error .expectedColon

/-- The text after the key of a member and its colon. -/
def skipKey (cs : List Char) : Except Fault (List Char) :=
  match skipBlank cs with
  | [] => .error .endInObject
  | c :: cs => if c = '"' then skipString cs >>= skipColon else .error .keyNotString

theorem length_of_skipScalar {c : Char} {cs rest : List Char} (h : skipScalar c cs = .ok rest) :
    rest.length ≤ cs.length := by
  unfold skipScalar at h
  split at h
  · exact Nat.le_of_lt (length_of_skipString cs h)
  split at h
  · exact length_of_skipWord h
  split at h
  · exact length_of_skipWord h
  split at h
  · exact length_of_skipWord h
  split at h
  · have := length_of_skipNumber h
    simp only [List.length_cons] at this; omega
  · cases h

theorem length_of_skipColon {cs rest : List Char} (h : skipColon cs = .ok rest) :
    rest.length < cs.length := by
  have hb := length_skipBlank_le cs
  unfold skipColon at h
  split at h
  · cases h
  · next heq =>
    rw [heq, List.length_cons] at hb
    split at h
    · simp only [Except.ok.injEq] at h
      rw [← h]; omega
    · cases h

theorem length_of_skipKey {cs rest : List Char} (h : skipKey cs = .ok rest) :
    rest.length < cs.length := by
  have hb := length_skipBlank_le cs
  unfold skipKey at h
  split at h
  · cases h
  · next cs' heq =>
    rw [heq, List.length_cons] at hb
    split at h
    · cases hs : skipString cs' with
      | error e => simp [hs, bind, Except.bind] at h
      | ok r =>
        simp only [hs, bind, Except.bind] at h
        have := length_of_skipString cs' hs
        have := length_of_skipColon h
        omega
    · cases h

/-- What is to be passed over next. -/
inductive Stage where
  /-- A value. -/
  | value
  /-- What follows the opening of a bracket. -/
  | opened (b : Bracket)
  /-- An item of a bracket: a value, with its key in an object. -/
  | item (b : Bracket)
  /-- What follows a value. -/
  | after

/-- Stages that take nothing from the text come to one that does. -/
def Stage.rank : Stage → Nat
  | .opened _ => 2
  | .item _ => 1
  | .value | .after => 0

/-- The text after what `stage` asks for and the brackets around it. -/
def skip (stage : Stage) (around : List Bracket) (cs : List Char) : Except Fault (List Char) :=
  match stage with
  | .value =>
    match hb : skipBlank cs with
    | [] => .error .endInValue
    | c :: rest =>
      have : rest.length < cs.length := by
        have := length_skipBlank_le cs; rw [hb, List.length_cons] at this; omega
      if c = '[' then skip (.opened .list) around rest
      else if c = '\x7b' then skip (.opened .object) around rest
      else
        match hs : skipScalar c rest with
        | .error e => .error e
        | .ok rest' =>
          have := length_of_skipScalar hs
          skip .after around rest'
  | .opened b =>
    match hb : skipBlank cs with
    | [] => .error b.unclosed
    | c :: rest =>
      have : rest.length < cs.length := by
        have := length_skipBlank_le cs; rw [hb, List.length_cons] at this; omega
      if c = b.close then skip .after around rest else skip (.item b) around cs
  | .item .list => skip .value (.list :: around) cs
  | .item .object =>
    match hk : skipKey cs with
    | .error e => .error e
    | .ok rest =>
      have := length_of_skipKey hk
      skip .value (.object :: around) rest
  | .after =>
    match around with
    | [] => .ok cs
    | b :: around =>
      match hb : skipBlank cs with
      | [] => .error b.unclosed
      | c :: rest =>
        have : rest.length < cs.length := by
          have := length_skipBlank_le cs; rw [hb, List.length_cons] at this; omega
        if c = ',' then skip (.item b) around rest
        else if c = b.close then skip .after around rest
        else .error b.unseparated
termination_by (cs.length, stage.rank)
decreasing_by
  all_goals simp only [Prod.lex_def, Stage.rank, true_and]; omega

/-- The text after one value. -/
def skipValue (cs : List Char) : Except Fault (List Char) :=
  skip .value [] cs

theorem length_of_skip (stage : Stage) (around : List Bracket) (cs : List Char)
    {rest : List Char} : skip stage around cs = .ok rest → rest.length ≤ cs.length := by
  fun_induction skip stage around cs with
  | case1 | case4 | case6 | case10 | case13 | case16 => simp
  | case12 => intro h; simp only [Except.ok.injEq] at h; simp [h]
  | case2 | case3 | case5 | case7 | case8 | case9 | case11 | case14 | case15 =>
    rename_i ih; intro h; have := ih h; omega

theorem length_of_skipValue {cs rest : List Char} (h : skipValue cs = .ok rest) :
    rest.length ≤ cs.length :=
  length_of_skip _ _ _ h

end AmqpReturns.Json
