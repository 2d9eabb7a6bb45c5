import AmqpReturns.Text.CaseTable

/-!
# Text — lower case

The lower-case form of a text, over all scripts.  Two characters need more than a table: `İ`
becomes two characters, and the capital sigma has a form of its own at the end of a word.
-/

namespace AmqpReturns.Text.Lower

/-- Membership in a list of code point ranges. -/
def inRanges (ranges : List (Nat × Nat)) (c : Char) : Bool :=
  ranges.any fun (first, last) => first ≤ c.toNat && c.toNat ≤ last

/-- The table's lower-case form of a character. -/
def lowerChar (c : Char) : Char :=
  let n := c.toNat
  match CaseTable.lowerRuns.find? fun (first, last, step, _) =>
      first ≤ n && n ≤ last && (n - first) % step = 0 with
  | some (_, _, _, shift) => Char.ofNat ((n : Int) + shift).toNat
  | none => c

/-- Whether a letter with case comes next, past characters that case ignores. -/
def casedNext (cs : List Char) : Bool :=
  match cs.dropWhile (inRanges CaseTable.ignorable) with
  | [] => false
  | c :: _ => inRanges CaseTable.cased c

/-- The lower-case form of `cs`, where `before` has been passed already, last character first. -/
def lowerFrom (before : List Char) : List Char → List Char
  | [] => []
  | c :: rest =>
    let form :=
      if c = 'İ' then ['i', '\u0307']
      else if c = 'Σ' then [if casedNext before && !casedNext rest then 'ς' else 'σ']
      else [lowerChar c]
    form ++ lowerFrom (c :: before) rest

/-- The lower-case form of a text. -/
def lower (s : String) : String :=
  String.ofList (lowerFrom [] s.toList)

end AmqpReturns.Text.Lower
