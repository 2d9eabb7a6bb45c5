import AmqpReturns.Text.EscapeTable

/-!
# Text — quoted form

A text between double quotes, on one line.  The quote, the backslash and four controls have a
short escape; characters without a shape of their own are shown by number.
-/

namespace AmqpReturns.Text.Quoted

/-- Characters shown by number. -/
def isShapeless (c : Char) : Bool :=
  EscapeTable.ranges.any fun (first, last) => first ≤ c.toNat && c.toNat ≤ last

/-- A character by its number. -/
def byNumber (c : Char) : List Char :=
  ['\\', 'u', '\x7b'] ++ Nat.toDigits 16 c.toNat ++ ['\x7d']

/-- One character of a quoted text. -/
def escapeChar (c : Char) : List Char :=
  if c = '\x00' then ['\\', '0']
  else if c = '\t' then ['\\', 't']
  else if c = '\r' then ['\\', 'r']
  else if c = '\n' then ['\\', 'n']
  else if c = '\\' then ['\\', '\\']
  else if c = '"' then ['\\', '"']
  else if isShapeless c then byNumber c
  else [c]

/-- A text in quotes. -/
def quote (s : String) : String :=
  String.ofList ('"' :: s.toList.flatMap escapeChar ++ ['"'])

end AmqpReturns.Text.Quoted
