/-!
# Decimal — the shortest form

The decimal with the fewest digits among those that read back as a given binary number, and of
these the nearest.  A binary number here is `m * 2 ^ q`; the decimals that read back as it lie
between the midpoints to its neighbours, and the midpoints count when `m` is even, since reading
rounds a tie to the even side.

All of it is exact arithmetic on natural numbers: the bounds are brought over one denominator,
and the grids of decimals are tried from coarse to fine.
-/

namespace AmqpReturns

/-- The number `digits * 10 ^ exponent`. -/
structure Decimal where
  digits : Nat
  exponent : Int
  deriving DecidableEq, Repr

namespace Decimal

/-- The numbers that read back as one binary number: its own value and the ends of the interval,
each over the denominator `unit`. -/
structure Cell where
  low : Nat
  value : Nat
  high : Nat
  unit : Nat
  /-- Whether the ends belong to the interval. -/
  closed : Bool

/-- The cell of `m * 2 ^ q`.  The neighbour below is at half the distance when `m` is the least
significand of its exponent. -/
def Cell.of (m : Nat) (q : Int) (least : Bool) : Cell :=
  let scale := Nat.pow 2 (q - 2).toNat
  ⟨(4 * m - if least then 1 else 2) * scale, 4 * m * scale, (4 * m + 2) * scale,
    Nat.pow 2 (2 - q).toNat, m % 2 = 0⟩

/-- Whether `n`, over the denominator of the cell, reads back as the cell's number. -/
def Cell.holds (c : Cell) (n : Nat) : Bool :=
  if c.closed then c.low ≤ n && n ≤ c.high else c.low < n && n < c.high

/-- The cell measured in units of `10 ^ exponent`, as numerators with the size of that unit. -/
def Cell.onGrid (c : Cell) (exponent : Int) : Cell × Nat :=
  let fine := Nat.pow 10 (-exponent).toNat
  ({ c with low := c.low * fine, value := c.value * fine, high := c.high * fine },
    c.unit * Nat.pow 10 exponent.toNat)

/-- The point of the grid `10 ^ exponent` that reads back as the cell's number, the nearer one
where there are two, and the even one of two equally near. -/
def Cell.pointAt? (c : Cell) (exponent : Int) : Option Nat :=
  let (g, step) := c.onGrid exponent
  let below := g.value / step
  let above := below + 1
  match g.holds (below * step), g.holds (above * step) with
  | true, true =>
    let left := g.value - below * step
    let right := above * step - g.value
    some (if left < right ∨ (left = right ∧ below % 2 = 0) then below else above)
  | true, false => some below
  | false, true => some above
  | false, false => none

/-- The first of `count` grids, from `10 ^ exponent` downwards, that has a point in the cell. -/
def Cell.search (c : Cell) : Nat → Int → Option Decimal
  | 0, _ => none
  | count + 1, exponent =>
    match c.pointAt? exponent with
    | some digits => some ⟨digits, exponent⟩
    | none => c.search count (exponent - 1)

/-- The shortest decimal of a double-precision number other than zero.  The grids run from above
the greatest such number to below the least. -/
def shortest (m : Nat) (q : Int) (least : Bool) : Decimal :=
  ((Cell.of m q least).search 640 310).getD ⟨m, 0⟩

/-! ### Written form -/

/-- How numbers are written: positional while the exponent of the leading digit is between the
two bounds, with an exponent otherwise. -/
structure Style where
  leastPositional : Int
  greatestPositional : Int

/-- The style of messages. -/
def Style.message : Style := ⟨-5, 15⟩

/-- A decimal in a style. -/
def render (style : Style) (d : Decimal) : List Char :=
  let digits := Nat.toDigits 10 d.digits
  let lead := d.exponent + digits.length - 1
  if style.leastPositional ≤ lead ∧ lead ≤ style.greatestPositional then
    if 0 ≤ d.exponent then digits ++ List.replicate d.exponent.toNat '0' ++ ['.', '0']
    else if 0 ≤ lead then
      digits.take (lead.toNat + 1) ++ '.' :: digits.drop (lead.toNat + 1)
    else ['0', '.'] ++ List.replicate (-lead - 1).toNat '0' ++ digits
  else
    let significand :=
      if digits.length = 1 then digits else digits.take 1 ++ '.' :: digits.drop 1
    significand ++ ['e', if 0 ≤ lead then '+' else '-'] ++ Nat.toDigits 10 lead.natAbs

/-- A double-precision number, by its bits. -/
def write (style : Style) (bits : UInt64) : String :=
  let sign := if bits >>> 63 = 1 then ['-'] else []
  let exponent := (bits >>> 52 &&& 0x7FF).toNat
  let fraction := (bits &&& 0xFFFFFFFFFFFFF).toNat
  let body :=
    if exponent = 0x7FF then if fraction = 0 then "inf".toList else "NaN".toList
    else if exponent = 0 then
      if fraction = 0 then "0.0".toList
      else (shortest fraction (-1074) false).render style
    else
      (shortest (0x10000000000000 + fraction) ((exponent : Int) - 1075)
        (fraction = 0 ∧ 1 < exponent)).render style
  String.ofList (sign ++ body)

end Decimal

end AmqpReturns
