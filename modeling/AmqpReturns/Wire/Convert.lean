import AmqpReturns.Bus.Property
import AmqpReturns.Text.Utf8
import AmqpReturns.Wire.Value

/-!
# Wire — properties as header values

`ofProperty` writes a property as a header value and `toProperty?` reads one back.  An unsigned
number takes the narrowest of three header kinds that holds it, and the middle one is signed, so
reading gives a number from 2^32 up to 2^63 back as a signed one (`Property.normalize`).  Reading
knows more kinds than writing produces; kinds with no counterpart on the bus are skipped.
-/

namespace AmqpReturns

namespace Wire.Value

/-- The header value of a property. -/
def ofProperty : Property → Value
  | .bool v => .boolean v
  | .int v => .longLongInt v
  | .uint v =>
    if v.toNat < UInt32.size then .longUInt v.toUInt32
    else if v.toNat < 0x8000000000000000 then .longLongInt v.toInt64
    else .timestamp v
  | .text v => .longString (Text.Utf8.encode v)
  | .bytes v => .byteArray v

/-- The property of a header value.  Bytes of a long string which are no UTF-8 are replaced. -/
def toProperty? : Value → Option Property
  | .boolean v => some (.bool v)
  | .shortShortInt v => some (.int v.toInt64)
  | .shortInt v => some (.int v.toInt64)
  | .longInt v => some (.int v.toInt64)
  | .longLongInt v => some (.int v)
  | .shortShortUInt v => some (.uint v.toUInt64)
  | .shortUInt v => some (.uint v.toUInt64)
  | .longUInt v => some (.uint v.toUInt64)
  | .timestamp v => some (.uint v)
  | .shortString v => some (.text v)
  | .longString v => some (.text (Text.Utf8.decodeLossy v))
  | .byteArray v => some (.bytes v)
  | .float _ | .double _ | .decimal _ _ | .fieldArray _ | .fieldTable _ | .void => none

end Wire.Value

/-- The property that comes back after a trip through a header. -/
def Property.normalize : Property → Property
  | .uint v =>
    if UInt32.size ≤ v.toNat ∧ v.toNat < 0x8000000000000000 then .int v.toInt64 else .uint v
  | p => p

/-- The properties as headers, over the headers already there. -/
def Wire.Headers.withProperties (headers : Headers) (ps : Properties) : Headers :=
  headers.insertMany (ps.toList.map fun p => (p.1, .ofProperty p.2))

/-- The headers which can be properties. -/
def Properties.ofHeaders (headers : Wire.Headers) : Properties :=
  .ofList (headers.toList.filterMap fun p => p.2.toProperty?.map (p.1, ·))

end AmqpReturns
