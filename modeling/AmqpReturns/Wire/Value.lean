import AmqpReturns.Table

/-!
# Wire — header values

The values an AMQP header may hold.  Floating-point values are kept as their bit patterns,
strings of the long form as bytes, which need not be UTF-8.
-/

namespace AmqpReturns.Wire

/-- A header value. -/
inductive Value where
  | boolean (v : Bool)
  | shortShortInt (v : Int8)
  | shortShortUInt (v : UInt8)
  | shortInt (v : Int16)
  | shortUInt (v : UInt16)
  | longInt (v : Int32)
  | longUInt (v : UInt32)
  | longLongInt (v : Int64)
  /-- A single-precision number, by its bits. -/
  | float (bits : UInt32)
  /-- A double-precision number, by its bits. -/
  | double (bits : UInt64)
  /-- The number `value` with the point `scale` digits from the right. -/
  | decimal (scale : UInt8) (value : UInt32)
  /-- A text of at most 255 bytes. -/
  | shortString (v : String)
  /-- A text which need not be UTF-8. -/
  | longString (v : List UInt8)
  | fieldArray (items : List Value)
  /-- Seconds since the epoch. -/
  | timestamp (v : UInt64)
  /-- A nested table, its entries in the order of their keys. -/
  | fieldTable (entries : List (String × Value))
  | byteArray (v : List UInt8)
  | void
  deriving Inhabited

/-- The nested table of the pairs: of two pairs with one key the later stays. -/
def Value.table (pairs : List (String × Value)) : Value :=
  .fieldTable (Table.ofList pairs).toList

/-- The headers of a message. -/
abbrev Headers := Table Value

end AmqpReturns.Wire
