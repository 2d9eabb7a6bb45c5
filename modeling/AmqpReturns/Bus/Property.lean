import AmqpReturns.Table

/-!
# Bus — properties of a message

What an application attaches to a message: named values of five kinds.
-/

namespace AmqpReturns

/-- The value of a property. -/
inductive Property where
  | bool (v : Bool)
  | int (v : Int64)
  | uint (v : UInt64)
  | text (v : String)
  | bytes (v : List UInt8)
  deriving DecidableEq, Inhabited, Repr

/-- Properties by name. -/
abbrev Properties := Table Property

end AmqpReturns
