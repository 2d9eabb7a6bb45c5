/-!
# Log records

What the bus says about its work while it runs.
-/

namespace AmqpReturns

/-- How grave a record is. -/
inductive Level where
  | debug
  | warn
  | error
  deriving DecidableEq, Repr

/-- The value of a field of a record. -/
inductive LogValue where
  | number (n : Nat)
  | text (s : String)
  deriving DecidableEq, Repr

/-- A log record. -/
structure Log where
  level : Level
  message : String
  fields : List (String × LogValue) := []
  deriving DecidableEq, Repr

end AmqpReturns
