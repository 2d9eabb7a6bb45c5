import AmqpReturns.Bus.Property

/-!
# Bus — messages

A message is its payload, the name of its encoding, the properties it arrived with and the
properties it is sent with.
-/

namespace AmqpReturns

/-- A message on the bus. -/
structure Message where
  payload : List UInt8
  /-- The name of the payload's character encoding. -/
  encoding : String
  /-- The properties the message arrived with. -/
  inbound : Properties
  /-- The properties the message is sent with. -/
  outbound : Properties
  deriving DecidableEq, Inhabited

namespace Message

/-- A message without properties. -/
def ofPayload (payload : List UInt8) (encoding : String) : Message :=
  ⟨payload, encoding, .empty, .empty⟩

/-- Sets an inbound property. -/
def withInbound (m : Message) (key : String) (value : Property) : Message :=
  { m with inbound := m.inbound.insert key value }

/-- Sets an outbound property. -/
def withOutbound (m : Message) (key : String) (value : Property) : Message :=
  { m with outbound := m.outbound.insert key value }

end Message

end AmqpReturns
