import AmqpReturns.Wire.Value

/-!
# Wire — basic properties

The properties that travel with a message's body.  Each may be absent.
-/

namespace AmqpReturns.Wire

/-- The properties of a message on the wire. -/
structure BasicProperties where
  contentType : Option String := none
  contentEncoding : Option String := none
  headers : Option Headers := none
  deliveryMode : Option UInt8 := none
  priority : Option UInt8 := none
  correlationId : Option String := none
  replyTo : Option String := none
  expiration : Option String := none
  messageId : Option String := none
  timestamp : Option UInt64 := none
  /-- The kind of message, for the application's use. -/
  kind : Option String := none
  userId : Option String := none
  appId : Option String := none
  clusterId : Option String := none
  deriving Inhabited

/-- The headers, empty where the message has no header table. -/
def BasicProperties.headerTable (p : BasicProperties) : Headers :=
  p.headers.getD .empty

end AmqpReturns.Wire
