import AmqpReturns.Wire.BasicProperties

/-!
# Returned messages

A message the broker could not route and gave back, with the reason it gave.
-/

namespace AmqpReturns

/-- A message given back by the broker. -/
structure Returned where
  replyCode : UInt16
  replyText : String
  /-- The exchange the message was published to. -/
  exchange : String
  routingKey : String
  properties : Wire.BasicProperties
  body : List UInt8
  deriving Inhabited

namespace Returned

/-- Why the message came back, in one line. -/
def reason (r : Returned) : String :=
  "AMQP returned message with code: " ++ toString r.replyCode.toNat ++ ", reason: " ++
    r.replyText ++ ", exchange: " ++ r.exchange ++ ", routing key: " ++ r.routingKey

/-- The message itself, in one line.  The body is given by its size. -/
def summary (r : Returned) : String :=
  "ReturnedMessage[exchange=" ++ r.exchange ++ ", routing_key=" ++ r.routingKey ++
    ", message_id=" ++ r.properties.messageId.getD "" ++
    ", content_type=" ++ r.properties.contentType.getD "" ++
    ", body_size=" ++ toString r.body.length ++ "]"

end Returned

end AmqpReturns
