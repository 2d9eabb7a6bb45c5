import AmqpReturns.Bus.Message
import AmqpReturns.Returned.Basic
import AmqpReturns.Wire.Convert

/-!
# Returned messages — recovery

A returned message becomes a message of the bus again.  Its inbound properties come in three
layers, each over the one before: the headers, the basic properties that are present, and what
the broker said about the return.
-/

namespace AmqpReturns

namespace Wire.BasicProperties

/-- The basic properties that are present, as properties under their reserved names. -/
def reserved (p : BasicProperties) : List (String × Property) :=
  let texts := [("content-type", p.contentType), ("content-encoding", p.contentEncoding),
    ("correlation-id", p.correlationId), ("reply-to", p.replyTo), ("expiration", p.expiration),
    ("message-id", p.messageId), ("type", p.kind), ("app-id", p.appId)]
  let numbers := [("delivery-mode", p.deliveryMode.map UInt8.toUInt64),
    ("priority", p.priority.map UInt8.toUInt64), ("timestamp", p.timestamp)]
  texts.filterMap (fun (key, v) => v.map (key, .text ·)) ++
    numbers.filterMap (fun (key, v) => v.map (key, .uint ·))

end Wire.BasicProperties

namespace Returned

/-- The property that holds the code of a return. -/
def replyCodeKey : String := "amqp.return.reply-code"

/-- The property that holds the reason of a return. -/
def replyTextKey : String := "amqp.return.reply-text"

/-- The property that holds the exchange of a return. -/
def exchangeKey : String := "amqp.return.exchange"

/-- The property that holds the routing key of a return. -/
def routingKeyKey : String := "amqp.return.routing-key"

/-- What the broker said about the return, as properties. -/
def verdict (r : Returned) : List (String × Property) :=
  [(replyCodeKey, .uint r.replyCode.toUInt64), (replyTextKey, .text r.replyText),
    (exchangeKey, .text r.exchange), (routingKeyKey, .text r.routingKey)]

/-- The inbound properties of a returned message. -/
def inbound (r : Returned) : Properties :=
  ((Properties.ofHeaders r.properties.headerTable).insertMany r.properties.reserved).insertMany
    r.verdict

/-- The message of the bus that a return gives back. -/
def recover (r : Returned) (encoding : String) : Message :=
  ⟨r.body, encoding, r.inbound, .empty⟩

end Returned

end AmqpReturns
