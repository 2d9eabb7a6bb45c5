import AmqpReturns.Bus.Event
import AmqpReturns.Wire.BasicProperties
import AmqpReturns.Wire.Convert

/-!
# Wire — what a message is published with

The headers of a published message are its outbound properties over the headers of the trace.
Its inbound properties stay behind.
-/

namespace AmqpReturns

/-- The basic properties of a published message, under the identity drawn for it. -/
def Message.basicProperties (m : Message) (trace : Wire.Headers) (id : Identity) :
    Wire.BasicProperties :=
  { contentType := some "application/json"
    contentEncoding := some m.encoding
    messageId := some id.text
    headers := some (Wire.Headers.withProperties trace m.outbound) }

end AmqpReturns
