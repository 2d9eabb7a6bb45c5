import AmqpReturns.Broker.Channel
import AmqpReturns.Flow.Act
import AmqpReturns.Flow.Send

/-!
# Flow — rejecting by hand

A delivery is rejected by its tag, on the channel it came on.  The tag is looked for first.
-/

namespace AmqpReturns

variable {σ : Type}

/-- The property that holds the tag of a delivery. -/
def deliveryTagKey : String := "amqp.delivery-tag"

/-- The delivery tag among a message's properties: a number that is not negative. -/
def Message.deliveryTag? (m : Message) : Option UInt64 :=
  match m.inbound.get? deliveryTagKey with
  | some (.uint n) => some n
  | some (.int n) => if 0 ≤ n.toInt then some n.toUInt64 else none
  | _ => none

/-- Rejects the delivery an event came with. -/
def reject (e : Event) (requeue : Bool) : Act σ Unit := do
  match e.message.deliveryTag?, e.session.channel with
  | none, _ => Act.fail (.missingDeliveryTag "reject")
  | some _, none => Act.fail (.missingChannel "reject")
  | some tag, some channel =>
    if ← Act.run (·.basicReject channel tag requeue) then
      Act.log .debug "manually rejected message"
        [("delivery_tag", .number tag.toNat), ("channel", .number channel.number)]
    else
      Act.log .error "failure to reject message"
        [("error", .text brokerText), ("delivery_tag", .number tag.toNat),
          ("channel", .number channel.number)]
      Act.fail (.rejectMessage tag)

end AmqpReturns
