import AmqpReturns.Flow.World

/-!
# Broker — channels in use

What happens at the other end of a channel.  An open channel takes every message and every
rejection; a closed one takes nothing.  What is asked of a channel is written down either way.
-/

namespace AmqpReturns

namespace World

variable {σ : Type}

/-- The channel at a place, if it is open. -/
def openChannel? (w : World σ) (ref : ChannelRef) : Option Channel :=
  (w.channels[ref.index]?).filter (·.isOpen)

/-- Changes a broker. -/
def modifyBroker (w : World σ) (index : Nat) (f : Broker → Broker) : World σ :=
  { w with brokers := w.brokers.modify index f }

/-- Closes the channels that a predicate picks. -/
def closeWhere (w : World σ) (pick : Nat → Channel → Bool) : World σ :=
  { w with channels := w.channels.mapIdx fun i c =>
      if pick i c then { c with isOpen := false } else c }

/-- Closes a channel. -/
def closeChannel (w : World σ) (ref : ChannelRef) : World σ :=
  w.closeWhere fun i _ => i = ref.index

/-- The reply the broker has next, which is then used up. -/
def takeReply (w : World σ) (broker : Nat) : Broker.Reply × World σ :=
  match w.brokers[broker]? with
  | some ⟨_, reply :: rest⟩ => (reply, w.modifyBroker broker ({ · with replies := rest }))
  | _ => (.ack, w)

/-- What a reply does to the channels. -/
def settleChannels (w : World σ) (ref : ChannelRef) (c : Channel) (r : Broker.Reply) : World σ :=
  match r with
  | .closeChannel => w.closeChannel ref
  | .closeConnection => w.closeWhere fun _ c' => c'.broker = c.broker
  | .ack | .nack | .returnAck _ | .returnNack _ => w

/-- Writes down what is asked of a channel. -/
def request (w : World σ) (ref : ChannelRef) (m : Broker.Method) : World σ :=
  { w with requests := w.requests ++ [(ref, m)] }

/-- Sends a message on a channel.  Nothing comes of it on a closed channel; otherwise it will be
settled by the confirmation. -/
def basicPublish (w : World σ) (ref : ChannelRef) (p : Publication) :
    Option Confirmation × World σ :=
  match w.openChannel? ref with
  | none => (none, w.request ref (.publish ref.number p))
  | some c =>
    let w := (w.request ref (.publish ref.number p)).modifyBroker c.broker fun b =>
      { b with seen := b.seen ++ [.publish ref.number p] }
    let (r, w) := w.takeReply c.broker
    (some (if c.confirms then r.confirmation p else .notRequested), w.settleChannels ref c r)

/-- Rejects a delivery on a channel; says whether the channel took it. -/
def basicReject (w : World σ) (ref : ChannelRef) (tag : UInt64) (requeue : Bool) :
    Bool × World σ :=
  match w.openChannel? ref with
  | none => (false, w.request ref (.reject ref.number tag requeue))
  | some c =>
    (true, (w.request ref (.reject ref.number tag requeue)).modifyBroker c.broker fun b =>
      { b with seen := b.seen ++ [.reject ref.number tag requeue] })

end World

end AmqpReturns
