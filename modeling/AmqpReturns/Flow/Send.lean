import AmqpReturns.Broker.Channel
import AmqpReturns.Flow.Act
import AmqpReturns.Flow.Propagation
import AmqpReturns.Wire.Outgoing

/-!
# Flow — sending

An event is sent through an outbound.  A publisher puts its message on a channel and leaves the
confirmation pending, together with the listener that is to hear of the message if it comes back;
that listener has a connector by then.  A handler gives the event a listener of its own, made of
the handler's chain, before it passes it on.
-/

namespace AmqpReturns

variable {σ : Type}

/-- The text an outside service gives for its errors, which is its own affair. -/
def brokerText : String := "<broker>"

/-- The listener of a publish, bound to the publisher's connector if it had none. -/
def resolveListener (c : Connector σ) (o : PublishOptions) : Act σ ListenerRef :=
  fun w =>
    let ref := o.listener.getD .shared
    (.ok ref, w.ensureConnector ref c)

/-- Leaves a confirmation pending. -/
def pend (l : ListenerRef) (c : Confirmation) : Act σ Unit :=
  Act.change fun w => { w with pending := w.pending ++ [⟨l, c⟩] }

/-- The basic properties of an event's message, with the trace context of the moment. -/
def outgoingProperties (e : Event) : Act σ Wire.BasicProperties :=
  fun w =>
    let trace := w.propagator.injected w.caller
    let (id, w) := w.draw
    (.ok (e.message.basicProperties trace id), w)

/-- Publishes an event on a channel. -/
def publish (channel : ChannelRef) (c : Connector σ) (e : Event) (o : PublishOptions) :
    Act σ Event := do
  match e.endpoint with
  | none =>
    Act.log .error "outbound event without endpoint" [("event", .text e.id.text)]
    Act.fail .missingEndpoint
  | some endpoint =>
    let listener ← resolveListener c o
    let properties ← outgoingProperties e
    let publication : Publication :=
      { exchange := endpoint.exchange
        routingKey := endpoint.routingKey
        mandatory := o.mandatory.getD endpoint.mandatory
        immediate := false
        properties
        body := e.message.payload }
    match ← Act.run (·.basicPublish channel publication) with
    | none =>
      Act.log .error "error publishing message" [("error", .text brokerText)]
      Act.fail .publishing
    | some confirmation =>
      pend listener confirmation
      Act.log .debug "message published"
        [("exchange", .text endpoint.exchange), ("routing_key", .text endpoint.routingKey)]
      return e

/-- Gives an event back to its listener, as a broker without queues does. -/
def giveBack (c : Connector σ) (replyCode : UInt16) (replyText : String) (e : Event)
    (o : PublishOptions) : Act σ Event := do
  let listener ← resolveListener c o
  match e.endpoint with
  | none => Act.fail .missingEndpoint
  | some endpoint =>
    let (id, w) := (← get).draw
    set w
    let r : Returned :=
      { replyCode, replyText
        exchange := endpoint.exchange
        routingKey := endpoint.routingKey
        properties := e.message.basicProperties .empty id
        body := e.message.payload }
    pend listener (.ack (some r))
    return e

/-- Attaches a listener with the handler's chain for an event. -/
def attach (h : HandlerRef) (e : Event) : Act σ ListenerRef := do
  let chain ← Act.run (·.useChain h)
  let listener ← Act.run (·.addListener (.dispatching ((Dispatching.ofChain chain).forEvent e)))
  Act.log .debug "return listener attached" [("event", .text e.id.text)]
  return listener

/-- Calls an outbound of the application. -/
def callOutbound (name : String) (f : Event → PublishOptions → σ → Reply σ Event) (e : Event)
    (o : PublishOptions) : Act σ Event :=
  fun w => Act.call (.send name e o.mandatory (o.listener.bind w.view?)) (f e o) w

/-- Sends an event through an outbound. -/
def Outbound.send : Outbound σ → Event → PublishOptions → Act σ Event
  | .custom name f, e, o => callOutbound name f e o
  | .echo name f c replyCode replyText, e, o => do
    giveBack c replyCode replyText (← callOutbound name f e o) o
  | .publisher channel c, e, o => publish channel c e o
  | .handler h next, e, o => do
    let listener ← attach h e
    next.send e { o with listener := some listener }

end AmqpReturns
