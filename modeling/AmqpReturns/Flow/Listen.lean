import AmqpReturns.Flow.Propagation
import AmqpReturns.Flow.Reject
import AmqpReturns.Flow.Send

/-!
# Flow — hearing of returned messages

A logging listener counts a returned message and warns of it.  A dispatching one makes an event of
it for each processor of its chain in turn, up to the first that halts.  Whatever its collaborators
do, a listener always comes to an end: what halts a dispatch is logged and noted on its span.
-/

namespace AmqpReturns

variable {σ : Type}

/-- Hands an event to a processor. -/
def Processor.process (p : Processor σ) (e : Event) : Act σ Event :=
  match p with
  | .service s => Act.call (.process p.party e) (s.process e)
  | .rejecter requeue => do
    Act.call (.process p.party e) fun outside => ⟨.ok (), outside, []⟩
    reject e requeue
    return e
  | .handler h next => do
    Act.call (.process p.party e) fun outside => ⟨.ok (), outside, []⟩
    (Outbound.handler h next).send e {}

namespace Dispatching

/-- Makes an event of a recovered message for one processor and hands it over.  The event is the
processor's own: its session is new and the message is as the factory made it. -/
def deliver (d : Dispatching σ) (c : Connector σ) (m : Message) (p : Processor σ) :
    Act σ Unit := do
  let endpoint := (← p.endpoint).or d.endpoint
  let session ← Act.run World.draw
  let id ← Act.run World.draw
  let e : Event :=
    { id, message := m, endpoint
      session := { id := session, flow := d.flow, context := c.context } }
  let _ ← p.process (← c.transform e)

/-- Hands a returned message to the processors. -/
def dispatch (d : Dispatching σ) (r : Returned) : Act σ Unit := do
  match d.connector with
  | none => Act.fail .unboundListener
  | some c =>
    let m ← c.create r
    d.chain.processors.forM (d.deliver c m)
    Act.log .debug "returned message dispatched"
      [("processors", .number d.chain.processors.length)]

/-- The span of a dispatch. -/
def span (parent : TraceParent) (outcome : Except Failure Unit) : Span :=
  { name := "amqp return"
    tracer := "amqp return listener"
    parent
    events := match outcome with
      | .ok () => []
      | .error f => [("exception", [("exception.message", f.message)])]
    status := match outcome with
      | .ok () => .ok
      | .error _ => .error "failure to dispatch returned message" }

/-- Handles a returned message. -/
def onReturn (d : Dispatching σ) (reason : String) (r : Returned) (w : World σ) : World σ :=
  let (parent, w) := w.extract r.properties.headerTable
  match d.dispatch r w with
  | (.ok (), w) => w.write (.span (span parent (.ok ())))
  | (.error h, w) =>
    let f := h.toFailure
    let w := w.log .error
      (reason ++ ", impossible to dispatch the following message to the configured " ++
        "processor(s): " ++ r.summary)
      [("error", .text f.message)]
    w.write (.span (span parent (.error f)))

end Dispatching

namespace World

/-- Tells a listener of a returned message, with the reason to be given for it. -/
def onReturnFor (w : World σ) (ref : ListenerRef) (reason : String) (r : Returned) : World σ :=
  match w.listener? ref with
  | none => w
  | some (.logging hits) =>
    (w.setListener ref (.logging (hits + 1))).log .warn (reason ++ ": " ++ r.summary)
      [("reply_code", .number r.replyCode.toNat)]
  | some (.dispatching d) => d.onReturn reason r w

/-- Tells a listener of a returned message. -/
def onReturn (w : World σ) (ref : ListenerRef) (r : Returned) : World σ :=
  w.onReturnFor ref r.reason r

/-! ### Confirmations -/

/-- Handles the confirmation of a published message. -/
def complete (w : World σ) (p : Pending) : World σ :=
  match p.confirmation with
  | .failed => w.log .error "failure awaiting publisher confirm" [("error", .text brokerText)]
  | .notRequested => w
  | .ack r => tell w r
  | .nack r => tell (w.log .warn "publisher confirm NACK") r
where
  /-- Tells the listener of the message the confirmation carries. -/
  tell (w : World σ) : Option Returned → World σ
    | none => w
    | some r => w.onReturn p.listener r

/-- Handles the confirmation at a place of the waiting ones. -/
def completeAt (w : World σ) (i : Nat) : World σ :=
  match w.pending[i]? with
  | none => w
  | some p => ({ w with pending := w.pending.eraseIdx i }).complete p

/-- Handles waiting confirmations in order, those that come up meanwhile included, at most
`limit` of them. -/
def settle : Nat → World σ → World σ
  | 0, w => w
  | limit + 1, w => if w.pending.isEmpty then w else settle limit (w.completeAt 0)

end World

end AmqpReturns
