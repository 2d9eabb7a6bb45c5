import AmqpReturns.Flow.Act
import AmqpReturns.Flow.Send
import AmqpReturns.Settings.Basic

/-!
# Broker — connecting

A connection is made with the URI of the settings, and a channel with confirms is opened on it.
Each of the three steps has a failure of its own.  What the URI says is the client library's to
read: its reader is a parameter (`connect`), and may find no address there.
-/

namespace AmqpReturns

variable {σ : Type}

/-- Whom to connect to, and as whom. -/
structure Address where
  user : String
  password : String
  host : String
  port : Nat
  vhost : String
  deriving DecidableEq, Repr

/-- Whom an attempt to connect meets. -/
inductive Peer where
  | nobody
  /-- A broker, and where it turns the client away. -/
  | broker (refusal : Option Broker.Refusal)
  deriving DecidableEq, Repr

namespace World

/-- Puts a broker at the other end of a new connection. -/
def addBroker (w : World σ) : Nat × World σ :=
  (w.brokers.length, { w with brokers := w.brokers ++ [{}] })

/-- The broker sees a method. -/
def see (w : World σ) (broker : Nat) (m : Broker.Method) : World σ :=
  { w with brokers := w.brokers.modify broker fun b => { b with seen := b.seen ++ [m] } }

/-- Opens a channel on a connection. -/
def openChannel (w : World σ) (broker : Nat) (confirms : Bool) : ChannelRef × World σ :=
  let number := (w.channels.filter (·.broker = broker)).length + 1
  (⟨w.channels.length, number⟩,
    { w with channels := w.channels ++ [{ broker, confirms }] })

end World

/-- Logs why a step of connecting failed, and fails. -/
def failConnecting {α : Type} (message : String) (f : Failure) : Act σ α := do
  Act.log .error message [("error", .text brokerText)]
  Act.fail f

/-- The broker's part of a log-on. -/
def logOn (s : Settings) (a : Address) (refusal : Option Broker.Refusal) : Act σ Nat := do
  let broker ← Act.run World.addBroker
  Act.change (·.see broker (.startOk s.appName a.user a.password))
  if refusal = some .auth then failConnecting "failure to connect" .connection
  Act.change (·.see broker (.openConnection a.vhost))
  if refusal = some .vhost then failConnecting "failure to connect" .connection
  return broker

/-- Connects, with `read` to read the URI, and opens a channel with confirms. -/
def connect (read : String → Option Address) (s : Settings) (peer : Peer) : Act σ ChannelRef := do
  Act.log .debug "creating amqp connection..."
  match read s.uri, peer with
  | none, _ | some _, .nobody | some _, .broker (some .tcp) =>
    failConnecting "failure to connect" .connection
  | some a, .broker refusal =>
    let broker ← logOn s a refusal
    Act.log .debug "amqp connected"
    Act.log .debug "creating amqp channel..."
    Act.change (·.see broker (.openChannel 1))
    if refusal = some .channel then
      failConnecting "error to create the channel" .channel
    Act.change (·.see broker (.selectConfirms 1 false))
    if refusal = some .confirm then
      failConnecting "error to enable publisher confirms" .confirmSelect
    Act.log .debug "channel created"
    Act.run (·.openChannel broker true)

end AmqpReturns
