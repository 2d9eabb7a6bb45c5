import AmqpReturns.Broker.Basic
import AmqpReturns.Bus.Event
import AmqpReturns.Failure

/-!
# Flow — collaborators

What an application brings to the bus: factories, transformers and processors of its own.  A
collaborator may do anything to the part of the world outside the bus, whose state is `σ`.  A call
ends with a result, a failure or a panic, and the state outside goes on from there.

The bus has collaborators too: the factory that recovers a message, the processor that rejects
it, the handler that publishes it again.
-/

namespace AmqpReturns

/-- What a collaborator that broke down left behind. -/
inductive Panic where
  | text (s : String)
  /-- Something that cannot be shown. -/
  | other
  deriving DecidableEq, Repr

/-- Why a call ended without a result. -/
inductive Halt where
  | failure (f : Failure)
  | panic (p : Panic)
  deriving DecidableEq, Repr

/-- The failure a halted call counts as. -/
def Halt.toFailure : Halt → Failure
  | .failure f => f
  | .panic (.text s) => .processor s
  | .panic .other => .processor "processor panicked"

/-- What comes of a call. -/
structure Reply (σ α : Type) where
  result : Except Halt α
  /-- The state outside after the call. -/
  outside : σ
  /-- What the collaborator wrote down meanwhile. -/
  notes : List String := []

/-- A change to events on their way in.  The event is kept as far as it was changed, also when
the call halts. -/
structure Transformer (σ : Type) where
  name : String
  run : Event → σ → Event × Reply σ Unit

/-- What makes a message of a return. -/
inductive Factory (σ : Type) where
  /-- The message is recovered from the return alone. -/
  | standard
  | custom (create : Returned → String → σ → Reply σ Message)

/-- What publishers and listeners of one broker share. -/
structure Connector (σ : Type) where
  name : String
  context : BusContext
  factory : Factory σ := .standard
  /-- The transformers of events on their way in, in order. -/
  transformers : List (Transformer σ) := []

/-- A listener, by its place in the world. -/
structure ListenerRef where
  index : Nat
  deriving DecidableEq, Repr

/-- A handler's chain, by its place in the world. -/
structure HandlerRef where
  index : Nat
  deriving DecidableEq, Repr

/-- How an event is to be published. -/
structure PublishOptions where
  /-- Who hears of the message when it comes back. -/
  listener : Option ListenerRef := none
  /-- Whether the message is mandatory, where the endpoint is not to decide. -/
  mandatory : Option Bool := none
  deriving DecidableEq, Repr

/-- What events are sent through. -/
inductive Outbound (σ : Type) where
  /-- An outbound of the application. -/
  | custom (name : String) (send : Event → PublishOptions → σ → Reply σ Event)
  /-- An outbound that stands in for a broker without queues: what passes `send` comes back to
  the listener, with the given reason. -/
  | echo (name : String) (send : Event → PublishOptions → σ → Reply σ Event)
      (connector : Connector σ) (replyCode : UInt16) (replyText : String)
  /-- Publishing on a channel. -/
  | publisher (channel : ChannelRef) (connector : Connector σ)
  /-- Attaching a listener with the handler's chain, before the next outbound. -/
  | handler (chain : HandlerRef) (next : Outbound σ)

/-- A processor of the application. -/
structure Service (σ : Type) where
  name : String
  process : Event → σ → Reply σ Event
  /-- The endpoint it names for its events, where it has a say. -/
  endpoint : Option (σ → Reply σ (Option Endpoint)) := none

/-- What events are handed to. -/
inductive Processor (σ : Type) where
  | service (s : Service σ)
  /-- Rejects the delivery the event's message came with. -/
  | rejecter (requeue : Bool)
  /-- Publishes the event again, with a listener attached. -/
  | handler (chain : HandlerRef) (next : Outbound σ)

/-- Processors in order, with an identity that copies keep. -/
structure Chain (σ : Type) where
  id : Nat
  processors : List (Processor σ)

end AmqpReturns
