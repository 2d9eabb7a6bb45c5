import AmqpReturns.Returned.Basic

/-!
# Broker — what it sees and how it replies

A broker is known by the methods it has seen and by the replies it has been told to give.  Each
published message takes the next reply; when there is none it is acknowledged.
-/

namespace AmqpReturns

/-- A message as it is published. -/
structure Publication where
  exchange : String
  routingKey : String
  mandatory : Bool
  immediate : Bool
  properties : Wire.BasicProperties
  body : List UInt8
  deriving Inhabited

/-- How the broker settles a published message for its publisher. -/
inductive Confirmation where
  | ack (returned : Option Returned)
  | nack (returned : Option Returned)
  /-- The channel does not confirm. -/
  | notRequested
  /-- The channel was closed first. -/
  | failed
  deriving Inhabited

/-- The message a confirmation carries. -/
def Confirmation.returned? : Confirmation → Option Returned
  | .ack r | .nack r => r
  | .notRequested | .failed => none

namespace Broker

/-- A method the broker has seen. -/
inductive Method where
  | startOk (connectionName user password : String)
  | openConnection (vhost : String)
  | openChannel (channel : Nat)
  | selectConfirms (channel : Nat) (nowait : Bool)
  | publish (channel : Nat) (publication : Publication)
  | reject (channel : Nat) (tag : UInt64) (requeue : Bool)

/-- What a returned message differs in from the one that was published. -/
structure Alteration where
  replyCode : Option UInt16 := none
  replyText : Option String := none
  exchange : Option String := none
  routingKey : Option String := none
  properties : Option Wire.BasicProperties := none
  body : Option (List UInt8) := none
  deriving Inhabited

/-- How the broker answers a published message. -/
inductive Reply where
  | ack
  | nack
  | returnAck (alteration : Alteration)
  | returnNack (alteration : Alteration)
  | closeChannel
  | closeConnection
  deriving Inhabited

/-- Where the broker turns a client away. -/
inductive Refusal where
  /-- Nobody listens. -/
  | tcp
  /-- After the log-on. -/
  | auth
  /-- After the choice of a virtual host. -/
  | vhost
  /-- At the opening of a channel. -/
  | channel
  /-- At the request for confirms. -/
  | confirm
  deriving DecidableEq, Repr

/-- The message the broker gives back. -/
def Alteration.apply (a : Alteration) (p : Publication) : Returned :=
  { replyCode := a.replyCode.getD 312
    replyText := a.replyText.getD "NO_ROUTE"
    exchange := a.exchange.getD p.exchange
    routingKey := a.routingKey.getD p.routingKey
    properties := a.properties.getD p.properties
    body := a.body.getD p.body }

/-- What the publisher of `p` learns from a reply on a channel with confirms. -/
def Reply.confirmation (p : Publication) : Reply → Confirmation
  | .ack => .ack none
  | .nack => .nack none
  | .returnAck a => .ack (some (a.apply p))
  | .returnNack a => .nack (some (a.apply p))
  | .closeChannel | .closeConnection => .failed

end Broker

/-- A broker, seen from one connection. -/
structure Broker where
  /-- What it has seen, in order. -/
  seen : List Broker.Method := []
  /-- The replies to come. -/
  replies : List Broker.Reply := []

/-- A channel of a connection. -/
structure Channel where
  /-- The broker at the other end, by its place in the world. -/
  broker : Nat
  confirms : Bool
  isOpen : Bool := true
  deriving DecidableEq

end AmqpReturns
