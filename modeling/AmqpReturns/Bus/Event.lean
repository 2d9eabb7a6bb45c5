import AmqpReturns.Bus.Message
import AmqpReturns.Text.Hex

/-!
# Bus — events

An event is a message on its way through a flow: where it is to be sent, and the session it
belongs to.
-/

namespace AmqpReturns

/-- The identity of an event, a session or a message: the how-manieth to be drawn. -/
structure Identity where
  number : Nat
  deriving DecidableEq, Inhabited, Repr

/-- The text of an identity, in the form of a random UUID.  Distinct identities have distinct
texts: the last group is the number itself. -/
def Identity.text (i : Identity) : String :=
  "a3c81f5e-7d02-4b96-8e4f-" ++ Text.Hex.padded 12 i.number

/-- Where a message is sent. -/
structure Endpoint where
  name : String
  exchange : String
  routingKey : String
  /-- Whether the broker is to return a message it cannot route. -/
  mandatory : Bool := true
  deriving DecidableEq, Inhabited

namespace Endpoint

/-- An endpoint as it is first made. -/
def ofRoute (name exchange routingKey : String) : Endpoint :=
  { name, exchange, routingKey }

/-- The endpoint with messages that are to be returned, or are not. -/
def withMandatory (e : Endpoint) (mandatory : Bool) : Endpoint :=
  { e with mandatory }

end Endpoint

/-- A flow, by its name. -/
structure Flow where
  name : String
  deriving DecidableEq, Inhabited

/-- What the sessions of one bus share. -/
structure BusContext where
  /-- The encoding of messages that name none. -/
  defaultEncoding : String
  deriving DecidableEq, Inhabited

/-- A channel, by its place in the world and its number on its connection. -/
structure ChannelRef where
  index : Nat
  number : Nat
  deriving DecidableEq, Inhabited, Repr

/-- What an event belongs to. -/
structure Session where
  id : Identity
  flow : Option Flow
  context : BusContext
  /-- The channel the event's message was delivered on, for actions upon it. -/
  channel : Option ChannelRef := none
  deriving DecidableEq, Inhabited

/-- A message on its way. -/
structure Event where
  id : Identity
  message : Message
  endpoint : Option Endpoint
  session : Session
  deriving DecidableEq, Inhabited

/-- The flow an event is in. -/
def Event.flow (e : Event) : Option Flow :=
  e.session.flow

end AmqpReturns
