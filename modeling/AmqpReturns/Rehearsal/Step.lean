import AmqpReturns.Flow.Record
import AmqpReturns.Rehearsal.Script
import AmqpReturns.Settings.Basic

/-!
# Rehearsal — steps and reports

A rehearsal is a list of steps on named things.  Each step has a report: its result, what
happened meanwhile, and what brokers saw.
-/

namespace AmqpReturns.Rehearsal

/-- A factory that follows a script. -/
structure FactoryPart where
  script : Script := []
  message : Option Message := none

/-- A processor that follows a script. -/
structure ServicePart where
  endpoint : Option Endpoint := none
  endpointScript : Script := []
  script : Script := []
  changes : List Change := []
  /-- Whether the processor leaves endpoints to others. -/
  plain : Bool := false

/-- A return from an outbound that stands in for a broker. -/
structure EchoPart where
  connector : String
  replyCode : UInt16 := 312
  replyText : String := "NO_ROUTE"

/-- An outbound that follows a script. -/
structure OutboundPart where
  script : Script := []
  /-- The name under which the listener of an event is set aside. -/
  save : Option String := none
  echo : Option EchoPart := none

/-- How a listener is made. -/
inductive ListenerMode where
  /-- The logging listener of the process. -/
  | shared
  | logging
  | forEvent (processors : List String) (event : String)
  | forConnector (processors : List String) (connector : String)
  /-- For the last of some events, and bound if a connector is given. -/
  | built (processors : List String) (events : List String) (connector : Option String)

/-- What is to be spelled out. -/
inductive Subject where
  | listener (name : String)
  | connector (name : String)
  | session (event : String)
  | options (mandatory : Option Bool) (listener : Option String)

/-- An event to be processed. -/
structure Sending where
  target : String
  event : String
  /-- Whether the target is called as a processor, without options. -/
  asProcessor : Bool := false
  mandatory : Option Bool := none
  listener : Option String := none
  /-- Replies the broker of the first channel is told to give. -/
  replies : List Broker.Reply := []
  /-- The trace context of the caller. -/
  context : Option String := none
  /-- The name under which the resulting event is kept. -/
  save : Option String := none

/-- A step. -/
inductive Step where
  | connector (name label encoding : String) (factory : Option FactoryPart) (changes : List Change)
  | event (name : String) (endpoint : Option Endpoint) (flow : Option String) (message : Message)
      (encoding : String) (channel : Option String)
  | transform (event : String) (changes : List Change)
  | processor (name : String) (part : ServicePart)
  | rejecter (name : String) (requeue : Bool)
  | outbound (name : String) (part : OutboundPart)
  | handler (name next : String)
  | setProcessors (handler : String) (processors : List String)
  | handlerProcessors (handler : String)
  | publisher (name channel connector : String)
  | listener (name : String) (mode : ListenerMode)
  | bind (listener connector : String)
  | ensure (listener connector : String)
  | inspect (listener : String)
  | sharesChain (listener handler : String)
  | spellOut (subject : Subject)
  | onReturn (listener : String) (returned : Returned) (reason : Option String) (times : Nat)
  | process (sending : Sending)
  | reject (event : String) (requeue : Bool)
  | connect (name : String) (settings : Settings) (refusal : Option Broker.Refusal)
  | plainChannel (name sibling : String)
  | closeChannel (channel : String)

/-- The result of a step. -/
inductive Result where
  | done
  | failure (f : Failure)
  | panicked
  | connector (name encoding : String) (transformers : Nat)
  | event (e : Event)
  | transformed (outcome : Except Halt Unit) (e : Event)
  | requeue (requeue : Bool)
  | count (n : Nat)
  | listener (view : ListenerView)
  | truth (b : Bool)
  | text (s : String)
  | channel (number : Nat)

/-- The result of work that ends with a failure or a panic. -/
def Result.ofHalt : Halt → Result
  | .failure f => .failure f
  | .panic _ => .panicked

/-- The result of work that may halt. -/
def Result.ofExcept {α : Type} (ok : α → Result) : Except Halt α → Result
  | .ok a => ok a
  | .error h => .ofHalt h

/-- What a step brought. -/
structure Report where
  result : Result
  /-- What happened, as far as the application could see it. -/
  record : List Entry
  /-- What brokers saw. -/
  methods : List Broker.Method

/-- Why a rehearsal cannot go on. -/
inductive Fault where
  /-- Nothing of that sort has the name. -/
  | unknown (sort : String)
  | notConnected
  /-- A logging listener takes no connector. -/
  | notDispatching
  deriving DecidableEq, Repr

/-- The wording of a fault. -/
def Fault.message : Fault → String
  | .unknown sort => "unknown " ++ sort
  | .notConnected => "not connected"
  | .notDispatching => "not a dispatching listener"

end AmqpReturns.Rehearsal
