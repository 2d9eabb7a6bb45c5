import AmqpReturns.Flow.Collaborator
import AmqpReturns.Log

/-!
# Flow — the record of a run

What happens while the bus works, in order: its logs, the spans it ends, the calls it makes on
collaborators and what those wrote down.
-/

namespace AmqpReturns

/-- The context of a trace, as it was found in headers. -/
structure TraceParent where
  /-- The names of all headers, in order. -/
  keys : List String
  /-- What was found for each field of the propagator. -/
  values : List (String × Option String)
  deriving DecidableEq, Repr

/-- How the work under a span came out. -/
inductive SpanStatus where
  | unset
  | ok
  | error (description : String)
  deriving DecidableEq, Repr

/-- The span of one piece of work, when it has ended. -/
structure Span where
  name : String
  tracer : String
  parent : TraceParent
  events : List (String × List (String × String))
  status : SpanStatus
  deriving DecidableEq, Repr

/-- Which processor is called. -/
inductive Party where
  /-- A processor of the application, and whether it has a say in endpoints. -/
  | service (name : String) (namesEndpoint : Bool)
  | rejecter (requeue : Bool)
  | handler (chain : HandlerRef)
  deriving DecidableEq, Repr

/-- A listener as it can be seen from outside. -/
inductive ListenerView where
  /-- A counting one, and whether it is the one of the process. -/
  | logging (shared : Bool) (hits : UInt64)
  | dispatching (connector : Option String) (endpoint : Option Endpoint) (flow : Option Flow)
      (processors : Nat)
  deriving DecidableEq

/-- A call on a collaborator. -/
inductive Call where
  /-- A message is asked for, of a factory of the application or of the standard one. -/
  | create (custom : Bool) (encoding : String) (returned : Returned)
  | endpoint (party : Party)
  | transform (name : String)
  | process (party : Party) (event : Event)
  | send (name : String) (event : Event) (mandatory : Option Bool)
      (listener : Option ListenerView)

/-- Calls that reach the application. -/
def Call.isForeign : Call → Bool
  | .create custom _ _ => custom
  | .endpoint (.service _ namesEndpoint) => namesEndpoint
  | .process (.service _ _) _ => true
  | .transform _ | .send _ _ _ _ => true
  | .endpoint _ | .process _ _ => false

/-- What happened. -/
inductive Entry where
  | log (l : Log)
  | span (s : Span)
  | call (c : Call)
  /-- A collaborator wrote this down. -/
  | note (text : String)

/-- Which processor this is. -/
def Processor.party {σ : Type} : Processor σ → Party
  | .service s => .service s.name s.endpoint.isSome
  | .rejecter requeue => .rejecter requeue
  | .handler chain _ => .handler chain

end AmqpReturns
