import AmqpReturns.Flow.World
import AmqpReturns.Text.Quoted

/-!
# Flow — values spelled out

The parts of a value with their names, on one line, for people who look into a running bus.
-/

namespace AmqpReturns

namespace Inspect

/-- A value with named parts. -/
def parts (name : String) (ps : List (String × String)) : String :=
  name ++ " \x7b " ++ ", ".intercalate (ps.map fun p => p.1 ++ ": " ++ p.2) ++ " \x7d"

/-- A value that may be absent. -/
def optional {α : Type} (f : α → String) : Option α → String
  | none => "None"
  | some a => "Some(" ++ f a ++ ")"

end Inspect

open Inspect

/-- An endpoint spelled out. -/
def Endpoint.inspect (e : Endpoint) : String :=
  parts "Endpoint" [("name", Text.Quoted.quote e.name), ("exchange", Text.Quoted.quote e.exchange),
    ("routing_key", Text.Quoted.quote e.routingKey), ("mandatory", toString e.mandatory)]

/-- A flow spelled out. -/
def Flow.inspect (f : Flow) : String :=
  parts "FlowConstruct" [("name", Text.Quoted.quote f.name)]

/-- A bus context spelled out. -/
def BusContext.inspect (c : BusContext) : String :=
  parts "BusContext" [("default_encoding", Text.Quoted.quote c.defaultEncoding)]

/-- A session spelled out, its channel by number. -/
def Session.inspect (s : Session) : String :=
  parts "Session" [("id", s.id.text), ("flow_construct", optional Flow.inspect s.flow),
    ("context", s.context.inspect),
    ("channel", optional (fun c => toString c.number) s.channel)]

variable {σ : Type}

/-- A connector spelled out.  Its factory is not shown, and its transformers are counted. -/
def Connector.inspect (c : Connector σ) : String :=
  parts "AmqpConnector" [("name", Text.Quoted.quote c.name), ("context", c.context.inspect),
    ("receive_transformers", toString c.transformers.length)]

/-- A dispatching listener spelled out.  Its processors are counted. -/
def Dispatching.inspect (d : Dispatching σ) : String :=
  parts "DispatchingReturnListener" [("endpoint", optional Endpoint.inspect d.endpoint),
    ("flow_construct", optional Flow.inspect d.flow),
    ("processors", toString d.chain.processors.length),
    ("connector", optional Connector.inspect d.connector)]

/-- A listener together with its kind. -/
def Listener.inspect : Listener σ → String
  | .logging hits =>
    "Logging(" ++ parts "LoggingReturnListener" [("hit_count", toString hits.toNat)] ++ ")"
  | .dispatching d => "Dispatching(" ++ d.inspect ++ ")"

/-- Publishing options, the listener spelled out as it is in the world. -/
def PublishOptions.inspect (o : PublishOptions) (w : World σ) : String :=
  parts "PublishOptions"
    [("return_listener", optional Listener.inspect (o.listener.bind w.listener?)),
      ("mandatory", optional toString o.mandatory)]

end AmqpReturns
