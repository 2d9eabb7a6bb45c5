import AmqpReturns.Flow.World
import AmqpReturns.Returned.Recovery

/-!
# Flow — acts

An act works on the world and may halt; what it did before it halted stays done.  Calls on
collaborators are acts.
-/

namespace AmqpReturns

/-- Work on the world that may halt. -/
abbrev Act (σ : Type) (α : Type) := ExceptT Halt (StateM (World σ)) α

namespace Act

variable {σ α : Type}

/-- Ends in a failure. -/
def fail (f : Failure) : Act σ α :=
  throw (.failure f)

/-- A change of the world. -/
def change (f : World σ → World σ) : Act σ Unit :=
  fun w => (.ok (), f w)

/-- A change of the world with a result. -/
def run (f : World σ → α × World σ) : Act σ α :=
  fun w => let (a, w) := f w; (.ok a, w)

/-- Logs. -/
def log (level : Level) (message : String) (fields : List (String × LogValue) := []) :
    Act σ Unit :=
  change (·.log level message fields)

/-- Calls a collaborator. -/
def call (c : Call) (f : σ → Reply σ α) : Act σ α :=
  fun w => let r := f w.outside; (r.result, w.writeCall c r)

end Act

/-! ### Collaborators -/

variable {σ : Type}

/-- Makes a message of a return. -/
def Connector.create (c : Connector σ) (r : Returned) : Act σ Message :=
  match c.factory with
  | .standard =>
    Act.call (.create false c.context.defaultEncoding r)
      fun s => ⟨.ok (r.recover c.context.defaultEncoding), s, []⟩
  | .custom f =>
    Act.call (.create true c.context.defaultEncoding r) (f r c.context.defaultEncoding)

/-- Runs transformers in order, up to the first that halts.  The event comes back as far as it
was changed. -/
def applyTransformers :
    List (Transformer σ) → Event → World σ → Event × Except Halt Unit × World σ
  | [], e, w => (e, .ok (), w)
  | t :: ts, e, w =>
    let (e, r) := t.run e w.outside
    let w := w.writeCall (.transform t.name) r
    match r.result with
    | .ok () => applyTransformers ts e w
    | .error h => (e, .error h, w)

/-- The event after the connector's transformers. -/
def Connector.transform (c : Connector σ) (e : Event) : Act σ Event :=
  fun w => let (e, r, w) := applyTransformers c.transformers e w; (r.map fun _ => e, w)

/-- The endpoint a processor names. -/
def Processor.endpoint (p : Processor σ) : Act σ (Option Endpoint) :=
  match p with
  | .service s =>
    Act.call (.endpoint p.party) (s.endpoint.getD fun outside => ⟨.ok none, outside, []⟩)
  | .rejecter _ | .handler _ _ =>
    Act.call (.endpoint p.party) fun outside => ⟨.ok none, outside, []⟩

end AmqpReturns
