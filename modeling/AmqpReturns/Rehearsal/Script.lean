import AmqpReturns.Flow.Collaborator
import AmqpReturns.Text.Utf8

/-!
# Rehearsal — scripted collaborators

Stand-ins for an application's factories, transformers, processors and outbounds.  A stand-in
does as its script says, call by call.  What is outside the bus is then how often each stand-in
has been called, and which listeners were set aside.
-/

namespace AmqpReturns.Rehearsal

/-- What comes of a call. -/
inductive Outcome where
  | ok
  | failure (f : Failure)
  | panic (p : Panic)
  deriving Inhabited

/-- The outcomes of calls, in order.  Calls past the end have the last outcome, and all are well
when the script is empty. -/
abbrev Script := List Outcome

/-- The outcome of a call, counted from 1. -/
def Script.at (s : Script) (call : Nat) : Outcome :=
  (s[call - 1]? <|> s.getLast?).getD .ok

/-- How an outcome ends a call. -/
def Outcome.result {α : Type} (o : Outcome) (a : α) : Except Halt α :=
  match o with
  | .ok => .ok a
  | .failure f => .error (.failure f)
  | .panic p => .error (.panic p)

/-- What is outside the bus. -/
structure Backstage where
  /-- How often each stand-in has been called. -/
  calls : List (Nat × Nat) := []
  /-- The listeners set aside, by name, the latest first. -/
  saved : List (String × ListenerRef) := []

/-- Counts a call of a stand-in, and says which it is. -/
def Backstage.count (b : Backstage) (id : Nat) : Nat × Backstage :=
  let n := (b.calls.lookup id).getD 0 + 1
  (n, { b with calls := (id, n) :: b.calls.filter (·.1 ≠ id) })

/-- Sets a listener aside. -/
def Backstage.save (b : Backstage) (name : String) (l : ListenerRef) : Backstage :=
  { b with saved := (name, l) :: b.saved }

/-! ### Transformers -/

/-- What a transformer does. -/
inductive Change where
  | append (bytes : List UInt8)
  | setPayload (bytes : List UInt8)
  | setEncoding (encoding : String)
  | setInbound (key : String) (value : Property)
  | setOutbound (key : String) (value : Property)
  | removeInbound (key : String)
  /-- Appends how often the transformer has been called. -/
  | count
  /-- Notes the event's endpoint, flow and context in its message. -/
  | stamp
  /-- Has an outcome on one call. -/
  | failAt (call : Nat) (outcome : Outcome)
  | outcome (o : Outcome)
  | noop
  deriving Inhabited

/-- The name of a change. -/
def Change.name : Change → String
  | .append _ => "append"
  | .setPayload _ => "set_payload"
  | .setEncoding _ => "set_encoding"
  | .setInbound _ _ => "set_inbound"
  | .setOutbound _ _ => "set_outbound"
  | .removeInbound _ => "remove_inbound"
  | .count => "count"
  | .stamp => "stamp"
  | .failAt _ _ => "fail_at"
  | .outcome _ => "outcome"
  | .noop => "noop"

/-- The text a stamp leaves. -/
def stampText (e : Event) : String :=
  (e.endpoint.map (·.name)).getD "-" ++ "|" ++ (e.flow.map (·.name)).getD "-" ++ "|" ++
    e.session.context.defaultEncoding

/-- The message after a change, on the given call. -/
def Change.apply (c : Change) (call : Nat) (e : Event) : Message :=
  let m := e.message
  match c with
  | .append bytes => { m with payload := m.payload ++ bytes }
  | .setPayload bytes => { m with payload := bytes }
  | .setEncoding encoding => { m with encoding }
  | .setInbound key value => m.withInbound key value
  | .setOutbound key value => m.withOutbound key value
  | .removeInbound key => { m with inbound := m.inbound.erase key }
  | .count => { m with payload := m.payload ++ Text.Utf8.encode (toString call) }
  | .stamp => m.withInbound "stamp" (.text (stampText e))
  | .failAt _ _ | .outcome _ | .noop => m

/-- The outcome of a change, on the given call. -/
def Change.outcomeAt (c : Change) (call : Nat) : Outcome :=
  match c with
  | .failAt n o => if call = n then o else .ok
  | .outcome o => o
  | _ => .ok

/-- A transformer that makes a change. -/
def Change.transformer (c : Change) (id : Nat) : Transformer Backstage :=
  { name := c.name
    run := fun e b =>
      let (call, b) := b.count id
      ({ e with message := c.apply call e }, ⟨(c.outcomeAt call).result (), b, []⟩) }

/-- Makes changes in order, up to the first that halts, and writes their names down. -/
def runChanges : List (Transformer Backstage) → Event → Backstage → Reply Backstage Event
  | [], e, b => ⟨.ok e, b, []⟩
  | t :: ts, e, b =>
    let (e, r) := t.run e b
    match r.result with
    | .error h => ⟨.error h, r.outside, [t.name]⟩
    | .ok () =>
      let rest := runChanges ts e r.outside
      { rest with notes := t.name :: rest.notes }

/-! ### Factories, processors, outbounds -/

/-- A factory that follows a script. -/
def scriptedFactory (id : Nat) (script : Script) (message : Option Message) :
    Factory Backstage :=
  .custom fun r encoding b =>
    let (call, b) := b.count id
    ⟨(script.at call).result (message.getD (.ofPayload r.body encoding)), b, []⟩

/-- A processor that follows a script and then makes changes to its event. -/
def scriptedService (name : String) (id : Nat) (script : Script)
    (changes : List (Transformer Backstage))
    (endpoint : Option (Backstage → Reply Backstage (Option Endpoint))) : Service Backstage :=
  { name, endpoint
    process := fun e b =>
      let (call, b) := b.count id
      match script.at call with
      | .ok => runChanges changes e b
      | o => ⟨o.result e, b, []⟩ }

/-- An endpoint that is named unless the script has a panic. -/
def scriptedEndpoint (id : Nat) (script : Script) (endpoint : Option Endpoint) :
    Backstage → Reply Backstage (Option Endpoint) :=
  fun b =>
    let (call, b) := b.count id
    match script.at call with
    | .panic p => ⟨.error (.panic p), b, []⟩
    | _ => ⟨.ok endpoint, b, []⟩

/-- An outbound that sets listeners aside and follows a script. -/
def scriptedSend (id : Nat) (script : Script) (save : Option String) :
    Event → PublishOptions → Backstage → Reply Backstage Event :=
  fun e o b =>
    let (call, b) := b.count id
    let b := match save, o.listener with
      | some name, some l => b.save name l
      | _, _ => b
    ⟨(script.at call).result e, b, []⟩

end AmqpReturns.Rehearsal
