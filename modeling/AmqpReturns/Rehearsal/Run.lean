import AmqpReturns.Broker.Connect
import AmqpReturns.Flow.Inspect
import AmqpReturns.Flow.Listen
import AmqpReturns.Rehearsal.Client
import AmqpReturns.Rehearsal.Step

/-!
# Rehearsal — running

A step does its own work first; then the confirmations that wait are handled, and those that come
up meanwhile.  Things are known by name, each sort for itself; a name given again stands for the
new thing.
-/

namespace AmqpReturns.Rehearsal

/-- The named things. -/
structure Cast where
  connectors : Table (Connector Backstage) := .empty
  events : Table Event := .empty
  processors : Table (Processor Backstage) := .empty
  outbounds : Table (Outbound Backstage) := .empty
  handlers : Table HandlerRef := .empty
  listeners : Table ListenerRef := .empty
  channels : Table ChannelRef := .empty
  /-- The brokers at the other ends, by the names of connections and channels. -/
  brokers : Table Nat := .empty

/-- Where a rehearsal stands. -/
structure State where
  world : World Backstage
  cast : Cast := {}
  /-- How many stand-ins there are. -/
  standIns : Nat := 0
  /-- Whether brokers can be reached. -/
  reachable : Bool

/-- Work of a rehearsal. -/
abbrev Rehearse (α : Type) := StateT State (Except Fault) α

/-! ### Names -/

/-- The thing of that name. -/
def find {α : Type} (sort : String) (pick : Cast → Table α) (name : String) : Rehearse α := do
  match (pick (← get).cast).get? name with
  | some a => return a
  | none => throw (.unknown sort)

/-- The connector of that name. -/
def findConnector : String → Rehearse (Connector Backstage) := find "connector" Cast.connectors

/-- The event of that name. -/
def findEvent : String → Rehearse Event := find "event" Cast.events

/-- The processor of that name. -/
def findProcessor : String → Rehearse (Processor Backstage) := find "processor" Cast.processors

/-- The outbound of that name. -/
def findOutbound : String → Rehearse (Outbound Backstage) := find "outbound" Cast.outbounds

/-- The handler of that name. -/
def findHandler : String → Rehearse HandlerRef := find "handler" Cast.handlers

/-- The listener of that name. -/
def findListener : String → Rehearse ListenerRef := find "listener" Cast.listeners

/-- The channel of that name. -/
def findChannel : String → Rehearse ChannelRef := find "channel" Cast.channels

/-- Changes the named things. -/
def recast (f : Cast → Cast) : Rehearse Unit :=
  modify fun s => { s with cast := f s.cast }

/-- Names a listener. -/
def nameListener (name : String) (l : ListenerRef) : Rehearse Unit :=
  recast fun c => { c with listeners := c.listeners.insert name l }

/-- A number for a stand-in. -/
def standIn : Rehearse Nat :=
  modifyGet fun s => (s.standIns, { s with standIns := s.standIns + 1 })

/-- Transformers that make changes. -/
def transformers (changes : List Change) : Rehearse (List (Transformer Backstage)) :=
  changes.mapM fun c => return c.transformer (← standIn)

/-! ### The world -/

/-- Works on the world. -/
def onWorld {α : Type} (f : World Backstage → α × World Backstage) : Rehearse α :=
  modifyGet fun s => let (a, w) := f s.world; (a, { s with world := w })

/-- Changes the world. -/
def changeWorld (f : World Backstage → World Backstage) : Rehearse Unit :=
  modify fun s => { s with world := f s.world }

/-- Acts on the world. -/
def act {α : Type} (a : Act Backstage α) : Rehearse (Except Halt α) :=
  onWorld a

/-- A listener as it can be seen. -/
def viewListener (l : ListenerRef) : Rehearse Result := do
  match (← get).world.view? l with
  | some v => return .listener v
  | none => throw (.unknown "listener")

/-- A new listener, under a name. -/
def addListener (name : String) (l : Listener Backstage) : Rehearse Result := do
  let ref ← onWorld (·.addListener l)
  nameListener name ref
  viewListener ref

/-- A dispatching listener for a new chain of the named processors. -/
def newDispatching (processors : List String) : Rehearse (Dispatching Backstage) := do
  let ps ← processors.mapM findProcessor
  return .ofChain (← onWorld (·.makeChain ps))

/-! ### Steps -/

/-- Makes a listener. -/
def makeListener (name : String) : ListenerMode → Rehearse Result
  | .shared => do
    nameListener name .shared
    viewListener .shared
  | .logging => addListener name (.logging 0)
  | .forEvent processors event => do
    let d ← newDispatching processors
    addListener name (.dispatching (d.forEvent (← findEvent event)))
  | .forConnector processors connector => do
    let d ← newDispatching processors
    addListener name (.dispatching (d.forConnector (← findConnector connector)))
  | .built processors events connector => do
    let d ← newDispatching processors
    let d ← events.foldlM (fun d e => return d.forEvent (← findEvent e)) d
    match connector with
    | none => addListener name (.dispatching d)
    | some c => addListener name (.dispatching (d.forConnector (← findConnector c)))

/-- Spells something out. -/
def spellOut : Subject → Rehearse String
  | .listener name => do
    let ref ← findListener name
    if ref = .shared then return "default"
    match (← get).world.listener? ref with
    | some (.dispatching d) => return d.inspect
    | some l => return l.inspect
    | none => throw (.unknown "listener")
  | .connector name => return (← findConnector name).inspect
  | .session event => return (← findEvent event).session.inspect
  | .options mandatory listener => do
    let listener ← listener.mapM findListener
    let o : PublishOptions := { listener, mandatory }
    return o.inspect (← get).world

/-- Whether a listener holds the very chain of a handler. -/
def sharesChain (listener handler : String) : Rehearse Bool := do
  let l ← findListener listener
  let h ← findHandler handler
  match (← get).world.listener? l with
  | some (.dispatching d) =>
    let chain ← onWorld (·.useChain h)
    return d.chain.id = chain.id
  | _ => return false

/-- Tells the broker of the first channel what to reply. -/
def queueReplies (replies : List Broker.Reply) : Rehearse Unit := do
  match (← get).cast.channels.toList with
  | [] => return
  | (name, _) :: _ =>
    match (← get).cast.brokers.get? name with
    | none => return
    | some broker =>
      changeWorld (·.modifyBroker broker fun b => { b with replies := b.replies ++ replies })

/-- Processes an event. -/
def process (s : Sending) : Rehearse Result := do
  let e ← findEvent s.event
  let listener ← s.listener.mapM findListener
  let work : Act Backstage Event ←
    if s.asProcessor then
      let p ← findProcessor s.target
      pure (p.process e)
    else
      let o ← findOutbound s.target
      pure (o.send e { listener, mandatory := s.mandatory })
  queueReplies s.replies
  changeWorld ({ · with caller := s.context })
  let result ← act work
  changeWorld ({ · with caller := none })
  match result, s.save with
  | .ok e, some name => recast fun c => { c with events := c.events.insert name e }
  | _, _ => pure ()
  return .ofExcept .event result

/-- Connects, and names the channel and the broker. -/
def connectAs (name : String) (settings : Settings) (refusal : Option Broker.Refusal) :
    Rehearse Result := do
  let s ← get
  let peer := if s.reachable then .broker refusal else .nobody
  let result ← act (connect Client.read? settings peer)
  recast fun c => { c with
    brokers := c.brokers.insert name s.world.brokers.length
    channels := match result with
      | .ok ref => c.channels.insert name ref
      | .error _ => c.channels }
  return .ofExcept (fun ref => .channel ref.number) result

/-- Opens one more channel on a connection, without confirms. -/
def plainChannel (name sibling : String) : Rehearse Result := do
  let cast := (← get).cast
  match cast.channels.get? sibling, cast.brokers.get? sibling with
  | some _, some broker =>
    let ref ← onWorld (·.openChannel broker false)
    changeWorld (·.see broker (.openChannel ref.number))
    recast fun c => { c with
      channels := c.channels.insert name ref
      brokers := c.brokers.insert name broker }
    return .channel ref.number
  | _, _ => throw .notConnected

/-- Does the work of a step. -/
def perform : Step → Rehearse Result
  | .connector name label encoding factory changes => do
    let factory ← match factory with
      | none => pure Factory.standard
      | some f => pure (scriptedFactory (← standIn) f.script f.message)
    let transformers ← transformers changes
    let c : Connector Backstage :=
      { name := label, context := ⟨encoding⟩, factory, transformers }
    recast fun cast => { cast with connectors := cast.connectors.insert name c }
    return .connector label encoding changes.length
  | .event name endpoint flow message encoding channel => do
    let channel ← channel.mapM findChannel
    let session ← onWorld (·.draw)
    let id ← onWorld (·.draw)
    let e : Event :=
      { id, message, endpoint
        session := { id := session, flow := flow.map Flow.mk, context := ⟨encoding⟩, channel } }
    recast fun cast => { cast with events := cast.events.insert name e }
    return .event e
  | .transform event changes => do
    let e ← findEvent event
    let ts ← transformers changes
    let (e, outcome) ← onWorld fun w =>
      let (e, outcome, w) := applyTransformers ts e w
      ((e, outcome), w)
    recast fun cast => { cast with events := cast.events.insert event e }
    return .transformed outcome e
  | .processor name part => do
    let id ← standIn
    let endpointId ← standIn
    let changes ← transformers part.changes
    let endpoint :=
      if part.plain then none
      else some (scriptedEndpoint endpointId part.endpointScript part.endpoint)
    let p := Processor.service (scriptedService name id part.script changes endpoint)
    recast fun cast => { cast with processors := cast.processors.insert name p }
    return .done
  | .rejecter name requeue => do
    recast fun cast => { cast with processors := cast.processors.insert name (.rejecter requeue) }
    return .requeue requeue
  | .outbound name part => do
    let send := scriptedSend (← standIn) part.script part.save
    let o : Outbound Backstage ← match part.echo with
      | none => pure (.custom name send)
      | some echo =>
        let c ← findConnector echo.connector
        pure (.echo name send c echo.replyCode echo.replyText)
    recast fun cast => { cast with outbounds := cast.outbounds.insert name o }
    return .done
  | .handler name next => do
    let next ← findOutbound next
    let h ← onWorld (·.addHandler)
    recast fun cast => { cast with
      handlers := cast.handlers.insert name h
      outbounds := cast.outbounds.insert name (.handler h next)
      processors := cast.processors.insert name (.handler h next) }
    return .done
  | .setProcessors handler processors => do
    let h ← findHandler handler
    let ps ← processors.mapM findProcessor
    match ← onWorld (·.setProcessors h ps) with
    | .ok () => return .done
    | .error f => return .failure f
  | .handlerProcessors handler => do
    let h ← findHandler handler
    let chain ← onWorld (·.useChain h)
    return .count chain.processors.length
  | .publisher name channel connector => do
    let ref ← findChannel channel
    let c ← findConnector connector
    recast fun cast => { cast with outbounds := cast.outbounds.insert name (.publisher ref c) }
    return .done
  | .listener name mode => makeListener name mode
  | .bind listener connector => do
    let ref ← findListener listener
    let c ← findConnector connector
    match ← onWorld (·.bindConnector ref c) with
    | some (.ok ()) => return .done
    | some (.error f) => return .failure f
    | none => throw .notDispatching
  | .ensure listener connector => do
    let ref ← findListener listener
    let c ← findConnector connector
    changeWorld (·.ensureConnector ref c)
    viewListener ref
  | .inspect listener => do viewListener (← findListener listener)
  | .sharesChain listener handler => return .truth (← sharesChain listener handler)
  | .spellOut subject => return .text (← spellOut subject)
  | .onReturn listener returned reason times => do
    let ref ← findListener listener
    changeWorld (Nat.repeat (·.onReturnFor ref (reason.getD returned.reason) returned) times)
    viewListener ref
  | .process sending => process sending
  | .reject event requeue => do
    return .ofExcept (fun () => .done) (← act (reject (← findEvent event) requeue))
  | .connect name settings refusal => connectAs name settings refusal
  | .plainChannel name sibling => plainChannel name sibling
  | .closeChannel channel => do
    let ref ← findChannel channel
    changeWorld (·.closeChannel ref)
    return .done

/-! ### Reports -/

/-- Whether the application can see an entry of the record. -/
def isVisible : Entry → Bool
  | .call c => c.isForeign
  | .log _ | .span _ | .note _ => true

/-- How many confirmations a step may bring. -/
def patience : Nat := 100000

/-- The brokers behind the named channels, in the order of their names, each once. -/
def Cast.brokersInOrder (c : Cast) : List Nat :=
  (c.brokers.toList.map (·.2)).eraseDups

/-- What the brokers have seen, in the order of the names of their channels. -/
def methodsSeen (s : State) : List Broker.Method :=
  s.cast.brokersInOrder.flatMap fun b => ((s.world.brokers[b]?).map (·.seen)).getD []

/-- Names the listeners that stand-ins set aside, and forgets what has been reported. -/
def clear : Rehearse Unit :=
  modify fun s => { s with
    cast := { s.cast with
      listeners := s.cast.listeners.insertMany s.world.outside.saved.reverse }
    world := { s.world with
      outside := { s.world.outside with saved := [] }
      record := []
      brokers := s.world.brokers.map ({ · with seen := [] }) } }

/-- Does a step and all that comes of it. -/
def report (step : Step) : Rehearse Report := do
  let result ← perform step
  changeWorld (World.settle patience)
  let s ← get
  clear
  return ⟨result, s.world.record.filter isVisible, methodsSeen s⟩

/-- Runs a rehearsal from its beginning. -/
def run (reachable : Bool) (propagator : Propagator) (steps : List Step) :
    Except Fault (List Report) :=
  (steps.mapM report).run' { world := { outside := {}, propagator }, reachable }

end AmqpReturns.Rehearsal
