import AmqpReturns.Flow.Record
import AmqpReturns.Text.Lower
import AmqpReturns.Text.Utf8
import AmqpReturns.Wire.Value

/-!
# Flow — the world

The state the bus works on: listeners and handlers' chains, which copies share and which are
referred to by their place; the brokers and channels, and what was asked of these; the published
messages that wait for their confirmation; the record of what happened; and the state outside the
bus.

Listener 0 is the logging listener of the whole process, which hears of the messages published
without a listener.
-/

namespace AmqpReturns

/-- A listener that hands returned messages to processors. -/
structure Dispatching (σ : Type) where
  /-- The endpoint of the event that was published, for processors which name none. -/
  endpoint : Option Endpoint := none
  /-- The flow of the event that was published. -/
  flow : Option Flow := none
  chain : Chain σ
  /-- The connector, once bound. -/
  connector : Option (Connector σ) := none

/-- Who hears of returned messages. -/
inductive Listener (σ : Type) where
  /-- Counts and logs them. -/
  | logging (hits : UInt64)
  | dispatching (d : Dispatching σ)

/-- A published message which waits for its confirmation to be handled. -/
structure Pending where
  listener : ListenerRef
  confirmation : Confirmation

/-- How trace contexts travel in headers: the fields asked for on the way in, and the pairs set
on the way out. -/
structure Propagator where
  fields : List String := []
  inject : List (String × String) := []

/-- The state the bus works on. -/
structure World (σ : Type) where
  /-- The state outside the bus. -/
  outside : σ
  listeners : List (Listener σ) := [.logging 0]
  /-- The chains of handlers; `none` until it is set or first used. -/
  handlers : List (Option (Chain σ)) := []
  brokers : List Broker := []
  channels : List Channel := []
  /-- What was asked of channels so far, in order, whether it came to anything or not. -/
  requests : List (ChannelRef × Broker.Method) := []
  /-- The messages that wait for their confirmation to be handled, in the order of publishing. -/
  pending : List Pending := []
  /-- What happened so far. -/
  record : List Entry := []
  /-- How many identities have been drawn. -/
  drawn : Nat := 0
  /-- How many chains have been made. -/
  chains : Nat := 0
  propagator : Propagator := {}
  /-- The trace context of the caller, where there is one. -/
  caller : Option String := none

/-- The logging listener of the process. -/
def ListenerRef.shared : ListenerRef := ⟨0⟩

namespace World

variable {σ : Type}

/-! ### The record -/

/-- Writes down what happened. -/
def write (w : World σ) (e : Entry) : World σ :=
  { w with record := w.record ++ [e] }

/-- Logs. -/
def log (w : World σ) (level : Level) (message : String)
    (fields : List (String × LogValue) := []) : World σ :=
  w.write (.log ⟨level, message, fields⟩)

/-- Writes down a call and what came of it. -/
def writeCall {α : Type} (w : World σ) (c : Call) (r : Reply σ α) : World σ :=
  { w with outside := r.outside, record := w.record ++ .call c :: r.notes.map .note }

/-! ### Places -/

/-- The listener at a place. -/
def listener? (w : World σ) (l : ListenerRef) : Option (Listener σ) :=
  w.listeners[l.index]?

/-- Puts a listener in a place of its own. -/
def addListener (w : World σ) (l : Listener σ) : ListenerRef × World σ :=
  (⟨w.listeners.length⟩, { w with listeners := w.listeners ++ [l] })

/-- Changes the listener at a place. -/
def setListener (w : World σ) (ref : ListenerRef) (l : Listener σ) : World σ :=
  { w with listeners := w.listeners.set ref.index l }

theorem listener?_addListener (w : World σ) (l : Listener σ) (ref : ListenerRef) :
    (w.addListener l).2.listener? ref =
      if ref = (w.addListener l).1 then some l else w.listener? ref := by
  obtain ⟨i⟩ := ref
  simp only [addListener, listener?, List.getElem?_append, ListenerRef.mk.injEq]
  split
  · next h => rw [if_neg (Nat.ne_of_lt h)]
  · next h =>
    rcases Nat.eq_or_lt_of_le (Nat.not_lt.1 h) with h | h
    · simp [← h]
    · have hi : [l].length ≤ i - w.listeners.length := by simp only [List.length_singleton]; omega
      rw [if_neg (Nat.ne_of_gt h), List.getElem?_eq_none hi,
        List.getElem?_eq_none (Nat.le_of_lt h)]

theorem listener?_setListener (w : World σ) (ref : ListenerRef) (l : Listener σ)
    (ref' : ListenerRef) :
    (w.setListener ref l).listener? ref' =
      if ref' = ref then (w.listener? ref).map fun _ => l else w.listener? ref' := by
  obtain ⟨i⟩ := ref
  obtain ⟨j⟩ := ref'
  simp only [setListener, listener?, List.getElem?_set, ListenerRef.mk.injEq]
  by_cases h : i = j
  · subst h
    by_cases hi : i < w.listeners.length <;> simp [hi]
  · simp [h, Ne.symm h]

/-- A listener as it can be seen from outside. -/
def view? (w : World σ) (ref : ListenerRef) : Option ListenerView :=
  match w.listener? ref with
  | none => none
  | some (.logging hits) => some (.logging (ref = .shared) hits)
  | some (.dispatching d) =>
    some (.dispatching (d.connector.map (·.name)) d.endpoint d.flow d.chain.processors.length)

/-- Draws an identity. -/
def draw (w : World σ) : Identity × World σ :=
  (⟨w.drawn⟩, { w with drawn := w.drawn + 1 })

/-- Makes a chain, unlike any other. -/
def makeChain (w : World σ) (processors : List (Processor σ)) : Chain σ × World σ :=
  (⟨w.chains, processors⟩, { w with chains := w.chains + 1 })

/-! ### Handlers -/

/-- A handler whose chain is not set. -/
def addHandler (w : World σ) : HandlerRef × World σ :=
  (⟨w.handlers.length⟩, { w with handlers := w.handlers ++ [none] })

/-- The chain of a handler, once set. -/
def chain? (w : World σ) (h : HandlerRef) : Option (Chain σ) :=
  (w.handlers[h.index]?).join

/-- Sets the chain of a handler, which can be done once, before its first use. -/
def setProcessors (w : World σ) (h : HandlerRef) (processors : List (Processor σ)) :
    Except Failure Unit × World σ :=
  match w.chain? h with
  | some _ => (.error .processorsAlreadyConfigured, w)
  | none =>
    let (c, w) := w.makeChain processors
    (.ok (), { w with handlers := w.handlers.set h.index (some c) })

/-- The chain of a handler.  One that was not set is empty from now on. -/
def useChain (w : World σ) (h : HandlerRef) : Chain σ × World σ :=
  match w.chain? h with
  | some c => (c, w)
  | none =>
    let (c, w) := w.makeChain []
    (c, { w with handlers := w.handlers.set h.index (some c) })

theorem chain?_useChain (w : World σ) {h : HandlerRef} (hh : h.index < w.handlers.length) :
    (w.useChain h).2.chain? h = some (w.useChain h).1 := by
  unfold useChain
  split
  · assumption
  · simp [chain?, makeChain, hh]

/-! ### Binding -/

/-- Binds a connector to a dispatching listener that has none. -/
def ensureConnector (w : World σ) (ref : ListenerRef) (c : Connector σ) : World σ :=
  match w.listener? ref with
  | some (.dispatching d) =>
    match d.connector with
    | none => w.setListener ref (.dispatching { d with connector := some c })
    | some _ => w
  | _ => w

/-- Binds a connector to a dispatching listener, which can be done once.  Nothing is answered for
a listener that takes no connector. -/
def bindConnector (w : World σ) (ref : ListenerRef) (c : Connector σ) :
    Option (Except Failure Unit) × World σ :=
  match w.listener? ref with
  | some (.dispatching d) =>
    match d.connector with
    | some _ => (some (.error .listenerAlreadyBound), w)
    | none => (some (.ok ()), w.setListener ref (.dispatching { d with connector := some c }))
  | _ => (none, w)

end World

/-! ### Building listeners -/

namespace Dispatching

variable {σ : Type}

/-- A listener for a chain. -/
def ofChain (chain : Chain σ) : Dispatching σ := { chain }

/-- The listener, for the endpoint and the flow of an event. -/
def forEvent (d : Dispatching σ) (e : Event) : Dispatching σ :=
  { d with endpoint := e.endpoint, flow := e.flow }

/-- The listener, bound to a connector. -/
def forConnector (d : Dispatching σ) (c : Connector σ) : Dispatching σ :=
  { d with connector := some c }

end Dispatching

end AmqpReturns
