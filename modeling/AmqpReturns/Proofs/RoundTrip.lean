import AmqpReturns.Proofs.Headers
import AmqpReturns.Proofs.Routing

/-!
# Proofs — the way of a message out and back

An event that a handler sends through a publisher leaves behind a listener of its own, bound to
the publisher's connector, and a confirmation pending for it.  When the broker gives the message
back as it was, the processors of the handler's chain are handed the message that was sent, with
the properties that `inbound_basicProperties` lists (`returned_message_round_trip`).  Whatever
else happens between the publish and the confirmation makes no difference.
-/

namespace AmqpReturns

open World

variable {σ : Type}

/-! ### The message in a dispatch -/

section

variable {d : Dispatching σ} {c : Connector σ} {r : Returned}

theorem create_standard (hf : c.factory = .standard) (w : World σ) :
    ∃ w', c.create r w = (.ok (r.recover c.context.defaultEncoding), w') := by
  simp only [Connector.create, hf]
  exact ⟨_, rfl⟩

/-- The calls for processors that have no transformers before them. -/
def Slot.IsTurn : Slot σ → Prop
  | .endpoint _ | .process _ => True
  | .create | .transform _ => False

/-- What a dispatch has in hand is all of one message. -/
def Held.Carries (s : Held) (m : Message) : Prop :=
  s.message = m ∧ s.event.message = m

theorem Slot.IsTurn.carries {x : Slot σ} {s s₁ : Held} {w w₁ : World σ} {m : Message}
    (hx : x.IsTurn) (h : x.make d c r s w = (.ok s₁, w₁)) (hs : s.Carries m) : s₁.Carries m := by
  cases x with
  | create => exact hx.elim
  | transform t => exact hx.elim
  | endpoint p =>
      obtain ⟨endpoint, w₂, -, rfl, -⟩ := endpoint_made h
      exact ⟨hs.1, hs.1⟩
  | process p =>
      obtain rfl := process_made h
      exact hs

/-- Without transformers, every processor that is called is handed the one message. -/
theorem Course.carries {w w' : World σ} {s : Held} {xs : List (Slot σ)} {cs : List Call}
    {out : Except Halt Held} {m : Message} (h : Course d c r w s xs cs out w')
    (hxs : ∀ x ∈ xs, x.IsTurn) (hs : s.Carries m) :
    ∀ party e, .process party e ∈ cs → e.message = m := by
  have call {x : Slot σ} {s : Held} (hs : s.Carries m) {party : Party} {e : Event}
      (h : Call.process party e = x.call c r s) : e.message = m := by
    cases x with
    | process p => cases h; exact hs.2
    | create => cases h
    | endpoint p => cases h
    | transform t => cases h
  induction h with
  | done => exact fun _ _ h => absurd h List.not_mem_nil
  | next h _ ih =>
      intro party e he
      rcases List.mem_cons.mp he with he | he
      · exact call hs he
      · have hx := hxs _ List.mem_cons_self
        exact ih (fun y hy => hxs y (List.mem_cons_of_mem _ hy)) (hx.carries h hs) party e he
  | halt _ h => exact fun party e he => call hs (List.mem_singleton.mp he)

/-- With the standard factory that message is the one recovered from the return. -/
theorem Course.recovers (hf : c.factory = .standard) (ht : c.transformers = [])
    {w w' : World σ} {s : Held} {cs : List Call} {out : Except Halt Held}
    (h : Course d c r w s (d.schedule c) cs out w')
    (hs : s.event.message = r.recover c.context.defaultEncoding) :
    ∀ party e, .process party e ∈ cs →
      e.message = r.recover c.context.defaultEncoding := by
  obtain ⟨w₂, hc⟩ := create_standard (r := r) hf w
  have hm := create_make (d := d) (c := c) (r := r) w s
  rw [hc] at hm
  have hturns : ∀ x ∈ d.chain.processors.flatMap c.turn, x.IsTurn := by
    intro x hx
    obtain ⟨p, -, hx⟩ := List.mem_flatMap.mp hx
    simp only [Connector.turn, ht, List.map_nil, List.nil_append, List.mem_cons,
      List.not_mem_nil, or_false] at hx
    rcases hx with rfl | rfl
    · trivial
    · trivial
  cases h with
  | next h t =>
      cases hm.symm.trans h
      intro party e he
      rcases List.mem_cons.mp he with he | he
      · cases he
      · exact t.carries hturns ⟨rfl, hs⟩ party e he
  | halt _ h => cases hm.symm.trans h

end

/-! ### What processors are handed -/

/-- An entry that is no call on a processor, or one with an event of this message. -/
def Entry.Hands (m : Message) (x : Entry) : Prop :=
  ∀ party e, x = .call (.process party e) → e.message = m

/-- A bound listener hands on what its connector recovers. -/
theorem Dispatching.onReturn_hands (d : Dispatching σ) {c : Connector σ}
    (hc : d.connector = some c) (hf : c.factory = .standard) (ht : c.transformers = [])
    (reason : String) (r : Returned) (w : World σ) :
    Wrote (Entry.Hands (r.recover c.context.defaultEncoding)) w (d.onReturn reason r w) := by
  -- What is in hand at the start is of no account; here it is the message itself.
  obtain ⟨calls, out, w', hcourse, ⟨es, hes, hcalls⟩, -⟩ := d.onReturn_course hc reason r w
    ⟨default, { (default : Event) with message := r.recover c.context.defaultEncoding }⟩
  refine ⟨es, hes, ?_⟩
  rintro _ hx party e rfl
  have hmem : Call.process party e ∈ calls := by
    rw [← hcalls]
    exact List.mem_filterMap.mpr ⟨_, hx, rfl⟩
  exact hcourse.recovers hf ht rfl party e hmem

/-- A listener hears of the message with its confirmation, whether that is positive or not. -/
theorem complete_hands (w : World σ) {p : Pending} {d : Dispatching σ} {c : Connector σ}
    {r : Returned} (hl : w.listener? p.listener = some (.dispatching d))
    (hc : d.connector = some c) (hf : c.factory = .standard) (ht : c.transformers = [])
    (hr : p.confirmation.returned? = some r) :
    Wrote (Entry.Hands (r.recover c.context.defaultEncoding)) w (w.complete p) := by
  obtain ⟨l, confirmation⟩ := p
  cases confirmation with
  | ack r' =>
      obtain rfl : r' = some r := hr
      have hw : w.complete ⟨l, .ack (some r)⟩ = d.onReturn r.reason r w :=
        onReturn_dispatching hl r
      rw [hw]
      exact d.onReturn_hands hc hf ht r.reason r w
  | nack r' =>
      obtain rfl : r' = some r := hr
      have hl' : (w.log .warn "publisher confirm NACK").listener? l =
          some (.dispatching d) := hl
      have hw : w.complete ⟨l, .nack (some r)⟩ =
          d.onReturn r.reason r (w.log .warn "publisher confirm NACK") :=
        onReturn_dispatching hl' r
      rw [hw]
      exact (wrote_write w nofun).trans (d.onReturn_hands hc hf ht r.reason r _)
  | notRequested => cases hr
  | failed => cases hr

/-! ### Out through a handler -/

/-- The listener that a handler attaches to an event. -/
def World.attached (w : World σ) (h : HandlerRef) (e : Event) : Dispatching σ :=
  (Dispatching.ofChain (w.useChain h).1).forEvent e

/-- The place of the listener that is attached next. -/
def World.nextRef (w : World σ) : ListenerRef :=
  ⟨w.listeners.length⟩

theorem listener?_attach (h : HandlerRef) (e : Event) (w : World σ) :
    (attach h e w).2.listener? w.nextRef = some (.dispatching (w.attached h e)) := by
  obtain ⟨hs, n, hu⟩ := useChain_eq w h
  rw [attach_eq]
  have hl : (w.useChain h).2.listeners = w.listeners := by rw [hu]
  simp only [log, write, addListener, listener?, hl, nextRef, List.getElem?_concat_length]
  rfl

/-- What a handler in front of a publisher does, when the publish succeeds: a bound listener for
the handler's chain stands with the broker's answer to the very message that was sent. -/
theorem send_handler_publisher {h : HandlerRef} {channel : ChannelRef} {c : Connector σ}
    {e e' : Event} {o : PublishOptions} {ep : Endpoint} {w w' : World σ}
    (hep : e.endpoint = some ep)
    (hs : (Outbound.handler h (.publisher channel c)).send e o w = (.ok e', w')) :
    ∃ conf, w.answer channel (w.publication e ep o) = some conf ∧
      w'.pending = w.pending ++ [⟨w.nextRef, conf⟩] ∧
      w'.listener? w.nextRef = some (.dispatching ((w.attached h e).forConnector c)) := by
  rw [send_handler] at hs
  have hl := listener?_attach h e w
  obtain ⟨conf, ha, hp, hw⟩ := publish_ok hep hs
  obtain ⟨us, n, hu⟩ := useChain_eq w h
  -- Attaching leaves alone all that the message and the broker's answer hang on.
  have hpub : (attach h e w).2.publication e ep { o with listener := some w.nextRef } =
      w.publication e ep o := by
    simp only [attach_eq, hu, publication, log, write, addListener, draw]
  have hans (p : Publication) : (attach h e w).2.answer channel p = w.answer channel p :=
    answer_congr (by rw [attach_eq, hu]; rfl) (by rw [attach_eq, hu]; rfl) channel p
  have hpend : (attach h e w).2.pending = w.pending := by rw [attach_eq, hu]; rfl
  refine ⟨conf, ?_, ?_, ?_⟩
  · rw [← hans, ← hpub]
    exact ha
  · rw [hp, hpend]
    rfl
  · have hens : (attach h e w).2.ensureConnector w.nextRef c =
        (attach h e w).2.setListener w.nextRef
          (.dispatching ((w.attached h e).forConnector c)) := by
      simp only [ensureConnector, hl]
      rfl
    have hr : w'.listener? w.nextRef =
        ((attach h e w).2.ensureConnector w.nextRef c).listener? w.nextRef := by
      simp only [listener?, hw]
      rfl
    rw [hr, hens, listener?_setListener, if_pos rfl, hl]
    rfl

/-! ### And back -/

/-- The message given back as it was, with the broker's verdict. -/
def Publication.returned (p : Publication) (code : UInt16) (text : String) : Returned :=
  { replyCode := code
    replyText := text
    exchange := p.exchange
    routingKey := p.routingKey
    properties := p.properties
    body := p.body }

/-- A bound listener is the same after any moves. -/
theorem listener?_after {w : World σ} {ref : ListenerRef} {d : Dispatching σ} {c : Connector σ}
    (hl : w.listener? ref = some (.dispatching d)) (hc : d.connector = some c)
    (ms : List (Move σ)) : (w.after ms).listener? ref = some (.dispatching d) := by
  obtain ⟨posted, h⟩ := History.exists_posted ms w
  obtain ⟨l, hl', g⟩ := h.heard ref _ hl
  cases g with
  | grow g =>
      -- It has its connector already, so it cannot get one.
      rw [hl', g.of_bound hc]

/-- **There and back.**  An event is sent through a handler in front of a publisher, and the
publish succeeds.  Then a listener of the handler's chain and the broker's answer are left
pending; and if with that answer the message comes back as it was, then, whatever has happened
meanwhile, each processor that is called is handed the payload, and the properties in their
layers. -/
theorem returned_message_round_trip (h : HandlerRef) (channel : ChannelRef) (c : Connector σ)
    (e e' : Event) (o : PublishOptions) (ep : Endpoint) (w w' : World σ)
    (hf : c.factory = .standard) (ht : c.transformers = []) (hep : e.endpoint = some ep)
    (hs : (Outbound.handler h (.publisher channel c)).send e o w = (.ok e', w')) :
    ∃ conf, w.answer channel (w.publication e ep o) = some conf ∧
      w'.pending = w.pending ++ [⟨w.nextRef, conf⟩] ∧
      ∀ code text, conf.returned? = some ((w.publication e ep o).returned code text) →
        ∀ (ms : List (Move σ)) (i : Nat), (w'.after ms).pending[i]? = some ⟨w.nextRef, conf⟩ →
          (w'.after ms).listener? w.nextRef =
            some (.dispatching ((w.attached h e).forConnector c)) ∧
          Wrote
            (Entry.Hands
              { payload := e.message.payload
                encoding := c.context.defaultEncoding
                inbound :=
                  (((w.propagator.texts w.caller).insertMany
                    e.message.outbound.normalized).insertMany
                    [("content-type", .text "application/json"),
                      ("content-encoding", .text e.message.encoding),
                      ("message-id", .text w.draw.1.text)]).insertMany
                    [("amqp.return.reply-code", .uint code.toUInt64),
                      ("amqp.return.reply-text", .text text),
                      ("amqp.return.exchange", .text ep.exchange),
                      ("amqp.return.routing-key", .text ep.routingKey)]
                outbound := .empty })
            (w'.after ms) ((w'.after ms).completeAt i) := by
  obtain ⟨conf, ha, hp, hl⟩ := send_handler_publisher hep hs
  refine ⟨conf, ha, hp, fun code text hr ms i hi => ?_⟩
  have hl' := listener?_after hl rfl ms
  refine ⟨hl', ?_⟩
  have hin := inbound_basicProperties e.message w.propagator w.caller w.draw.1
    (r := (w.publication e ep o).returned code text) rfl
  have hc := complete_hands { w'.after ms with pending := (w'.after ms).pending.eraseIdx i }
    (p := ⟨w.nextRef, conf⟩) hl' rfl hf ht hr
  rw [Returned.recover, hin] at hc
  simp only [completeAt, hi]
  exact hc

/-- A connector that leaves everything to the defaults. -/
def plain : Connector Unit :=
  { name := "amqp", context := ⟨"utf-8"⟩ }

/-- A handler with one processor, and a broker that gives the next message back. -/
def returning : World Unit :=
  { outside := ()
    handlers := [some ⟨0, [.service { name := "last", process := fun e u => ⟨.ok e, u, []⟩ }]⟩]
    brokers := [{ replies := [.returnAck {}] }]
    channels := [{ broker := 0, confirms := true }]
    propagator := { inject := [("Trace", "t"), ("Span", "s")] } }

/-- An event whose properties meet the trace, the basic properties and the limits of numbers. -/
def laden : Event :=
  { id := ⟨1⟩
    message :=
      { payload := [1, 2], encoding := "utf-16", inbound := .empty
        outbound := .ofList [("trace", .bool true), ("content-type", .text "text/plain"),
          ("big", .uint 4294967296), ("small", .uint 4294967295)] }
    endpoint := some { name := "out", exchange := "x", routingKey := "k" }
    session := { id := ⟨0⟩, flow := none, context := ⟨"utf-8"⟩ } }

/-- Three calls are made, the last on the one processor.  It is handed properties of which some
were overwritten and one has become a signed number. -/
theorem returned_message_round_trip_laden :
    ∃ w', (Outbound.handler ⟨0⟩ (.publisher ⟨0, 1⟩ plain)).send laden {} returning =
        (.ok laden, w') ∧
      ((w'.completeAt 0).record.filterMap Entry.dispatched?).length = 3 ∧
      Wrote
        (Entry.Hands
          { payload := [1, 2]
            encoding := "utf-8"
            inbound := .ofList [("span", .text "s"), ("trace", .bool true),
              ("big", .int 4294967296), ("small", .uint 4294967295),
              ("content-type", .text "application/json"), ("content-encoding", .text "utf-16"),
              ("message-id", .text "a3c81f5e-7d02-4b96-8e4f-000000000000"),
              ("amqp.return.reply-code", .uint 312), ("amqp.return.reply-text", .text "NO_ROUTE"),
              ("amqp.return.exchange", .text "x"), ("amqp.return.routing-key", .text "k")]
            outbound := .empty })
        w' (w'.completeAt 0) := by
  refine ⟨_, rfl, ?_, ?_⟩
  · decide +kernel
  · obtain ⟨conf, ha, hp, h⟩ := returned_message_round_trip ⟨0⟩ ⟨0, 1⟩ plain laden laden {}
      { name := "out", exchange := "x", routingKey := "k" } returning _ rfl rfl rfl rfl
    cases ha
    obtain ⟨-, hw⟩ := h 312 "NO_ROUTE" rfl [] 0 rfl
    refine hw.mono fun x hx party e he => (hx party e he).trans ?_
    decide +kernel

end AmqpReturns
