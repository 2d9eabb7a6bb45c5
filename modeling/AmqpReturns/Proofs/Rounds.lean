import AmqpReturns.Proofs.Sight
import AmqpReturns.Proofs.Tally
import AmqpReturns.Proofs.Tracing

/-!
# Proofs — a message that goes round

A handler in front of a publisher may stand in its own chain.  Then a message that comes back is
published once more, with a new listener of the same chain, and goes round as long as the broker
gives it back (`Circuit.Rounds`).  A round is a publish, and what brings it about: at first the
event is sent, and from then on a confirmation is handled.

* `Circuit.send_hop`: what sending an event through the handler comes to, in any world.
* `Circuit.onReturn_resends`: what comes back is sent through the handler, without options, in a
  world where two identities have been drawn.
* `Circuit.Rounds.hop`: every round is alike, and `rounds_alike` says what that comes to.
-/

namespace AmqpReturns

open World
open scoped List

variable {σ : Type}

/-! ### Turns on listeners that are there -/

/-- A turn that names no listener but those that are there. -/
def Turn.Known (w : World σ) : Turn σ → Prop
  | .deed m => m.Known w
  | .set _ _ | .look _ | .add => True

/-- Turns that name, each in its time, no listener but those that are there. -/
def World.Known (w : World σ) : List (Turn σ) → Prop
  | [] => True
  | t :: ts => t.Known w ∧ (t.run w).Known ts

theorem ready_turn {t : Turn σ} {w : World σ} (hk : t.Known w) (h : w.Ready) :
    (t.run w).Ready := by
  rcases t.run_cases w with ⟨m, rfl, ks, he⟩ | ⟨ks, n, he⟩
  · rw [he]
    exact (ready_deed m hk h).of_eq rfl rfl
  · rw [he]
    exact h.of_eq rfl rfl

/-- Confirmations keep waiting with ready listeners over any such turns. -/
theorem ready_past {ts : List (Turn σ)} {w : World σ} (hk : w.Known ts) (h : w.Ready) :
    (w.past ts).Ready := by
  induction ts generalizing w with
  | nil => exact h
  | cons t ts ih => exact ih hk.2 (ready_turn hk.1 h)

/-- A bound listener is the same after any turns. -/
theorem listener?_past {w : World σ} {ref : ListenerRef} {d : Dispatching σ} {c : Connector σ}
    (hl : w.listener? ref = some (.dispatching d)) (hc : d.connector = some c)
    (ts : List (Turn σ)) : (w.past ts).listener? ref = some (.dispatching d) := by
  obtain ⟨l, hl', g⟩ := heard_past ts w ref _ hl
  cases g with
  | grow g => rw [hl', g.of_bound hc]

/-! ### A dispatch to a handler alone -/

/-- What a listener does with a returned message is its dispatch, but for the record. -/
theorem Dispatching.onReturn_dispatch (d : Dispatching σ) (reason : String) (r : Returned)
    (w : World σ) : ∃ log, d.onReturn reason r w =
      { (d.dispatch r (w.extracted r)).2 with record := log } := by
  rw [onReturn_eq]
  rcases d.dispatch r (w.extracted r) with ⟨h | u, w₁⟩
  · exact ⟨_, rfl⟩
  · exact ⟨_, rfl⟩

/-- A dispatch to one processor is handing it the recovered message, but for the record. -/
theorem Dispatching.dispatch_one (d : Dispatching σ) {c : Connector σ} (hc : d.connector = some c)
    (hf : c.factory = .standard) (r : Returned) {p : Processor σ}
    (hp : d.chain.processors = [p]) (w : World σ) :
    ∃ log, (d.dispatch r w).2 =
      { (d.deliver c (r.recover c.context.defaultEncoding) p
          (w.write (.call (.create false c.context.defaultEncoding r)))).2 with
        record := log } := by
  have hcreate : c.create r w = (.ok (r.recover c.context.defaultEncoding),
      w.write (.call (.create false c.context.defaultEncoding r))) := by
    simp only [Connector.create, hf, Act.call_apply]
    rfl
  simp only [dispatch, hc]
  rw [Act.bind_ok hcreate, hp]
  generalize w.write (.call (.create false c.context.defaultEncoding r)) = w₁
  rcases h : d.deliver c (r.recover c.context.defaultEncoding) p w₁ with ⟨e | u, w₂⟩
  · have hps : [p].forM (d.deliver c (r.recover c.context.defaultEncoding)) w₁ =
        (.error e, w₂) := Act.bind_error h
    rw [Act.bind_error hps]
    exact ⟨_, rfl⟩
  · have hps : [p].forM (d.deliver c (r.recover c.context.defaultEncoding)) w₁ =
        (.ok (), w₂) := Act.bind_ok h
    rw [Act.bind_ok hps]
    exact ⟨_, rfl⟩

/-- Handing a message to a handler, without transformers, is sending the event through it. -/
theorem deliver_handler {d : Dispatching σ} {c : Connector σ} (ht : c.transformers = [])
    (h : HandlerRef) (next : Outbound σ) (m : Message) (w : World σ) :
    (d.deliver c m (.handler h next) w).2 =
      ((Outbound.handler h next).send (d.eventFor c m none w) {}
        { w with
          record := w.record ++ [.call (.endpoint (.handler h))] ++
            [.call (.process (.handler h) (d.eventFor c m none w))]
          drawn := w.drawn + 2 }).2 := by
  have hendpoint : (Processor.handler h next).endpoint w = (.ok none,
      w.writeCall (.endpoint (.handler h))
        (⟨.ok none, w.outside, []⟩ : Reply σ (Option Endpoint))) := rfl
  have htransform (e : Event) (v : World σ) : c.transform e v = (.ok e, v) := by
    simp only [Connector.transform, ht, applyTransformers, Except.map]
  simp only [Dispatching.deliver]
  rw [Act.bind_ok hendpoint, Act.bind_ok (Act.run_apply _ _), Act.bind_ok (Act.run_apply _ _),
    Act.bind_ok (htransform _ _), Act.snd_bind_pure, process_handler]
  rfl

/-! ### The circuit -/

/-- A handler in front of a publisher, which stands in its own chain, and an event to be sent
through it.  The connector leaves messages as they come back. -/
structure Circuit (σ : Type) where
  handler : HandlerRef
  channel : ChannelRef
  connector : Connector σ
  chain : Chain σ
  event : Event
  endpoint : Endpoint
  standard : connector.factory = .standard
  untransformed : connector.transformers = []
  processors : chain.processors = [.handler handler (.publisher channel connector)]
  addressed : event.endpoint = some endpoint

/-- The channel takes the message, and the broker gives it back as it is. -/
def World.GivesBack (w : World σ) (channel : ChannelRef) (p : Publication) : Prop :=
  ∃ conf code text, w.answer channel p = some conf ∧
    conf.returned? = some (p.returned code text)

namespace Circuit

variable (K : Circuit σ)

/-- The handler in front of the publisher. -/
def outbound : Outbound σ :=
  .handler K.handler (.publisher K.channel K.connector)

/-- The listener that each round leaves behind. -/
def listener : Dispatching σ :=
  { endpoint := some K.endpoint
    flow := K.event.flow
    chain := K.chain
    connector := some K.connector }

/-- The message that is published when `r` comes back in `w`. -/
def again (w : World σ) (r : Returned) : Publication :=
  { exchange := K.endpoint.exchange
    routingKey := K.endpoint.routingKey
    mandatory := K.endpoint.mandatory
    immediate := false
    properties :=
      { contentType := some "application/json"
        contentEncoding := some K.connector.context.defaultEncoding
        messageId := some (Identity.text ⟨w.drawn + 2⟩)
        headers := some (w.propagator.injected w.caller) }
    body := r.body }

/-- Rounds, each from the world in which it starts to the one that it leaves.  The first sends the
event, with options.  Between two rounds there are any turns; the next one starts where the
confirmation that the last one left is handled.  In each the broker gives the message back. -/
inductive Rounds (o : PublishOptions) : Nat → World σ → World σ → Prop where
  | first {w : World σ} (hc : w.chain? K.handler = some K.chain) (hr : w.Ready)
      (hb : w.GivesBack K.channel (w.publication K.event K.endpoint o)) :
      Rounds o 1 w (K.outbound.send K.event o w).2
  | next {n : Nat} {v v' : World σ} {q : Pending} {r : Returned} {ts : List (Turn σ)} {i : Nat}
      (h : Rounds o n v v') (hq : v'.pending.getLast? = some q)
      (hr : q.confirmation.returned? = some r) (hk : v'.Known ts)
      (hi : (v'.past ts).pending[i]? = some q)
      (hb : (v'.past ts).GivesBack K.channel (K.again (v'.past ts) r)) :
      Rounds o (n + 1) (v'.past ts) ((v'.past ts).completeAt i)

/-- What a round comes to: one broker sees the one message, which comes back to a new listener,
and nothing else does. -/
structure Hop (p : Publication) (v v' : World σ) : Prop where
  received : ∃ b, v.receiver? K.channel = some b
  sees : Sees (sight (v.receiver? K.channel) (.publish K.channel.number p)) v v'
  listener : v'.listener? v.nextRef = some (.dispatching K.listener)
  waits : ∃ rest conf code text, v'.pending = rest ++ [⟨v.nextRef, conf⟩] ∧
    conf.returned? = some (p.returned code text) ∧ ∀ q ∈ rest, q.listener ≠ v.nextRef
  chain : v'.chain? K.handler = some K.chain
  ready : v'.Ready

/-! ### Sending -/

/-- **Sending through the handler**, with a message that comes back. -/
theorem send_hop {e : Event} {o : PublishOptions} {w : World σ}
    (he : e.endpoint = some K.endpoint) (hf : e.flow = K.event.flow)
    (hc : w.chain? K.handler = some K.chain) (hr : w.Ready)
    (hb : w.GivesBack K.channel (w.publication e K.endpoint o)) :
    K.Hop (w.publication e K.endpoint o) w (K.outbound.send e o w).2 := by
  obtain ⟨conf, code, text, ha, hback⟩ := hb
  obtain ⟨hp, hbrokers, hchannels⟩ := attach_publication K.handler e w e K.endpoint o
    { o with listener := some w.nextRef } rfl
  -- The publish behind the attachment is taken, since the broker's answer is the same there.
  have hanswer : (attach K.handler e w).2.answer K.channel ((attach K.handler e w).2.publication e
      K.endpoint { o with listener := some w.nextRef }) = some conf := by
    rw [hp, answer_congr hbrokers hchannels, ha]
  have hsend : K.outbound.send e o w = (.ok e, (K.outbound.send e o w).2) := by
    have htaken := congrArg Prod.fst (publish_taken (c := K.connector) he hanswer)
    rw [outbound, send_handler]
    exact Prod.ext htaken rfl
  obtain ⟨conf', ha', hpend, hl⟩ := send_handler_publisher he hsend
  obtain rfl := Option.some.inj (ha.symm.trans ha')
  have hattached : (w.attached K.handler e).forConnector K.connector = K.listener := by
    rw [attached, useChain_settled hc]
    simp only [Dispatching.forConnector, Dispatching.forEvent, Dispatching.ofChain, he, hf,
      Circuit.listener]
  refine ⟨receiver?_of_returned ha hback, sees_behind [K.handler] he, hattached ▸ hl,
    ⟨w.pending, conf, code, text, hpend, hback, fun q hq => ?_⟩,
    (used_send K.outbound e o w).stays _ _ hc, ?_⟩
  · obtain ⟨l, hl, -⟩ := hr.pending q hq
    exact nextRef_ne hl
  · rw [outbound, send_handler]
    exact ready_send _ e _ ⟨_, listener?_attach K.handler e w⟩ (ready_attach K.handler e hr)

/-! ### Coming back -/

/-- The event that is made of a returned message. -/
def resent (w : World σ) (r : Returned) : Event :=
  { id := ⟨w.drawn + 1⟩
    message := r.recover K.connector.context.defaultEncoding
    endpoint := some K.endpoint
    session := { id := ⟨w.drawn⟩, flow := K.event.flow, context := K.connector.context } }

/-- It is published as `Circuit.again` says: nothing of the message goes out but its payload. -/
theorem publication_resent (w : World σ) (ps : List Pending) (log : List Entry) (r : Returned) :
    ({ w with pending := ps, record := log, drawn := w.drawn + 2 } : World σ).publication
      (K.resent w r) K.endpoint {} = K.again w r :=
  rfl

/-- **What comes back is sent through the handler**, without options, in a world where two
identities have been drawn. -/
theorem onReturn_resends (reason : String) (r : Returned) (w : World σ) :
    ∃ log log', K.listener.onReturn reason r w =
      { (K.outbound.send (K.resent w r) {} { w with record := log, drawn := w.drawn + 2 }).2 with
        record := log' } := by
  obtain ⟨es, hx, -⟩ := extracted_eq w r
  obtain ⟨log, ho⟩ := K.listener.onReturn_dispatch reason r w
  obtain ⟨log', hd⟩ := K.listener.dispatch_one rfl K.standard r K.processors (w.extracted r)
  rw [ho, hd, deliver_handler K.untransformed, hx]
  exact ⟨_, _, rfl⟩

/-- So is what comes with a confirmation that is handled. -/
theorem completeAt_resends {w : World σ} {i : Nat} {q : Pending} {r : Returned}
    (hi : w.pending[i]? = some q) (hr : q.confirmation.returned? = some r)
    (hl : w.listener? q.listener = some (.dispatching K.listener)) :
    ∃ log log', w.completeAt i =
      { (K.outbound.send (K.resent w r) {}
          { w with pending := w.pending.eraseIdx i, record := log, drawn := w.drawn + 2 }).2 with
        record := log' } := by
  have told {v : World σ} (hv : v.listener? q.listener = some (.dispatching K.listener)) :
      v.onReturn q.listener r = K.listener.onReturn r.reason r v := onReturn_dispatching hv r
  let v : World σ := { w with pending := w.pending.eraseIdx i }
  have hv : w.completeAt i = v.complete q := by simp only [completeAt, hi, v]
  rw [hv]
  rcases complete_returned (v := v) hr with he | he
  · obtain ⟨log, log', h⟩ := K.onReturn_resends r.reason r v
    exact ⟨log, log', (he.trans (told hl)).trans h⟩
  · obtain ⟨log, log', h⟩ :=
      K.onReturn_resends r.reason r (v.log .warn "publisher confirm NACK")
    exact ⟨log, log', (he.trans (told hl)).trans h⟩

/-- **A confirmation that is handled** brings about a round. -/
theorem completeAt_hop {w : World σ} {i : Nat} {q : Pending} {r : Returned}
    (hi : w.pending[i]? = some q) (hr : q.confirmation.returned? = some r)
    (hl : w.listener? q.listener = some (.dispatching K.listener))
    (hc : w.chain? K.handler = some K.chain) (hready : w.Ready)
    (hb : w.GivesBack K.channel (K.again w r)) : K.Hop (K.again w r) w (w.completeAt i) := by
  obtain ⟨log, log', he⟩ := K.completeAt_resends hi hr hl
  let w₁ : World σ :=
    { w with pending := w.pending.eraseIdx i, record := log, drawn := w.drawn + 2 }
  have hready₁ : w₁.Ready := (ready_erase hready i).of_eq rfl rfl
  have hb₁ : w₁.GivesBack K.channel (K.again w r) := by
    obtain ⟨conf, code, text, ha, hback⟩ := hb
    have hanswer : w₁.answer K.channel (K.again w r) = w.answer K.channel (K.again w r) :=
      answer_congr (by rfl) (by rfl) K.channel _
    exact ⟨conf, code, text, hanswer.trans ha, hback⟩
  have hp : w₁.publication (K.resent w r) K.endpoint {} = K.again w r :=
    K.publication_resent w _ log r
  have hop := K.send_hop (e := K.resent w r) (o := {}) (w := w₁) rfl rfl hc hready₁ (hp ▸ hb₁)
  rw [hp] at hop
  rw [he]
  exact ⟨hop.received, hop.sees, hop.listener, hop.waits, hop.chain, hop.ready.of_eq rfl rfl⟩

/-! ### Rounds -/

/-- The confirmation that a round leaves is the last one, and brings the one notice for the new
listener. -/
theorem Hop.last {K : Circuit σ} {p : Publication} {v v' : World σ} (h : K.Hop p v v') :
    ∃ q code text, v'.pending.getLast? = some q ∧ q.listener = v.nextRef ∧
      q.confirmation.returned? = some (p.returned code text) ∧
      noticesFor v.nextRef (notices v'.pending) = [(v.nextRef, p.returned code text)] := by
  obtain ⟨rest, conf, code, text, hp, hback, hrest⟩ := h.waits
  refine ⟨⟨v.nextRef, conf⟩, code, text, by rw [hp, List.getLast?_concat], rfl, hback, ?_⟩
  have hlast : notices [(⟨v.nextRef, conf⟩ : Pending)] = [(v.nextRef, p.returned code text)] := by
    simp only [notices, List.filterMap_cons, List.filterMap_nil, Pending.notice?, hback,
      Option.map_some]
  rw [hp, notices_append, noticesFor_append, noticesFor_eq_nil hrest, hlast, List.nil_append]
  exact List.filter_eq_self.mpr fun n hn => by simp [List.mem_singleton.mp hn]

/-- **Every round is alike.**  It starts from a message of the same kind, and is a publish of the
payload of the event, to its endpoint. -/
theorem Rounds.hop {K : Circuit σ} {o : PublishOptions} {n : Nat} {v v' : World σ}
    (h : K.Rounds o n v v') : ∃ p, K.Hop p v v' ∧ p.body = K.event.message.payload ∧
      ((n = 1 ∧ p = v.publication K.event K.endpoint o) ∨ (2 ≤ n ∧ ∃ r, p = K.again v r)) := by
  induction h with
  | first hc hr hb => exact ⟨_, K.send_hop K.addressed rfl hc hr hb, rfl, .inl ⟨rfl, rfl⟩⟩
  | @next n v v' q r ts i h hq hr hk hi hb ih =>
      obtain ⟨p, hop, hbody, -⟩ := ih
      obtain ⟨q', code, text, hlast, hto, hback, -⟩ := hop.last
      obtain rfl := Option.some.inj (hlast.symm.trans hq)
      obtain rfl := Option.some.inj (hback.symm.trans hr)
      have hl := listener?_past (hto ▸ hop.listener) rfl ts
      have hc := (used_past ts v').stays _ _ hop.chain
      have hpos : 1 ≤ n := by cases h <;> omega
      exact ⟨_, K.completeAt_hop hi hr hl hc (ready_past hk hop.ready) hb, hbody,
        .inr ⟨by omega, _, rfl⟩⟩

end Circuit

/-- **A message goes round without change.**  A handler stands in its own chain, and the broker
gives back, as it is, what is published in each of the rounds of an event.  In a round, whichever
it is, one broker sees the one message, which goes to the exchange and with the routing key of the
event's endpoint and has its payload.  It comes back to a new listener, for the event's endpoint
and flow, of the handler's chain, and with the publisher's connector; and whatever happens then,
this is told of the message once, in addition to what is brought to it from elsewhere.  From the
second round on, the mandatory flag is that of the endpoint, which the options override only in
the first, and the properties are the headers of the trace and those that any message has: none
comes from the event or from the return. -/
theorem rounds_alike (K : Circuit σ) (o : PublishOptions) (n : Nat) (v v' : World σ)
    (h : K.Rounds o n v v') :
    ∃ b p q code text,
      Sees (sight (some b) (.publish K.channel.number p)) v v' ∧
      p.exchange = K.endpoint.exchange ∧ p.routingKey = K.endpoint.routingKey ∧
      p.body = K.event.message.payload ∧
      (n = 1 → p = v.publication K.event K.endpoint o) ∧
      (2 ≤ n → p.mandatory = K.endpoint.mandatory ∧ ∃ id, p.properties =
        { contentType := some "application/json"
          contentEncoding := some K.connector.context.defaultEncoding
          messageId := some id
          headers := some (v.propagator.injected v.caller) }) ∧
      v'.pending.getLast? = some q ∧ q.confirmation.returned? = some (p.returned code text) ∧
      v.listener? q.listener = none ∧
      v'.listener? q.listener = some (.dispatching
        { endpoint := some K.endpoint
          flow := K.event.flow
          chain := K.chain
          connector := some K.connector }) ∧
      ∀ ts : List (Turn σ),
        noticesFor q.listener (v'.told ts ++ notices (v'.past ts).pending) ~
          (q.listener, p.returned code text) :: v'.brought q.listener ts := by
  obtain ⟨p, hop, hbody, hkind⟩ := h.hop
  obtain ⟨b, hb⟩ := hop.received
  obtain ⟨q, code, text, hq, hto, hback, hone⟩ := hop.last
  have hnew : v.listener? v.nextRef = none := List.getElem?_eq_none (Nat.le_refl _)
  refine ⟨b, p, q, code, text, hb ▸ hop.sees, ?_, ?_, hbody, ?_, ?_, hq, hback, hto ▸ hnew,
    hto ▸ hop.listener, fun ts => ?_⟩
  · rcases hkind with ⟨-, rfl⟩ | ⟨-, r, rfl⟩ <;> rfl
  · rcases hkind with ⟨-, rfl⟩ | ⟨-, r, rfl⟩ <;> rfl
  · rintro rfl
    rcases hkind with ⟨-, hp⟩ | ⟨hn, -⟩
    · exact hp
    · omega
  · intro hn
    rcases hkind with ⟨rfl, -⟩ | ⟨-, r, rfl⟩
    · omega
    · exact ⟨rfl, _, rfl⟩
  · rw [hto]
    exact (conserved_past ts hop.listener).trans (List.Perm.of_eq (by rw [hone]; rfl))

/-- A handler in its own chain, and an event for an endpoint that does not ask for returns. -/
def loop : Circuit Unit where
  handler := ⟨0⟩
  channel := ⟨0, 1⟩
  connector := plain
  chain := ⟨0, [.handler ⟨0⟩ (.publisher ⟨0, 1⟩ plain)]⟩
  event :=
    { laden with
      endpoint := some { name := "out", exchange := "x", routingKey := "k", mandatory := false } }
  endpoint := { name := "out", exchange := "x", routingKey := "k", mandatory := false }
  standard := rfl
  untransformed := rfl
  processors := rfl
  addressed := rfl

/-- A broker that gives two messages back, the second with a negative confirmation. -/
def circling : World Unit :=
  { returning with
    handlers := [some loop.chain]
    brokers := [{ replies := [.returnAck {}, .returnNack {}] }] }

/-- Two rounds, of which only the first asks for returns, with a change of the trace context in
between. -/
theorem rounds_alike_loop :
    let o : PublishOptions := { mandatory := some true }
    let w₁ := (loop.outbound.send loop.event o circling).2
    let v₁ := w₁.past [.deed (.move (.around { w₁ with caller := some "t2" }))]
    loop.Rounds o 2 v₁ (v₁.completeAt 0) ∧
      (circling.publication loop.event loop.endpoint o).mandatory = true ∧
      ∃ b p, Sees (sight (some b) (.publish 1 p)) v₁ (v₁.completeAt 0) ∧
        p.mandatory = false ∧ p.body = [1, 2] ∧
        p.properties.headers = some (circling.propagator.injected (some "t2")) := by
  intro o w₁ v₁
  have ready : circling.Ready := ⟨⟨_, rfl⟩, fun _ hp => absurd hp List.not_mem_nil⟩
  have one : loop.Rounds o 1 circling w₁ := .first rfl ready ⟨_, 312, "NO_ROUTE", rfl, rfl⟩
  have two : loop.Rounds o 2 v₁ (v₁.completeAt 0) :=
    .next one rfl (r := (circling.publication loop.event loop.endpoint o).returned 312 "NO_ROUTE")
      rfl ⟨trivial, trivial⟩ rfl ⟨_, 312, "NO_ROUTE", rfl, rfl⟩
  obtain ⟨b, p, -, -, -, hsees, -, -, hbody, -, hlater, -⟩ := rounds_alike loop o 2 _ _ two
  obtain ⟨hmandatory, id, hproperties⟩ := hlater (by decide)
  exact ⟨two, rfl, b, p, hsees, hmandatory, hbody, by rw [hproperties]; rfl⟩

end AmqpReturns
