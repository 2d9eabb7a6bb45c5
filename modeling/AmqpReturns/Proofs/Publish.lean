import AmqpReturns.Flow.Send
import AmqpReturns.Proofs.Act

/-!
# Proofs — publishing

What a publish comes to, on each of its three ways out (`publish_missing`, `publish_refused`,
`publish_taken`).  The message goes out as `World.publication`, in the world `World.readied`,
where the listener is bound and the identity of the message is drawn.  `World.posting` is what a
publish is to leave behind: the listener its options name, or the one of the process, with the
broker's answer.  `pending_publish` says that it leaves just that.
-/

namespace AmqpReturns

variable {σ : Type}

/-- The listener that options name, or else the one of the process. -/
def PublishOptions.resolved (o : PublishOptions) : ListenerRef :=
  o.listener.getD .shared

namespace World

/-- The message of an event as it is published. -/
def publication (w : World σ) (e : Event) (ep : Endpoint) (o : PublishOptions) : Publication :=
  { exchange := ep.exchange
    routingKey := ep.routingKey
    mandatory := o.mandatory.getD ep.mandatory
    immediate := false
    properties := e.message.basicProperties (w.propagator.injected w.caller) w.draw.1
    body := e.message.payload }

/-- The world in which a publish sends its message. -/
def readied (w : World σ) (c : Connector σ) (o : PublishOptions) : World σ :=
  (w.ensureConnector o.resolved c).draw.2

/-- A confirmation is left pending. -/
def pend (w : World σ) (p : Pending) : World σ :=
  { w with pending := w.pending ++ [p] }

/-- The broker's answer to a message, where the channel takes it. -/
def answer (w : World σ) (channel : ChannelRef) (p : Publication) : Option Confirmation :=
  (w.basicPublish channel p).1

/-- What a publish is to leave pending: nothing without an endpoint or on a channel that takes
nothing, and otherwise the broker's answer, for the listener of the options. -/
def posting (w : World σ) (channel : ChannelRef) (e : Event) (o : PublishOptions) :
    List Pending :=
  (e.endpoint.bind fun ep => w.answer channel (w.publication e ep o)).toList.map
    (⟨o.resolved, ·⟩)

/-! ### Frames -/

theorem ensureConnector_eq (w : World σ) (ref : ListenerRef) (c : Connector σ) :
    ∃ ls, w.ensureConnector ref c = { w with listeners := ls } := by
  unfold ensureConnector
  split
  · split
    · exact ⟨_, rfl⟩
    · exact ⟨_, rfl⟩
  · exact ⟨_, rfl⟩

/-- A message is sent with the listener bound and one identity drawn. -/
theorem readied_eq (w : World σ) (c : Connector σ) (o : PublishOptions) :
    w.readied c o =
      { w with
        listeners := (w.ensureConnector o.resolved c).listeners
        drawn := w.drawn + 1 } := by
  obtain ⟨ls, h⟩ := ensureConnector_eq w o.resolved c
  simp only [readied, h, draw]

theorem takeReply_eq (w : World σ) (b : Nat) :
    ∃ bs, (w.takeReply b).2 = { w with brokers := bs } := by
  unfold takeReply
  split
  · exact ⟨_, rfl⟩
  · exact ⟨_, rfl⟩

theorem settleChannels_eq (w : World σ) (ref : ChannelRef) (c : Channel) (r : Broker.Reply) :
    ∃ cs, w.settleChannels ref c r = { w with channels := cs } := by
  cases r <;> exact ⟨_, rfl⟩

/-- Sending a message touches brokers and channels only, and is asked once. -/
theorem basicPublish_eq (w : World σ) (ref : ChannelRef) (p : Publication) :
    ∃ bs cs, (w.basicPublish ref p).2 =
      { w with
        brokers := bs
        channels := cs
        requests := w.requests ++ [(ref, .publish ref.number p)] } := by
  unfold basicPublish
  split
  · exact ⟨_, _, rfl⟩
  · rename_i c _
    generalize hw : (w.request ref (.publish ref.number p)).modifyBroker c.broker
      (fun b => { b with seen := b.seen ++ [.publish ref.number p] }) = w₁
    obtain ⟨bs, hb⟩ := takeReply_eq w₁ c.broker
    obtain ⟨cs, hc⟩ :=
      settleChannels_eq (w₁.takeReply c.broker).2 ref c (w₁.takeReply c.broker).1
    refine ⟨bs, cs, hc.trans ?_⟩
    rw [hb, ← hw]
    rfl

/-- Rejecting a delivery touches brokers only, and is asked once. -/
theorem basicReject_eq (w : World σ) (ref : ChannelRef) (tag : UInt64) (requeue : Bool) :
    ∃ bs, (w.basicReject ref tag requeue).2 =
      { w with
        brokers := bs
        requests := w.requests ++ [(ref, .reject ref.number tag requeue)] } := by
  unfold basicReject
  split
  · exact ⟨_, rfl⟩
  · exact ⟨_, rfl⟩

theorem takeReply_congr (w w' : World σ) (b : Nat) (h : w'.brokers = w.brokers) :
    (w'.takeReply b).1 = (w.takeReply b).1 := by
  unfold takeReply
  rw [h]
  split <;> rfl

/-- The broker's answer hangs on brokers and channels only. -/
theorem answer_congr {w w' : World σ} (hb : w'.brokers = w.brokers)
    (hc : w'.channels = w.channels) (ref : ChannelRef) (p : Publication) :
    w'.answer ref p = w.answer ref p := by
  have ho : w'.openChannel? ref = w.openChannel? ref := by simp only [openChannel?, hc]
  unfold answer basicPublish
  rw [ho]
  cases w.openChannel? ref with
  | none => rfl
  | some c =>
      have hr := takeReply_congr
        ((w.request ref (.publish ref.number p)).modifyBroker c.broker fun b =>
          { b with seen := b.seen ++ [.publish ref.number p] })
        ((w'.request ref (.publish ref.number p)).modifyBroker c.broker fun b =>
          { b with seen := b.seen ++ [.publish ref.number p] })
        c.broker (by simp only [modifyBroker, request, hb])
      simp only [hr]

theorem answer_readied (w : World σ) (c : Connector σ) (o : PublishOptions) (ref : ChannelRef)
    (p : Publication) : (w.readied c o).answer ref p = w.answer ref p := by
  have hb : (w.readied c o).brokers = w.brokers := by rw [readied_eq]
  have hc : (w.readied c o).channels = w.channels := by rw [readied_eq]
  exact answer_congr hb hc ref p

end World

open World

/-! ### The ways out of a publish -/

section

variable {channel : ChannelRef} {c : Connector σ} {e : Event} {o : PublishOptions}
  {ep : Endpoint} {w : World σ}

theorem publish_missing (h : e.endpoint = none) :
    publish channel c e o w =
      (.error (.failure .missingEndpoint),
        w.log .error "outbound event without endpoint" [("event", .text e.id.text)]) := by
  simp only [publish, h]
  rfl

/-- The world a publish sends its message in, and the message. -/
theorem publish_sends (h : e.endpoint = some ep) :
    publish channel c e o w =
      (match (w.readied c o).basicPublish channel (w.publication e ep o) with
        | (none, w₁) => (.error (.failure .publishing),
            w₁.log .error "error publishing message" [("error", .text brokerText)])
        | (some conf, w₁) => (.ok e, (w₁.pend ⟨o.resolved, conf⟩).log .debug "message published"
            [("exchange", .text ep.exchange), ("routing_key", .text ep.routingKey)])) := by
  obtain ⟨ls, hl⟩ := ensureConnector_eq w o.resolved c
  have h₁ : resolveListener c o w = (.ok o.resolved, w.ensureConnector o.resolved c) := rfl
  -- Binding the listener changes nothing that the properties are made of.
  have h₂ : outgoingProperties e (w.ensureConnector o.resolved c) =
      (.ok (w.publication e ep o).properties, w.readied c o) := by
    simp only [outgoingProperties, readied, publication, hl, draw]
  simp only [publish, h]
  rw [Act.bind_ok h₁, Act.bind_ok h₂, Act.bind_ok (Act.run_apply _ _)]
  cases hb : (w.readied c o).basicPublish channel (w.publication e ep o) with
  | mk conf w₁ =>
      simp only [publication] at hb
      simp only [publication, hb]
      cases conf with
      | none => rfl
      | some conf => rfl

theorem publish_refused (h : e.endpoint = some ep)
    (ha : w.answer channel (w.publication e ep o) = none) :
    publish channel c e o w =
      (.error (.failure .publishing),
        ((w.readied c o).basicPublish channel (w.publication e ep o)).2.log .error
          "error publishing message" [("error", .text brokerText)]) := by
  rw [← answer_readied w c o] at ha
  rw [publish_sends h]
  cases hb : (w.readied c o).basicPublish channel (w.publication e ep o) with
  | mk conf w₁ =>
      rw [answer, hb] at ha
      obtain rfl : conf = none := ha
      rfl

theorem publish_taken (h : e.endpoint = some ep) {conf : Confirmation}
    (ha : w.answer channel (w.publication e ep o) = some conf) :
    publish channel c e o w =
      (.ok e,
        (((w.readied c o).basicPublish channel (w.publication e ep o)).2.pend
          ⟨o.resolved, conf⟩).log .debug "message published"
            [("exchange", .text ep.exchange), ("routing_key", .text ep.routingKey)]) := by
  rw [← answer_readied w c o] at ha
  rw [publish_sends h]
  cases hb : (w.readied c o).basicPublish channel (w.publication e ep o) with
  | mk conf' w₁ =>
      rw [answer, hb] at ha
      obtain rfl : conf' = some conf := ha
      rfl

/-- **What a publish leaves behind.**  The confirmations that waited still wait, and behind them
what the publish is to leave. -/
theorem pending_publish (channel : ChannelRef) (c : Connector σ) (e : Event) (o : PublishOptions)
    (w : World σ) :
    (publish channel c e o w).2.pending = w.pending ++ w.posting channel e o := by
  cases h : e.endpoint with
  | none => simp only [publish_missing h, posting, h]; exact (List.append_nil _).symm
  | some ep =>
      obtain ⟨bs, cs, hb⟩ :=
        basicPublish_eq (w.readied c o) channel (w.publication e ep o)
      have hp : ((w.readied c o).basicPublish channel (w.publication e ep o)).2.pending =
          w.pending := by
        rw [hb, readied_eq]
      cases ha : w.answer channel (w.publication e ep o) with
      | none =>
          simp only [publish_refused h ha, posting, h, Option.bind_some, ha, log, write, hp]
          exact (List.append_nil _).symm
      | some conf =>
          simp only [publish_taken h ha, posting, h, Option.bind_some, ha, log, write, World.pend,
            hp]
          rfl

/-- What a publish that succeeds has done. -/
theorem publish_ok (h : e.endpoint = some ep) {e' : Event} {w' : World σ}
    (hp : publish channel c e o w = (.ok e', w')) :
    ∃ conf, w.answer channel (w.publication e ep o) = some conf ∧
      w'.pending = w.pending ++ [⟨o.resolved, conf⟩] ∧
      w'.listeners = (w.ensureConnector o.resolved c).listeners := by
  cases ha : w.answer channel (w.publication e ep o) with
  | none =>
      rw [publish_refused h ha] at hp
      cases hp
  | some conf =>
      have hpend := pending_publish channel c e o w
      obtain ⟨bs, cs, hb⟩ := basicPublish_eq (w.readied c o) channel (w.publication e ep o)
      rw [publish_taken h ha] at hp
      cases hp
      refine ⟨conf, rfl, ?_, ?_⟩
      · rw [publish_taken h ha] at hpend
        simpa only [posting, h, Option.bind_some, ha, Option.toList_some, List.map_cons,
          List.map_nil] using hpend
      · rw [hb]
        rfl

/-- A publish that fails leaves nothing pending. -/
theorem posting_of_error {h : Halt} {w' : World σ} (hp : publish channel c e o w = (.error h, w')) :
    w.posting channel e o = [] := by
  cases he : e.endpoint with
  | none => simp only [posting, he, Option.bind_none, Option.toList_none, List.map_nil]
  | some ep =>
      cases ha : w.answer channel (w.publication e ep o) with
      | none =>
          simp only [posting, he, Option.bind_some, ha, Option.toList_none, List.map_nil]
      | some conf =>
          rw [publish_taken he ha] at hp
          cases hp

end

/-! ### Giving back -/

/-- What is left pending for an event that is given back to its listener. -/
def World.echoing (w : World σ) (replyCode : UInt16) (replyText : String) (e : Event)
    (o : PublishOptions) : List Pending :=
  e.endpoint.toList.map fun ep => ⟨o.resolved, .ack (some
    { replyCode, replyText
      exchange := ep.exchange
      routingKey := ep.routingKey
      properties := e.message.basicProperties .empty w.draw.1
      body := e.message.payload })⟩

theorem giveBack_eq (c : Connector σ) (code : UInt16) (text : String) (e : Event)
    (o : PublishOptions) (w : World σ) :
    (giveBack c code text e o w).2 =
      { w with
        listeners := (w.ensureConnector o.resolved c).listeners
        drawn := w.drawn + e.endpoint.toList.length
        pending := w.pending ++ w.echoing code text e o } := by
  obtain ⟨ls, hl⟩ := ensureConnector_eq w o.resolved c
  have h₁ : resolveListener c o w = (.ok o.resolved, { w with listeners := ls }) := by
    rw [← hl]
    rfl
  rw [hl]
  simp only [giveBack]
  rw [Act.bind_ok h₁]
  cases h : e.endpoint with
  | none => simp only [echoing, h, Option.toList, List.map_nil, List.append_nil]; rfl
  | some ep => simp only [echoing, h]; rfl

end AmqpReturns
