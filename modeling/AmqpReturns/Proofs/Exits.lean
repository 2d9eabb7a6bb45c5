import AmqpReturns.Proofs.Sight

/-!
# Proofs — the ways out of a publish

A publish ends in one of three ways.  An event without an endpoint fails before anything is done.
Otherwise the listener is resolved and bound first (`listener?_ensureConnector`), and then one
message is sent, once.  If the channel does not take it, the publish fails and leaves nothing
behind but the bound listener and the one request (`publish_left`); if it does, the event comes
back as it was, and one confirmation waits, together with that listener (`publish_made`).
-/

namespace AmqpReturns

open World
open scoped List

variable {σ : Type}

/-! ### One way after the other -/

/-- A message that a channel does not take was asked for, and that is all. -/
theorem snd_basicPublish_of_none {w : World σ} {ref : ChannelRef} {p : Publication}
    (h : (w.basicPublish ref p).1 = none) :
    (w.basicPublish ref p).2 = w.request ref (.publish ref.number p) := by
  unfold basicPublish at h ⊢
  split at h
  · rfl
  · cases h

section

variable {channel : ChannelRef} {c : Connector σ} {e : Event} {o : PublishOptions}
  {ep : Endpoint} {w : World σ}

/-- **A publish that the channel does not take** leaves behind the bound listener, the identity
that was drawn, one request, and one log. -/
theorem publish_left (h : e.endpoint = some ep)
    (ha : ((w.readied c o).basicPublish channel (w.publication e ep o)).1 = none) :
    publish channel c e o w =
      (.error (.failure .publishing),
        { w with
          listeners := (w.ensureConnector o.resolved c).listeners
          requests := w.requests ++ [(channel, .publish channel.number (w.publication e ep o))]
          drawn := w.drawn + 1
          record := w.record ++
            [.log ⟨.error, "error publishing message", [("error", .text brokerText)]⟩] }) := by
  have hans : w.answer channel (w.publication e ep o) = none :=
    (answer_readied w c o channel _).symm.trans ha
  rw [publish_refused h hans, snd_basicPublish_of_none ha, readied_eq]
  rfl

/-- **A publish that the channel takes** leaves behind, besides, what it did to brokers and
channels, and the confirmation. -/
theorem publish_made (h : e.endpoint = some ep) {conf : Confirmation}
    (ha : ((w.readied c o).basicPublish channel (w.publication e ep o)).1 = some conf) :
    publish channel c e o w =
      (.ok e,
        { w with
          listeners := (w.ensureConnector o.resolved c).listeners
          brokers := ((w.readied c o).basicPublish channel (w.publication e ep o)).2.brokers
          channels := ((w.readied c o).basicPublish channel (w.publication e ep o)).2.channels
          requests := w.requests ++ [(channel, .publish channel.number (w.publication e ep o))]
          drawn := w.drawn + 1
          pending := w.pending ++ [⟨o.resolved, conf⟩]
          record := w.record ++
            [.log ⟨.debug, "message published",
              [("exchange", .text ep.exchange), ("routing_key", .text ep.routingKey)]⟩] }) := by
  have hans : w.answer channel (w.publication e ep o) = some conf :=
    (answer_readied w c o channel _).symm.trans ha
  obtain ⟨bs, cs, hb⟩ := basicPublish_eq (w.readied c o) channel (w.publication e ep o)
  rw [publish_taken h hans, hb, readied_eq]
  rfl

end

/-! ### All ways together -/

/-- Whatever comes after a world, the notices given then, and those still to be given, are those
of what waited in it and of what is published from then on. -/
theorem given_perm (ms : List (Move σ)) (w : World σ) :
    ∃ posted, History w ms posted ∧
      (w.given ms ++ notices (w.after ms).pending) ~ notices (w.pending ++ posted) := by
  obtain ⟨posted, h⟩ := History.exists_posted ms w
  exact ⟨posted, h, h.perm⟩

/-- **A publish sends its message once, or leaves nothing behind.**

Without an endpoint it fails, and all that happens is one log.  With one, the connector is tried on
the listener that the options name, or on that of the process, and on no other; then the channel is
asked once to take one message, which the broker at the other end sees, once, and no other broker
sees anything.  If the channel does not take the message, it is not asked again, and the publish
fails with one log; brokers, channels and waiting confirmations are as they were, and so nothing
that is ever given to a listener comes of this publish.  If it does, the very event comes back, and
one confirmation waits, for that listener. -/
theorem publish_sends_once (channel : ChannelRef) (c : Connector σ) (e : Event)
    (o : PublishOptions) (w : World σ) :
    let out := (Outbound.publisher channel c).send e o w
    (e.endpoint = none →
      out = (.error (.failure .missingEndpoint),
        { w with
          record := w.record ++
            [.log ⟨.error, "outbound event without endpoint",
              [("event", .text e.id.text)]⟩] })) ∧
    ∀ ep, e.endpoint = some ep →
      let bound := w.ensureConnector o.resolved c
      let p : Publication :=
        { exchange := ep.exchange
          routingKey := ep.routingKey
          mandatory := o.mandatory.getD ep.mandatory
          immediate := false
          properties := e.message.basicProperties (w.propagator.injected w.caller) ⟨w.drawn⟩
          body := e.message.payload }
      let sent := bound.draw.2.basicPublish channel p
      (∀ ref, bound.listener? ref =
        if ref = o.resolved then (w.listener? ref).map (.tried c) else w.listener? ref) ∧
      Sees (sight (w.receiver? channel) (.publish channel.number p)) w out.2 ∧
      (sent.1 = none →
        out = (.error (.failure .publishing),
          { w with
            listeners := bound.listeners
            requests := w.requests ++ [(channel, .publish channel.number p)]
            drawn := w.drawn + 1
            record := w.record ++
              [.log ⟨.error, "error publishing message", [("error", .text brokerText)]⟩] }) ∧
        ∀ ms, ∃ posted, History out.2 ms posted ∧
          (out.2.given ms ++ notices (out.2.after ms).pending) ~
            notices (w.pending ++ posted)) ∧
      ∀ conf, sent.1 = some conf →
        out = (.ok e,
          { w with
            listeners := bound.listeners
            brokers := sent.2.brokers
            channels := sent.2.channels
            requests := w.requests ++ [(channel, .publish channel.number p)]
            drawn := w.drawn + 1
            pending := w.pending ++ [⟨o.resolved, conf⟩]
            record := w.record ++
              [.log ⟨.debug, "message published",
                [("exchange", .text ep.exchange),
                  ("routing_key", .text ep.routingKey)]⟩] }) := by
  intro out
  refine ⟨fun h => publish_missing h, fun ep h => ?_⟩
  intro bound p sent
  refine ⟨fun ref => ?_, sees_publish h, fun hnone => ?_, fun conf hconf => publish_made h hconf⟩
  · rw [listener?_ensureConnector]
    by_cases e : ref = o.resolved
    · rw [if_pos e, if_pos e, e]
    · rw [if_neg e, if_neg e]
  · have hleft : out = _ := publish_left h hnone
    refine ⟨hleft, fun ms => ?_⟩
    obtain ⟨posted, hhistory, hperm⟩ := given_perm ms out.2
    have hpending : out.2.pending = w.pending := by rw [hleft]
    rw [hpending] at hperm
    exact ⟨posted, hhistory, hperm⟩

/-- A world as `returning`, with a listener that has no connector yet. -/
def expectant : World Unit :=
  { returning with listeners := [.logging 0, .dispatching (.ofChain ⟨0, []⟩)] }

/-- Each of the three ways.  Without an endpoint the listener stays unbound, and no channel is
asked; on a closed channel it is bound all the same, but the channel is asked only once, nobody sees
the message and nothing waits; on an open one the broker sees the message, which the options say is
not mandatory, and the answer waits for the listener. -/
theorem publish_sends_once_each_way :
    let o : PublishOptions := { listener := some ⟨1⟩, mandatory := some false }
    let stray : Event := { laden with endpoint := none }
    let shut : World Unit :=
      { expectant with channels := [{ broker := 0, confirms := true, isOpen := false }] }
    let missing := (Outbound.publisher ⟨0, 1⟩ plain).send stray o expectant
    let failed := (Outbound.publisher ⟨0, 1⟩ plain).send laden o shut
    let made := (Outbound.publisher ⟨0, 1⟩ plain).send laden o expectant
    (missing.1 = .error (.failure .missingEndpoint) ∧
      missing.2.listeners = expectant.listeners ∧ missing.2.requests = []) ∧
    (failed.1 = .error (.failure .publishing) ∧
      failed.2.listener? ⟨1⟩ =
        some (.dispatching ((Dispatching.ofChain ⟨0, []⟩).forConnector plain)) ∧
      failed.2.requests.length = 1 ∧ failed.2.seenBy 0 = [] ∧ failed.2.pending = [] ∧
      ∀ ms, ∃ posted, History failed.2 ms posted ∧
        (failed.2.given ms ++ notices (failed.2.after ms).pending) ~ notices posted) ∧
    made.1 = .ok laden ∧ made.2.requests.length = 1 ∧ made.2.pending.map (·.listener) = [⟨1⟩] ∧
      ∃ p, made.2.seenBy 0 = [.publish 1 p] ∧ p.mandatory = false := by
  intro o stray shut missing failed made
  have hep : laden.endpoint = some { name := "out", exchange := "x", routingKey := "k" } := rfl
  have hmissing : missing = _ := (publish_sends_once ⟨0, 1⟩ plain stray o expectant).1 rfl
  obtain ⟨hbound, hshut, hleft, -⟩ := (publish_sends_once ⟨0, 1⟩ plain laden o shut).2 _ hep
  obtain ⟨hfail, hnever⟩ : failed = _ ∧ _ := hleft rfl
  obtain ⟨-, hopen, -, hmade⟩ := (publish_sends_once ⟨0, 1⟩ plain laden o expectant).2 _ hep
  have hok : made = _ := hmade _ rfl
  refine ⟨⟨by rw [hmissing], by rw [hmissing], by rw [hmissing]; rfl⟩,
    ⟨by rw [hfail], ?_, by rw [hfail]; rfl, hshut 0, by rw [hfail]; rfl, hnever⟩,
    by rw [hok], by rw [hok]; rfl, by rw [hok]; rfl, _, hopen 0, rfl⟩
  rw [hfail]
  exact hbound ⟨1⟩

end AmqpReturns
