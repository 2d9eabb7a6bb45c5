import AmqpReturns.Proofs.Containment
import AmqpReturns.Proofs.Isolation
import AmqpReturns.Proofs.Sight

/-!
# Proofs — a returned message rejects no delivery

A delivery is rejected by its tag, on the channel it came on.  Whoever publishes a message may send
a header by the name of that tag, which stands among the inbound properties of the message when it
comes back, and transformers may set the property to anything.  What a dispatch lacks is the
channel: its sessions are made without one, and as long as transformers change messages only, they
stay without (`make_published`).  So a rejecter in the chain of a listener always fails, without a
word to the broker (`reject_unchanneled`), and ends the dispatch (`Dispatching.rejecter_halts`).
-/

namespace AmqpReturns

open World

variable {σ : Type}

/-! ### What brokers see of a dispatch -/

/-- A message that is published. -/
def Broker.Method.IsPublish : Broker.Method → Prop
  | .publish _ _ => True
  | _ => False

namespace World

/-- Channels were asked to take messages, and nothing else, and so brokers have seen nothing but
messages that were published. -/
structure Published (w w' : World σ) : Prop where
  asked : ∃ rs, w'.requests = w.requests ++ rs ∧ ∀ x ∈ rs, x.2.IsPublish
  seen : ∃ ms, Sees ms w w' ∧ ∀ b, ∀ m ∈ ms b, m.IsPublish

theorem Published.of_eq {w w' : World σ} (hr : w'.requests = w.requests)
    (hb : w'.brokers = w.brokers) : Published w w' where
  asked := ⟨[], by rw [hr, List.append_nil], fun _ hx => absurd hx List.not_mem_nil⟩
  seen := ⟨_, .of_eq hb, fun _ _ hm => absurd hm List.not_mem_nil⟩

theorem Published.trans {w w₁ w' : World σ} (h₁ : Published w w₁) (h₂ : Published w₁ w') :
    Published w w' where
  asked := by
    obtain ⟨rs, hrs, hp⟩ := h₁.asked
    obtain ⟨ts, hts, hq⟩ := h₂.asked
    refine ⟨rs ++ ts, by rw [hts, hrs, List.append_assoc], fun x hx => ?_⟩
    rcases List.mem_append.mp hx with hx | hx
    · exact hp x hx
    · exact hq x hx
  seen := by
    obtain ⟨ms, hms, hp⟩ := h₁.seen
    obtain ⟨ns, hns, hq⟩ := h₂.seen
    refine ⟨_, hms.trans hns, fun b m hm => ?_⟩
    rcases List.mem_append.mp hm with hm | hm
    · exact hp b m hm
    · exact hq b m hm

end World

theorem published_publish (channel : ChannelRef) (c : Connector σ) (e : Event)
    (o : PublishOptions) (w : World σ) : Published w (publish channel c e o w).2 := by
  cases h : e.endpoint with
  | none =>
      rw [publish_missing h]
      exact .of_eq rfl rfl
  | some ep =>
      refine ⟨⟨_, requests_publish h, fun x hx => ?_⟩, _, sees_publish h, fun b m hm => ?_⟩
      · rw [List.mem_singleton.mp hx]
        trivial
      · simp only [sight] at hm
        split at hm
        · rw [List.mem_singleton.mp hm]
          trivial
        · exact absurd hm List.not_mem_nil

/-- Sending an event publishes, at the most. -/
theorem published_send (out : Outbound σ) (e : Event) (o : PublishOptions) (w : World σ) :
    Published w (out.send e o w).2 := by
  induction out generalizing o w with
  | custom name f => exact .of_eq rfl rfl
  | publisher channel c => exact published_publish channel c e o w
  | echo name f c code text =>
      have hs : Published w (callOutbound name f e o w).2 := .of_eq rfl rfl
      rcases snd_send_echo name f c code text e o w with he | ⟨e₁, he⟩
      · rw [he]
        exact hs
      · rw [he, giveBack_eq]
        exact hs.trans (.of_eq rfl rfl)
  | handler h next ih =>
      obtain ⟨l, ks, n, ha⟩ := attach_frame h e w
      have hattach : Published w (attach h e w).2 := .of_eq (by rw [ha]) (by rw [ha])
      rw [send_handler]
      exact hattach.trans (ih _ _)

/-! ### Rejecting without a channel -/

/-- The message has a tag to reject its delivery by: a number that is not negative. -/
def Message.HasTag (m : Message) : Prop :=
  (∃ n, m.inbound.get? "amqp.delivery-tag" = some (.uint n)) ∨
    ∃ n : Int64, m.inbound.get? "amqp.delivery-tag" = some (.int n) ∧ 0 ≤ n.toInt

theorem Message.deliveryTag?_ne_none_iff (m : Message) : m.deliveryTag? ≠ none ↔ m.HasTag := by
  unfold deliveryTag? HasTag deliveryTagKey
  rcases m.inbound.get? "amqp.delivery-tag" with _ | v
  · simp
  · cases v <;> simp

/-- What rejecting a delivery fails with when there is no channel: the tag is looked for first. -/
def Message.rejection (m : Message) : Failure :=
  if m.deliveryTag? = none then .missingDeliveryTag "reject" else .missingChannel "reject"

/-- **Without a channel** nothing is rejected, and nothing else happens. -/
theorem reject_unchanneled {e : Event} (h : e.session.channel = none) (requeue : Bool)
    (w : World σ) : reject e requeue w = (.error (.failure e.message.rejection), w) := by
  cases ht : e.message.deliveryTag? with
  | none => simp only [reject, ht, Message.rejection, Act.fail_apply, if_true]
  | some tag => simp only [reject, ht, h, Message.rejection, Act.fail_apply, reduceCtorEq, if_false]

/-- The rejecter fails in the same way, once it is called. -/
theorem rejecter_unchanneled {e : Event} (h : e.session.channel = none) (requeue : Bool)
    (w : World σ) : ∃ w', (Processor.rejecter requeue : Processor σ).process e w =
      (.error (.failure e.message.rejection), w') ∧ w'.requests = w.requests ∧
      w'.brokers = w.brokers := by
  rw [process_rejecter, reject_unchanneled h]
  exact ⟨_, rfl, rfl, rfl⟩

theorem published_process {e : Event} (h : e.session.channel = none) (p : Processor σ)
    (w : World σ) : Published w (p.process e w).2 := by
  cases p with
  | service s => exact .of_eq rfl rfl
  | rejecter requeue =>
      obtain ⟨w', hp, hr, hb⟩ := rejecter_unchanneled h requeue w
      rw [hp]
      exact .of_eq hr hb
  | handler k next =>
      have hcall : Published w (w.write (.call (.process (.handler k) e))) := .of_eq rfl rfl
      rw [process_handler]
      exact hcall.trans (published_send (.handler k next) e {} _)

/-! ### The sessions of a dispatch -/

section

variable {d : Dispatching σ} {c : Connector σ} {r : Returned}

/-- **One call of a dispatch.**  With an event in hand that has no channel, nothing is seen but
published messages, and there is still no channel afterwards. -/
theorem make_published {x : Slot σ} (hx : ∀ t, x = .transform t → t.OnMessage) {s : Held}
    (hs : s.event.session.channel = none) (w : World σ) :
    Published w (x.make d c r s w).2 ∧
      ∀ s₁, (x.make d c r s w).1 = .ok s₁ → s₁.event.session.channel = none := by
  cases x with
  | create =>
      refine ⟨.of_eq rfl rfl, fun s₁ h => ?_⟩
      rw [(create_made (Prod.ext h rfl)).2]
      exact hs
  | endpoint p =>
      obtain ⟨outside, es, n, hw⟩ := make_frame (d := d) (c := c) (r := r)
        (x := .endpoint p) (fun _ => nofun) s w
      refine ⟨.of_eq (by rw [hw]) (by rw [hw]), fun s₁ h => ?_⟩
      obtain ⟨endpoint, w₁, -, rfl, -⟩ := endpoint_made (Prod.ext h rfl)
      rfl
  | transform t =>
      obtain ⟨m, hm⟩ := hx t rfl s.event w.outside
      refine ⟨.of_eq rfl rfl, fun s₁ h => ?_⟩
      rw [transform_made (Prod.ext h rfl), hm]
      exact hs
  | process p =>
      refine ⟨?_, fun s₁ h => ?_⟩
      · rw [process_make]
        exact published_process hs p w
      · rw [process_made (Prod.ext h rfl)]
        exact hs

/-- **All of a course.** -/
theorem Course.published {w w' : World σ} {s : Held} {xs : List (Slot σ)} {cs : List Call}
    {out : Except Halt Held} (h : Course d c r w s xs cs out w')
    (hxs : ∀ t, .transform t ∈ xs → t.OnMessage) (hs : s.event.session.channel = none) :
    Published w w' := by
  induction h with
  | done w => exact .of_eq rfl rfl
  | @next w _ _ s _ x xs _ _ hx _ ih =>
      obtain ⟨hp, hs₁⟩ := make_published (d := d) (c := c) (r := r)
        (fun t ht => hxs t (ht ▸ List.mem_cons_self)) hs w
      rw [hx] at hp hs₁
      exact hp.trans (ih (fun t ht => hxs t (List.mem_cons_of_mem _ ht)) (hs₁ _ rfl))
  | @halt w _ s x xs _ hx =>
      obtain ⟨hp, -⟩ := make_published (d := d) (c := c) (r := r)
        (fun t ht => hxs t (ht ▸ List.mem_cons_self)) hs w
      rwa [hx] at hp

/-- The transformers of a schedule are the connector's. -/
theorem Dispatching.mem_transformers_of_schedule {t : Transformer σ}
    (h : .transform t ∈ d.schedule c) : t ∈ c.transformers := by
  simp only [schedule, Connector.turn, List.mem_cons, reduceCtorEq, false_or, List.mem_flatMap,
    List.mem_append, List.mem_map, Slot.transform.injEq, exists_eq_right, List.not_mem_nil,
    or_false] at h
  obtain ⟨-, -, ht⟩ := h
  exact ht

/-- Of a returned message channels are asked nothing but to take messages. -/
theorem Dispatching.onReturn_published (hc : d.connector = some c)
    (hts : ∀ t ∈ c.transformers, t.OnMessage) (reason : String) (w : World σ) :
    Published w (d.onReturn reason r w) := by
  obtain ⟨f, w', hends, he⟩ := d.onReturn_ends reason r ⟨default, default⟩ w
  obtain ⟨es, hx, -⟩ := extracted_eq w r
  obtain ⟨calls, out, hcourse, -⟩ := hends.course hc
  have hread : Published w (w.extracted r) := .of_eq (by rw [hx]) (by rw [hx])
  have hdispatch := hcourse.published (fun t ht => hts t (mem_transformers_of_schedule ht)) rfl
  rw [he]
  exact (hread.trans hdispatch).trans (.of_eq rfl rfl)

/-! ### A processor that fails -/

/-- **Nothing comes after a failure.**  If the processor that a dispatch has come to fails with
the event that is made for it, the dispatch ends with that failure, and the processor was the
last to be called. -/
theorem Dispatching.Reaches.halts {w w₁ : World σ} {k : Nat} {p : Processor σ} {e : Event}
    {m : Message} {h : Halt} {f : Failure} (hr : d.Reaches c r (w.extracted r) k w₁)
    (hc : d.connector = some c) (hp : d.chain.processors[k]? = some p)
    (hm : (c.factory.reply c.context.defaultEncoding r w.outside).result = .ok m)
    (hmakes : d.Makes c m p w₁ e) (hfails : ∀ v, ∃ v', p.process e v = (.error h, v'))
    (hf : h.ToldAs f) (reason : String) :
    (∃ calls, (handedBy calls).length = k ∧
      Called (calls ++ [.process p.party e]) w (d.onReturn reason r w)) ∧
    ∃ s w', d.Ends r s (w.extracted r) (some f) w' := by
  obtain ⟨done, rest, s, calls, s', w₂, hs, hdone, rfl, hlen⟩ := hr.approach hp hm hmakes
  obtain ⟨w₃, hfail⟩ := hfails w₂
  have hx : Slot.make d c r s' (.process p) w₂ = (.error h, w₃) := by
    rw [process_make, hfail]
    rfl
  refine ⟨⟨calls, hlen, ?_⟩, s, w₃, .cut hc hs hdone hx hf⟩
  -- The calls on record are those of the course that ends there.
  obtain ⟨ds, out, w', hcourse, hcalled, -⟩ := d.onReturn_course hc reason r w s
  have hwhole := hdone.append (.halt rest hx)
  rw [← hs] at hwhole
  obtain ⟨rfl, -, -⟩ := hwhole.unique hcourse
  exact hcalled

/-- The party of a rejecter is that of no other processor. -/
theorem Processor.eq_rejecter_of_party {requeue : Bool} {p : Processor σ}
    (h : .rejecter requeue = p.party) : p = .rejecter requeue := by
  cases p with
  | rejecter requeue' => cases h; rfl
  | service s => cases h
  | handler k next => cases h

/-- **A rejecter that is handed an event** fails, and was the last to be called. -/
theorem Dispatching.rejecter_halts {w : World σ} (hc : d.connector = some c)
    (hts : ∀ t ∈ c.transformers, t.OnMessage) {reason : String} {k : Nat} {requeue : Bool}
    {e : Event}
    (hk : (w.handedUntil (d.onReturn reason r w))[k]? = some (.rejecter requeue, e)) :
    ∃ m w₁, d.chain.processors[k]? = some (.rejecter requeue) ∧
      (c.factory.reply c.context.defaultEncoding r w.outside).result = .ok m ∧
      d.Reaches c r (w.extracted r) k w₁ ∧ d.Makes c m (.rejecter requeue) w₁ e ∧
      (∃ calls, (handedBy calls).length = k ∧
        Called (calls ++ [.process (.rejecter requeue) e]) w (d.onReturn reason r w)) ∧
      ∃ s w', d.Ends r s (w.extracted r) (some e.message.rejection) w' := by
  obtain ⟨p, m, w₁, hp, hparty, hm, hreach, hmakes⟩ := d.reaches_of_handed hc hk
  obtain rfl := Processor.eq_rejecter_of_party hparty
  obtain ⟨_, _, _, -, -, -, -, -, -, hchannel⟩ := hmakes.event hts
  have hfails (v : World σ) : ∃ v', (Processor.rejecter requeue : Processor σ).process e v =
      (.error (.failure e.message.rejection), v') := by
    obtain ⟨v', hv, -⟩ := rejecter_unchanneled hchannel requeue v
    exact ⟨v', hv⟩
  obtain ⟨hcalls, hends⟩ := hreach.halts hc hp hm hmakes hfails (.failure _) reason
  exact ⟨m, w₁, hp, hm, hreach, hmakes, hcalls, hends⟩

/-- So its place is the last. -/
theorem Dispatching.length_handed_of_rejecter {w : World σ} (hc : d.connector = some c)
    (hts : ∀ t ∈ c.transformers, t.OnMessage) {reason : String} {k : Nat} {requeue : Bool}
    {e : Event}
    (hk : (w.handedUntil (d.onReturn reason r w))[k]? = some (.rejecter requeue, e)) :
    (w.handedUntil (d.onReturn reason r w)).length = k + 1 := by
  obtain ⟨m, w₁, -, -, -, -, ⟨calls, hl, hcalled⟩, -⟩ := rejecter_halts hc hts hk
  rw [hcalled.handedUntil_eq, handedBy_append, List.length_append, hl]
  rfl

end

/-- **A returned message rejects no delivery.**  Where transformers change messages only, channels
are asked for nothing in a dispatch but to take messages, and brokers see nothing else of it.  The
first rejecter that is handed an event is the last processor to be handed one: it fails for want
of a tag, if the message of its event has none, and else for want of a channel; no other call
follows, and this failure is what the listener logs, once, and notes on its span. -/
theorem returns_reject_nothing (d : Dispatching σ) {c : Connector σ} (hc : d.connector = some c)
    (hts : ∀ t ∈ c.transformers, t.OnMessage) (reason : String) (r : Returned) (w : World σ) :
    Published w (d.onReturn reason r w) ∧
    ∀ k requeue e,
      (w.handedUntil (d.onReturn reason r w))[k]? = some (.rejecter requeue, e) →
      ∃ m f w', d.chain.processors[k]? = some (.rejecter requeue) ∧
        (c.factory.reply c.context.defaultEncoding r w.outside).result = .ok m ∧
        (∃ w₁, d.Reaches c r (w.extracted r) k w₁ ∧ d.Makes c m (.rejecter requeue) w₁ e) ∧
        (e.message.HasTag → f = .missingChannel "reject") ∧
        (¬ e.message.HasTag → f = .missingDeliveryTag "reject") ∧
        (w.handedUntil (d.onReturn reason r w)).length = k + 1 ∧
        (∀ j q e', (w.handedUntil (d.onReturn reason r w))[j]? = some (.rejecter q, e') →
          j = k) ∧
        (∃ calls, Called (calls ++ [.process (.rejecter requeue) e]) w
          (d.onReturn reason r w)) ∧
        Wrote (fun x => x.IsOfCourse ∧ ¬ x.IsEnding) (w.extracted r) w' ∧
        d.onReturn reason r w =
          { w' with
            record := w'.record ++
              d.closing reason r (w.extract r.properties.headerTable).1 (some f) } := by
  refine ⟨d.onReturn_published hc hts reason w, fun k requeue e hk => ?_⟩
  have hlength := d.length_handed_of_rejecter hc hts hk
  obtain ⟨m, w₁, hp, hm, hreach, hmakes, ⟨calls, -, hcalled⟩, s, v, hcut⟩ :=
    Dispatching.rejecter_halts hc hts hk
  obtain ⟨f, w', hends, he⟩ := d.onReturn_ends reason r s w
  obtain ⟨rfl, rfl⟩ := hcut.unique hends
  refine ⟨m, e.message.rejection, w', hp, hm, ⟨w₁, hreach, hmakes⟩, fun ht => ?_, fun ht => ?_,
    hlength, fun j q e' hj => ?_, ⟨calls, hcalled⟩, ?_, he⟩
  · exact if_neg ((Message.deliveryTag?_ne_none_iff _).mpr ht)
  · exact if_pos (Classical.not_not.mp (mt (Message.deliveryTag?_ne_none_iff _).mp ht))
  · exact Nat.succ.inj ((d.length_handed_of_rejecter hc hts hj).symm.trans hlength)
  · exact hends.wrote.mono fun x hx => ⟨hx, hx.not_isEnding⟩

/-- A message with the tag of some delivery among its headers comes back to a chain with a
rejecter in the middle.  The stamp of the transformer does not keep it from failing, the processor
behind it is not called; the channel, which is open, is asked for nothing, and the broker sees
nothing. -/
theorem returns_reject_nothing_tagged :
    let d : Dispatching Nat :=
      { chain := ⟨0, [counting "first" none, .rejecter true, counting "last" none]⟩
        connector := some stamping }
    let r : Returned := { (default : Returned) with
      properties := { headers := some (.ofList [("amqp.delivery-tag", .longInt 7)]) } }
    let w : World Nat :=
      { outside := 0, brokers := [{}], channels := [{ broker := 0, confirms := true }] }
    d.connector = some stamping ∧ (∀ t ∈ stamping.transformers, t.OnMessage) ∧
      Published w (d.onReturn "" r w) ∧ (d.onReturn "" r w).requests.length = 0 ∧
      (d.onReturn "" r w).seenBy 0 = [] ∧
      ∃ e w', (w.handedUntil (d.onReturn "" r w))[1]? = some (.rejecter true, e) ∧
        e.message.HasTag ∧ (w.handedUntil (d.onReturn "" r w)).length = 2 ∧
        Wrote (fun x => x.IsOfCourse ∧ ¬ x.IsEnding) (w.extracted r) w' ∧
        d.onReturn "" r w =
          { w' with
            record := w'.record ++ d.closing "" r (w.extract r.properties.headerTable).1
              (some (.missingChannel "reject")) } := by
  intro d r w
  have hts : ∀ t ∈ stamping.transformers, t.OnMessage := by
    intro t ht
    obtain rfl := List.mem_singleton.mp ht
    exact fun e n => ⟨_, rfl⟩
  obtain ⟨hpublished, hrejecter⟩ := returns_reject_nothing d rfl hts "" r w
  have hview : ((w.handedUntil (d.onReturn "" r w)).map
      fun x => (x.1, x.2.message.deliveryTag?))[1]? = some (.rejecter true, some 7) := by
    decide +kernel
  rw [List.getElem?_map] at hview
  obtain ⟨⟨party, e⟩, hk, hv⟩ := Option.map_eq_some_iff.mp hview
  obtain ⟨rfl, htag⟩ := Prod.mk.inj hv
  have htagged : e.message.HasTag := (Message.deliveryTag?_ne_none_iff _).mp (by simp [htag])
  obtain ⟨m, f, w', -, -, -, hf, -, hl, -, -, hwrote, he⟩ := hrejecter 1 true e hk
  obtain rfl := hf htagged
  exact ⟨rfl, hts, hpublished, by decide +kernel, by decide +kernel, e, w', hk, htagged, hl,
    hwrote, he⟩

end AmqpReturns
