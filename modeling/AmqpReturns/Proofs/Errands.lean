import Mathlib.Logic.Relation
import AmqpReturns.Flow.Listen
import AmqpReturns.Proofs.Publish

/-!
# Proofs — what processors do to the world

A processor of the bus, once called, runs errands: it attaches a listener, calls an outbound of
the application, publishes, gives an event back, or rejects a delivery.  `Errand` lists them, each
as the change it makes to the world, and `errands_send` and `errands_process` say that sending
and processing consist of nothing else.  So what holds of each errand holds of whatever a
processor does:

* `Errand.keeps`: no listener is replaced; at most it gets its first connector.
* `Errand.wrote`: no entry is a span, a warning, or a call that belongs to a dispatch.
-/

namespace AmqpReturns

variable {σ : Type}

/-! ### Listeners that stay -/

/-- What a listener may become while it hears of nothing: it stays as it is, or it gets its first
connector. -/
inductive Listener.Grows : Listener σ → Listener σ → Prop where
  | refl (l : Listener σ) : Grows l l
  | bind {d : Dispatching σ} (h : d.connector = none) (c : Connector σ) :
      Grows (.dispatching d) (.dispatching { d with connector := some c })

theorem Listener.Grows.trans {l l₁ l' : Listener σ} (h₁ : l.Grows l₁) (h₂ : l₁.Grows l') :
    l.Grows l' := by
  cases h₁ with
  | refl => exact h₂
  | bind h c =>
      cases h₂ with
      | refl => exact .bind h c
      | bind h' _ => cases h'

/-- A listener with a connector stays as it is. -/
theorem Listener.Grows.of_bound {d : Dispatching σ} {c : Connector σ} {l : Listener σ}
    (hc : d.connector = some c) (h : (Listener.dispatching d).Grows l) : l = .dispatching d := by
  cases h with
  | refl => rfl
  | bind h _ => rw [hc] at h; cases h

namespace World

/-- Each listener is still in its place, and has at most got its first connector. -/
def Keeps (w w' : World σ) : Prop :=
  ∀ ref l, w.listener? ref = some l → ∃ l', w'.listener? ref = some l' ∧ l.Grows l'

theorem Keeps.of_eq {w w' : World σ} (h : w'.listeners = w.listeners) : Keeps w w' :=
  fun ref l hl => ⟨l, by simpa only [listener?, h] using hl, .refl l⟩

theorem Keeps.trans {w w₁ w' : World σ} (h₁ : Keeps w w₁) (h₂ : Keeps w₁ w') : Keeps w w' := by
  intro ref l hl
  obtain ⟨l₁, hl₁, g₁⟩ := h₁ ref l hl
  obtain ⟨l', hl', g₂⟩ := h₂ ref l₁ hl₁
  exact ⟨l', hl', g₁.trans g₂⟩

theorem keeps_addListener (w : World σ) (l : Listener σ) : Keeps w (w.addListener l).2 := by
  intro ref l' hl'
  refine ⟨l', ?_, .refl l'⟩
  -- New listeners are put behind all others.
  have hi : ref.index < w.listeners.length := (List.getElem?_eq_some_iff.mp hl').1
  simpa only [listener?, addListener, List.getElem?_append_left hi] using hl'

theorem keeps_ensureConnector (w : World σ) (ref : ListenerRef) (c : Connector σ) :
    Keeps w (w.ensureConnector ref c) := by
  intro ref' l hl
  unfold ensureConnector
  split
  · rename_i d hd
    split
    · rename_i hc
      rw [listener?_setListener]
      split
      · -- The listener is the one that gets the connector.
        rename_i e
        subst e
        rw [hd] at hl ⊢
        cases hl
        exact ⟨_, rfl, .bind hc c⟩
      · exact ⟨l, hl, .refl l⟩
    · exact ⟨l, hl, .refl l⟩
  · exact ⟨l, hl, .refl l⟩

end World

open World

/-! ### Errands -/

/-- The errands of a processor, each as the change it makes.  Identities are drawn before a
processor is called. -/
inductive Errand : World σ → World σ → Prop where
  | draw (w : World σ) : Errand w w.draw.2
  | attach (h : HandlerRef) (e : Event) (w : World σ) : Errand w (attach h e w).2
  | call (name : String) (f : Event → PublishOptions → σ → Reply σ Event) (e : Event)
      (o : PublishOptions) (w : World σ) : Errand w (callOutbound name f e o w).2
  | publish (channel : ChannelRef) (c : Connector σ) (e : Event) (o : PublishOptions)
      (w : World σ) : Errand w (publish channel c e o w).2
  | giveBack (c : Connector σ) (code : UInt16) (text : String) (e : Event) (o : PublishOptions)
      (w : World σ) : Errand w (giveBack c code text e o w).2
  | reject (e : Event) (requeue : Bool) (w : World σ) : Errand w (reject e requeue w).2

/-- Any number of errands. -/
abbrev Errands : World σ → World σ → Prop := Relation.ReflTransGen Errand

/-- What holds of nothing done, of each errand and of one thing after another holds of errands. -/
theorem Errands.lift {R : World σ → World σ → Prop} (refl : ∀ w, R w w)
    (trans : ∀ {w w₁ w'}, R w w₁ → R w₁ w' → R w w')
    (step : ∀ {w w'}, Errand w w' → R w w') {w w' : World σ} (h : Errands w w') : R w w' := by
  induction h with
  | refl => exact refl w
  | tail _ hs ih => exact trans ih (step hs)

theorem useChain_eq (w : World σ) (h : HandlerRef) :
    ∃ hs n, (w.useChain h).2 = { w with handlers := hs, chains := n } := by
  unfold useChain
  split
  · exact ⟨_, _, rfl⟩
  · exact ⟨_, _, rfl⟩

/-- The world after an attachment, and the place of the new listener. -/
theorem attach_eq (h : HandlerRef) (e : Event) (w : World σ) :
    attach h e w = (.ok ⟨w.listeners.length⟩,
      ((w.useChain h).2.addListener
        (.dispatching ((Dispatching.ofChain (w.useChain h).1).forEvent e))).2.log .debug
          "return listener attached" [("event", .text e.id.text)]) := by
  obtain ⟨hs, n, hu⟩ := useChain_eq w h
  have hl : (w.useChain h).2.listeners = w.listeners := by rw [hu]
  rw [← hl]
  rfl

theorem send_handler (h : HandlerRef) (next : Outbound σ) (e : Event) (o : PublishOptions)
    (w : World σ) :
    (Outbound.handler h next).send e o w =
      next.send e { o with listener := some ⟨w.listeners.length⟩ } (attach h e w).2 := by
  have ha : attach h e w = (.ok ⟨w.listeners.length⟩, (attach h e w).2) := by rw [attach_eq]
  exact Act.bind_ok ha

/-- What stands in for a broker gives the event back, once its call has succeeded. -/
theorem snd_send_echo (name : String) (f : Event → PublishOptions → σ → Reply σ Event)
    (c : Connector σ) (code : UInt16) (text : String) (e : Event) (o : PublishOptions)
    (w : World σ) :
    ((Outbound.echo name f c code text).send e o w).2 = (callOutbound name f e o w).2 ∨
      ∃ e₁, ((Outbound.echo name f c code text).send e o w).2 =
        (giveBack c code text e₁ o (callOutbound name f e o w).2).2 := by
  simp only [Outbound.send]
  rcases hc : callOutbound name f e o w with ⟨h | e₁, w₁⟩
  · rw [Act.bind_error hc]
    exact .inl rfl
  · rw [Act.bind_ok hc]
    exact .inr ⟨e₁, rfl⟩

/-- **Sending consists of errands.** -/
theorem errands_send (out : Outbound σ) (e : Event) (o : PublishOptions) (w : World σ) :
    Errands w (out.send e o w).2 := by
  induction out generalizing o w with
  | custom name f => exact .single (.call name f e o w)
  | publisher channel c => exact .single (.publish channel c e o w)
  | handler h next ih =>
      rw [send_handler]
      exact .head (.attach h e w) (ih _ _)
  | echo name f c code text =>
      rcases snd_send_echo name f c code text e o w with he | ⟨e₁, he⟩
      · rw [he]
        exact .single (.call name f e o w)
      · rw [he]
        exact .head (.call name f e o w) (.single (.giveBack c code text e₁ o _))

/-- A rejecter is called, rejects the delivery, and gives its event back. -/
theorem process_rejecter (requeue : Bool) (e : Event) (w : World σ) :
    (Processor.rejecter requeue).process e w =
      ((reject e requeue (w.write (.call (.process (.rejecter requeue) e)))).1.map fun _ => e,
        (reject e requeue (w.write (.call (.process (.rejecter requeue) e)))).2) := by
  have hcall : (Processor.rejecter requeue : Processor σ).process e w =
      ((reject e requeue >>= fun _ => pure e : Act σ Event)
        (w.write (.call (.process (.rejecter requeue) e)))) := Act.bind_ok rfl
  rw [hcall]
  rcases h : reject e requeue (w.write (.call (.process (.rejecter requeue) e)))
    with ⟨f | u, w'⟩
  · rw [Act.bind_error h]
    rfl
  · rw [Act.bind_ok h]
    rfl

/-- A handler is called, and sends the event on. -/
theorem process_handler (h : HandlerRef) (next : Outbound σ) (e : Event) (w : World σ) :
    (Processor.handler h next).process e w =
      (Outbound.handler h next).send e {} (w.write (.call (.process (.handler h) e))) :=
  Act.bind_ok rfl

/-- **Processing consists of a call on the processor, and of errands.** -/
theorem errands_process (p : Processor σ) (e : Event) (w : World σ) :
    ∃ (α : Type) (r : Reply σ α),
      Errands (w.writeCall (.process p.party e) r) (p.process e w).2 := by
  cases p with
  | service s => exact ⟨Event, s.process e w.outside, .refl⟩
  | rejecter requeue =>
      refine ⟨Unit, ⟨.ok (), w.outside, []⟩, ?_⟩
      rw [process_rejecter]
      exact .single (.reject e requeue _)
  | handler h next =>
      refine ⟨Unit, ⟨.ok (), w.outside, []⟩, ?_⟩
      rw [process_handler]
      exact errands_send (.handler h next) e {} _

/-! ### What errands leave alone -/

/-- The texts that errands are logged with. -/
def errandTexts : List String :=
  ["return listener attached", "outbound event without endpoint", "error publishing message",
    "message published", "manually rejected message", "failure to reject message"]

/-- Entries that errands write: logs, none of them a warning, calls on outbounds, and notes. -/
def Entry.IsErrand : Entry → Prop
  | .log l => l.level ≠ .warn ∧ l.message ∈ errandTexts
  | .call (.send _ _ _ _) | .note _ => True
  | _ => False

theorem isErrand_log {level : Level} {message : String} {fields : List (String × LogValue)}
    (hl : level ≠ .warn) (hm : message ∈ errandTexts) :
    (Entry.log ⟨level, message, fields⟩).IsErrand :=
  ⟨hl, hm⟩

theorem reject_eq (e : Event) (requeue : Bool) (w : World σ) :
    ∃ bs rs es, (reject e requeue w).2 =
      { w with
        brokers := bs
        requests := rs
        record := w.record ++ es } ∧ ∀ x ∈ es, x.IsErrand := by
  have none_written : ∀ x ∈ ([] : List Entry), x.IsErrand := fun _ hx => absurd hx List.not_mem_nil
  rcases ht : e.message.deliveryTag? with _ | tag
  · refine ⟨w.brokers, w.requests, [], ?_, none_written⟩
    simp only [reject, ht, Act.fail_apply, List.append_nil]
  · rcases hc : e.session.channel with _ | channel
    · refine ⟨w.brokers, w.requests, [], ?_, none_written⟩
      simp only [reject, ht, hc, Act.fail_apply, List.append_nil]
    · obtain ⟨bs, hb⟩ := basicReject_eq w channel tag requeue
      simp only [reject, ht, hc]
      rw [Act.bind_ok (Act.run_apply _ w), hb]
      cases (w.basicReject channel tag requeue).1 with
      | true =>
          refine ⟨bs, _, [_], rfl, fun x hx => ?_⟩
          obtain rfl := List.mem_singleton.mp hx
          exact isErrand_log (by decide) (by decide)
      | false =>
          refine ⟨bs, _, [_], rfl, fun x hx => ?_⟩
          obtain rfl := List.mem_singleton.mp hx
          exact isErrand_log (by decide) (by decide)

/-- A publish changes listeners only by binding the one it resolves. -/
theorem keeps_publish (channel : ChannelRef) (c : Connector σ) (e : Event) (o : PublishOptions)
    (w : World σ) : Keeps w (publish channel c e o w).2 := by
  cases h : e.endpoint with
  | none =>
      rw [publish_missing h]
      exact .of_eq rfl
  | some ep =>
      obtain ⟨bs, cs, hb⟩ := basicPublish_eq (w.readied c o) channel (w.publication e ep o)
      refine (keeps_ensureConnector w o.resolved c).trans (.of_eq ?_)
      cases ha : w.answer channel (w.publication e ep o) with
      | none => rw [publish_refused h ha, hb]; rfl
      | some conf => rw [publish_taken h ha, hb]; rfl

theorem wrote_publish (channel : ChannelRef) (c : Connector σ) (e : Event) (o : PublishOptions)
    (w : World σ) : Wrote Entry.IsErrand w (publish channel c e o w).2 := by
  cases h : e.endpoint with
  | none =>
      rw [publish_missing h]
      exact wrote_write w (isErrand_log (by decide) (by decide))
  | some ep =>
      obtain ⟨bs, cs, hb⟩ := basicPublish_eq (w.readied c o) channel (w.publication e ep o)
      have hr : (w.readied c o).record = w.record := by rw [readied_eq]
      cases ha : w.answer channel (w.publication e ep o) with
      | none =>
          rw [publish_refused h ha, hb]
          exact (Wrote.of_eq hr).trans (wrote_write _ (isErrand_log (by decide) (by decide)))
      | some conf =>
          rw [publish_taken h ha, hb]
          exact (Wrote.of_eq hr).trans (wrote_write _ (isErrand_log (by decide) (by decide)))

theorem Errand.keeps {w w' : World σ} (h : Errand w w') : Keeps w w' := by
  cases h with
  | draw w => exact .of_eq rfl
  | attach h e w =>
      obtain ⟨hs, n, hu⟩ := useChain_eq w h
      rw [attach_eq, hu]
      exact keeps_addListener w _
  | call name f e o w => exact .of_eq rfl
  | publish channel c e o w => exact keeps_publish channel c e o w
  | giveBack c code text e o w =>
      rw [giveBack_eq]
      exact (keeps_ensureConnector w o.resolved c).trans (.of_eq rfl)
  | reject e requeue w =>
      obtain ⟨bs, rs, es, he, -⟩ := reject_eq e requeue w
      rw [he]
      exact .of_eq rfl

theorem Errand.wrote {w w' : World σ} (h : Errand w w') : Wrote Entry.IsErrand w w' := by
  cases h with
  | draw w => exact .of_eq rfl
  | attach h e w =>
      obtain ⟨hs, n, hu⟩ := useChain_eq w h
      rw [attach_eq, hu]
      exact wrote_write w (isErrand_log (by decide) (by decide))
  | call name f e o w => exact wrote_writeCall w _ _ trivial fun _ => trivial
  | publish channel c e o w => exact wrote_publish channel c e o w
  | giveBack c code text e o w =>
      rw [giveBack_eq]
      exact .of_eq rfl
  | reject e requeue w =>
      obtain ⟨bs, rs, es, he, hes⟩ := reject_eq e requeue w
      rw [he]
      exact ⟨es, rfl, hes⟩

end AmqpReturns
