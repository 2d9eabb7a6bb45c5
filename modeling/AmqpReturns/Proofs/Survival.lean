import AmqpReturns.Proofs.Binding
import AmqpReturns.Proofs.Isolation

/-!
# Proofs — which properties survive a return

Of the outbound properties of an event, seven keys are renewed when the message comes back
(`renewedKeys`): they hold what the publish and the broker said (`get?_renewed`).  Under every
other key each processor finds the value that was sent, in its normal form (`get?_inbound`), and
that is the value itself, unless it is a number that only a signed header has room for
(`normalize_eq_self`, `normalize_uint`).
-/

namespace AmqpReturns

open World

variable {σ : Type}

/-! ### Normal forms -/

/-- A value that comes back as it was sent: any but an unsigned number from 2^32 up to 2^63. -/
def Property.IsSteady : Property → Prop
  | .uint n => n.toNat < 4294967296 ∨ 9223372036854775808 ≤ n.toNat
  | _ => True

theorem normalize_eq_self {v : Property} (h : v.IsSteady) : v.normalize = v := by
  cases v with
  | uint n =>
      have hn : ¬ (UInt32.size ≤ n.toNat ∧ n.toNat < 0x8000000000000000) := by
        simp only [Property.IsSteady, UInt32.size] at h ⊢
        omega
      rw [Property.normalize, if_neg hn]
  | _ => rfl

/-- The other numbers come back signed, and are the same numbers. -/
theorem normalize_uint {n : UInt64} (h : ¬ (Property.uint n).IsSteady) :
    (Property.uint n).normalize = .int n.toInt64 ∧ n.toInt64.toInt = n.toNat := by
  have hn : UInt32.size ≤ n.toNat ∧ n.toNat < 0x8000000000000000 := by
    simp only [Property.IsSteady, UInt32.size] at h ⊢
    omega
  refine ⟨by rw [Property.normalize, if_pos hn], ?_⟩
  have hlt : 2 * n.toBitVec.toNat < 2 ^ 64 := by
    have h₂ := hn.2
    simp only [UInt64.toNat_toBitVec]
    omega
  exact BitVec.toInt_eq_toNat_of_lt hlt

/-! ### Under one key -/

/-- The keys that hold something of their own when a message comes back. -/
def renewedKeys : List String :=
  ["content-type", "content-encoding", "message-id", "amqp.return.reply-code",
    "amqp.return.reply-text", "amqp.return.exchange", "amqp.return.routing-key"]

/-- A look-up among the normal forms. -/
theorem lookup_normalized (ps : Properties) (k : String) :
    Table.lookup k ps.normalized = (ps.get? k).map Property.normalize :=
  Table.lookup_map Property.normalize k ps.toList

theorem sorted_normalized (ps : Properties) :
    ps.normalized.Pairwise (fun a b => a.1 < b.1) :=
  List.pairwise_map.mpr ps.sorted

/-- **What is found under a key that is not renewed**, when a message comes back as it was. -/
theorem get?_inbound {m : Message} {p : Propagator} {caller : Option String} {id : Identity}
    {r : Returned} (h : r.properties = m.basicProperties (p.injected caller) id) {k : String}
    (hk : k ∉ renewedKeys) {v : Property} (hv : m.outbound.get? k = some v) :
    r.inbound.get? k = some v.normalize := by
  have ne {k' : String} (hk' : k' ∈ renewedKeys) : k' ≠ k := fun e => hk (e ▸ hk')
  have hover (t : Properties) (ps : List (String × Property))
      (hps : ∀ p ∈ ps, p.1 ∈ renewedKeys) : (t.insertMany ps).get? k = t.get? k :=
    Table.get?_insertMany_of_not_mem ps t fun p hp => ne (hps p hp)
  rw [inbound_basicProperties m p caller id h, hover _ _ ?_, hover _ _ ?_,
    Table.get?_insertMany_sorted _ (sorted_normalized _), lookup_normalized, hv]
  · rfl
  · simp [renewedKeys]
  · simp [renewedKeys]

/-- **What is found under the keys that are renewed**: what the publish and the broker said. -/
theorem get?_renewed {m : Message} {p : Propagator} {caller : Option String} {id : Identity}
    {r : Returned} (h : r.properties = m.basicProperties (p.injected caller) id) :
    ∀ q ∈ [("content-type", Property.text "application/json"),
        ("content-encoding", .text m.encoding), ("message-id", .text id.text),
        ("amqp.return.reply-code", .uint r.replyCode.toUInt64),
        ("amqp.return.reply-text", .text r.replyText),
        ("amqp.return.exchange", .text r.exchange),
        ("amqp.return.routing-key", .text r.routingKey)],
      r.inbound.get? q.1 = some q.2 := by
  intro q hq
  rw [inbound_basicProperties m p caller id h, Table.insertMany, Table.insertMany,
    ← List.foldl_append]
  refine Table.get?_insertMany_of_mem ?_ _ hq
  simp only [List.cons_append, List.nil_append, List.map_cons, List.map_nil]
  decide

/-! ### Through a handler and back -/

/-- A message that every processor is handed. -/
theorem message_of_handed {m : Message} {w w' : World σ} (h : Wrote (Entry.Hands m) w w')
    {party : Party} {e : Event} (he : (party, e) ∈ w.handedUntil w') : e.message = m := by
  obtain ⟨es, hes, hm⟩ := h
  rw [handedUntil, hes, List.drop_left] at he
  obtain ⟨x, hx, hxe⟩ := List.mem_filterMap.mp he
  refine hm x hx party e ?_
  cases x with
  | call c =>
      cases c with
      | process party' e' => cases hxe; rfl
      | _ => cases hxe
  | _ => cases hxe

/-- **What survives a return.**  An event is sent through a handler in front of a publisher, and
the publish succeeds.  If the message then comes back as it was, whatever has happened meanwhile,
each processor that is called finds under the keys that are renewed what the publish and the
broker said, and every outbound property of the event under any other key: with the value that
was sent, or, for a number that only a signed header has room for, with that number, signed. -/
theorem outbound_properties_survive (h : HandlerRef) (channel : ChannelRef) (c : Connector σ)
    (e e' : Event) (o : PublishOptions) (ep : Endpoint) (w w' : World σ)
    (hf : c.factory = .standard) (ht : c.transformers = []) (hep : e.endpoint = some ep)
    (hs : (Outbound.handler h (.publisher channel c)).send e o w = (.ok e', w')) :
    ∃ conf, w.answer channel (w.publication e ep o) = some conf ∧
      w'.pending = w.pending ++ [⟨w.nextRef, conf⟩] ∧
      ∀ code text, conf.returned? = some ((w.publication e ep o).returned code text) →
        ∀ (ms : List (Deed σ)) (i : Nat),
          let v := w'.following ms
          v.pending[i]? = some ⟨w.nextRef, conf⟩ →
            v.listener? w.nextRef = some (.dispatching ((w.attached h e).forConnector c)) ∧
            ∀ party ev, (party, ev) ∈ v.handedUntil (v.completeAt i) →
              (∀ q ∈ [("content-type", Property.text "application/json"),
                  ("content-encoding", .text e.message.encoding),
                  ("message-id", .text w.draw.1.text),
                  ("amqp.return.reply-code", .uint code.toUInt64),
                  ("amqp.return.reply-text", .text text),
                  ("amqp.return.exchange", .text ep.exchange),
                  ("amqp.return.routing-key", .text ep.routingKey)],
                ev.message.inbound.get? q.1 = some q.2) ∧
              ∀ k p, e.message.outbound.get? k = some p → k ∉ renewedKeys →
                (p.IsSteady → ev.message.inbound.get? k = some p) ∧
                ∀ n, p = .uint n → ¬ p.IsSteady →
                  ev.message.inbound.get? k = some (.int n.toInt64) ∧
                  n.toInt64.toInt = n.toNat := by
  obtain ⟨conf, ha, hp, hl⟩ := send_handler_publisher hep hs
  refine ⟨conf, ha, hp, fun code text hr ms i => ?_⟩
  intro v hi
  have hl' : v.listener? w.nextRef =
      some (.dispatching ((w.attached h e).forConnector c)) := by
    have hv := listener?_following hl ms
    rwa [Dispatching.tried_of_bound _ rfl] at hv
  refine ⟨hl', fun party ev hev => ?_⟩
  have hhands : Wrote (Entry.Hands
      (((w.publication e ep o).returned code text).recover c.context.defaultEncoding)) v
      (v.completeAt i) := by
    have hc := complete_hands { v with pending := v.pending.eraseIdx i }
      (p := ⟨w.nextRef, conf⟩) hl' rfl hf ht hr
    simp only [completeAt, hi]
    exact hc
  have hproperties : ((w.publication e ep o).returned code text).properties =
      e.message.basicProperties (w.propagator.injected w.caller) w.draw.1 := rfl
  rw [message_of_handed hhands hev]
  refine ⟨get?_renewed hproperties, fun k p hkp hk => ?_⟩
  have hfound : ((w.publication e ep o).returned code text).inbound.get? k = some p.normalize :=
    get?_inbound hproperties hk hkp
  refine ⟨fun hsteady => ?_, ?_⟩
  · exact hfound.trans (congrArg some (normalize_eq_self hsteady))
  · rintro n rfl hn
    obtain ⟨hnormal, hnumber⟩ := normalize_uint hn
    exact ⟨hfound.trans (congrArg some hnormal), hnumber⟩

/-- One processor is handed the event: the content type is the publish's, a header of the trace has
the event's own value, and of two numbers the greater has become a signed one. -/
theorem outbound_properties_survive_laden :
    let w' := ((Outbound.handler ⟨0⟩ (.publisher ⟨0, 1⟩ plain)).send laden {} returning).2
    (Outbound.handler ⟨0⟩ (.publisher ⟨0, 1⟩ plain)).send laden {} returning = (.ok laden, w') ∧
      (w'.handedUntil (w'.completeAt 0)).length = 1 ∧
      ∀ party ev, (party, ev) ∈ w'.handedUntil (w'.completeAt 0) →
        ev.message.inbound.get? "content-type" = some (.text "application/json") ∧
        ev.message.inbound.get? "trace" = some (.bool true) ∧
        ev.message.inbound.get? "small" = some (.uint 4294967295) ∧
        ev.message.inbound.get? "big" = some (.int 4294967296) := by
  intro w'
  refine ⟨rfl, by decide +kernel, fun party ev hev => ?_⟩
  obtain ⟨conf, ha, -, hback⟩ := outbound_properties_survive ⟨0⟩ ⟨0, 1⟩ plain laden laden {}
    { name := "out", exchange := "x", routingKey := "k" } returning w' rfl rfl rfl rfl
  cases ha
  obtain ⟨-, hev'⟩ := hback 312 "NO_ROUTE" rfl [] 0 rfl
  have found (k : String) (p : Property) (hp : laden.message.outbound.get? k = some p)
      (hk : k ∉ renewedKeys) := (hev' party ev hev).2 k p hp hk
  refine ⟨?_, ?_, ?_, ?_⟩
  · exact (hev' party ev hev).1 _ List.mem_cons_self
  · exact (found "trace" (.bool true) (by decide +kernel) (by decide)).1 trivial
  · exact (found "small" (.uint 4294967295) (by decide +kernel) (by decide)).1 (.inl (by decide))
  · exact ((found "big" (.uint 4294967296) (by decide +kernel) (by decide)).2 _ rfl
      (by simp [Property.IsSteady])).1

/-- An event with a property under each key that is renewed, and a number that turns signed. -/
def marked : Event :=
  { laden with
    message :=
      { laden.message with
        outbound :=
          .ofList (("big", .uint 4294967296) :: renewedKeys.map fun k => (k, .bool true)) } }

/-- Not every property survives: the message comes back as it was, and the processor finds none
of the event's values under the keys that are renewed, and another number. -/
theorem outbound_properties_renewed :
    let w' := ((Outbound.handler ⟨0⟩ (.publisher ⟨0, 1⟩ plain)).send marked {} returning).2
    (Outbound.handler ⟨0⟩ (.publisher ⟨0, 1⟩ plain)).send marked {} returning =
        (.ok marked, w') ∧
      plain.factory = .standard ∧ plain.transformers = [] ∧
      (∃ ep, marked.endpoint = some ep ∧
        w'.pending.map (·.confirmation.returned?) =
          [some ((returning.publication marked ep {}).returned 312 "NO_ROUTE")]) ∧
      ∃ party ev, (party, ev) ∈ w'.handedUntil (w'.completeAt 0) ∧
        (∀ k ∈ renewedKeys, marked.message.outbound.get? k = some (.bool true) ∧
          ev.message.inbound.get? k ≠ some (.bool true)) ∧
        marked.message.outbound.get? "big" = some (.uint 4294967296) ∧
        ev.message.inbound.get? "big" ≠ some (.uint 4294967296) := by
  intro w'
  have hev : ∃ x ∈ w'.handedUntil (w'.completeAt 0),
      (∀ k ∈ renewedKeys, marked.message.outbound.get? k = some (.bool true) ∧
        x.2.message.inbound.get? k ≠ some (.bool true)) ∧
      marked.message.outbound.get? "big" = some (.uint 4294967296) ∧
      x.2.message.inbound.get? "big" ≠ some (.uint 4294967296) := by
    decide +kernel
  obtain ⟨⟨party, ev⟩, hmem, hlost⟩ := hev
  exact ⟨rfl, rfl, rfl, ⟨_, rfl, rfl⟩, party, ev, hmem, hlost⟩

end AmqpReturns
