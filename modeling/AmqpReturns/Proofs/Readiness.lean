import AmqpReturns.Proofs.Binding

/-!
# Proofs — who waits is ready

A listener is ready when it needs no connector or has one.  `World.Ready` is the invariant: every
confirmation that waits stands with a ready listener.  A publish tries its connector before it
leaves anything pending, and nothing takes a connector away, so each deed keeps the invariant
(`ready_deed`), and it holds in every world that comes up (`Reached.ready`).  A confirmation
therefore never meets a listener without connector (`pending_listeners_ready`).
-/

namespace AmqpReturns

open World

variable {σ : Type}

/-! ### Ready listeners -/

/-- A listener that needs no connector or has one. -/
def Listener.IsReady : Listener σ → Prop
  | .logging _ => True
  | .dispatching d => d.connector.isSome

theorem Listener.Becomes.isReady {cs : List (Connector σ)} {l l' : Listener σ}
    (h : l.Becomes cs l') (hr : l.IsReady) : l'.IsReady := by
  cases h with
  | logging hits hits' => trivial
  | dispatching d =>
      obtain ⟨c, hc⟩ := Option.isSome_iff_exists.mp hr
      rw [d.tried_of_bound hc]
      exact hr

/-- A listener is ready once a connector was tried on it. -/
theorem Listener.Becomes.isReady_of_ne_nil {cs : List (Connector σ)} {l l' : Listener σ}
    (h : l.Becomes cs l') (hcs : cs ≠ []) : l'.IsReady := by
  cases h with
  | logging hits hits' => trivial
  | dispatching d =>
      obtain ⟨c, cs, rfl⟩ := List.exists_cons_of_ne_nil hcs
      simp only [IsReady, Dispatching.tried, List.head?_cons]
      cases d.connector with
      | none => rfl
      | some c' => rfl

namespace World

/-- There is a listener of the process, and each waiting confirmation stands with a ready
listener. -/
structure Ready (w : World σ) : Prop where
  shared : ∃ l, w.listener? .shared = some l
  pending : ∀ p ∈ w.pending, ∃ l, w.listener? p.listener = some l ∧ l.IsReady

/-- The invariant is kept where each confirmation that is new stands with a listener on which a
connector was tried. -/
theorem Ready.of_binds {ts : Tries σ} {w w' : World σ} (h : w.Ready) (hb : Binds ts w w')
    (hp : ∀ p ∈ w'.pending,
      p ∈ w.pending ∨ (∃ l, w.listener? p.listener = some l) ∧ ts p.listener ≠ []) :
    w'.Ready where
  shared := by
    obtain ⟨l, hl⟩ := h.shared
    obtain ⟨l', hl', -⟩ := hb _ l hl
    exact ⟨l', hl'⟩
  pending := by
    intro p hm
    rcases hp p hm with hold | ⟨⟨l, hl⟩, hts⟩
    · obtain ⟨l, hl, hr⟩ := h.pending p hold
      obtain ⟨l', hl', g⟩ := hb _ l hl
      exact ⟨l', hl', g.isReady hr⟩
    · obtain ⟨l', hl', g⟩ := hb _ l hl
      exact ⟨l', hl', g.isReady_of_ne_nil hts⟩

/-- Where nothing more waits, nothing has to be tried. -/
theorem Ready.of_subset {ts : Tries σ} {w w' : World σ} (h : w.Ready) (hb : Binds ts w w')
    (hp : ∀ p ∈ w'.pending, p ∈ w.pending) : w'.Ready :=
  h.of_binds hb fun p hm => .inl (hp p hm)

theorem Ready.of_eq {w w' : World σ} (h : w.Ready) (hl : w'.listeners = w.listeners)
    (hp : w'.pending = w.pending) : w'.Ready :=
  h.of_subset (.of_eq hl) fun _ hm => hp ▸ hm

end World

/-! ### Sending -/

/-- What a publish leaves pending stands with the listener of its options, and there was an
endpoint. -/
theorem listener_of_mem_posting {channel : ChannelRef} {e : Event} {o : PublishOptions}
    {w : World σ} {p : Pending} (h : p ∈ w.posting channel e o) :
    p.listener = o.resolved ∧ e.endpoint.isSome := by
  obtain ⟨conf, hconf, rfl⟩ := List.mem_map.mp h
  refine ⟨rfl, ?_⟩
  cases he : e.endpoint with
  | none =>
      simp only [he, Option.bind_none, Option.toList_none] at hconf
      exact absurd hconf List.not_mem_nil
  | some ep => rfl

theorem oneTry_self (ref : ListenerRef) (c : Connector σ) : oneTry ref c ref = [c] :=
  if_pos rfl

theorem ready_publish (channel : ChannelRef) (c : Connector σ) (e : Event) (o : PublishOptions)
    {w : World σ} (hk : ∃ l, w.listener? o.resolved = some l) (h : w.Ready) :
    (publish channel c e o w).2.Ready := by
  refine h.of_binds (binds_send (.publisher channel c) e o w) fun p hm => ?_
  change p ∈ (publish channel c e o w).2.pending at hm
  rw [pending_publish] at hm
  rcases List.mem_append.mp hm with hm | hm
  · exact .inl hm
  · obtain ⟨hp, he⟩ := listener_of_mem_posting hm
    rw [hp]
    refine .inr ⟨hk, ?_⟩
    simp only [Outbound.tries, he, if_true, oneTry_self]
    exact List.cons_ne_nil _ _

theorem ready_giveBack (c : Connector σ) (code : UInt16) (text : String) (e : Event)
    (o : PublishOptions) {w : World σ} (hk : ∃ l, w.listener? o.resolved = some l)
    (h : w.Ready) : (giveBack c code text e o w).2.Ready := by
  refine h.of_binds (binds_giveBack c code text e o w) fun p hm => ?_
  rw [giveBack_eq] at hm
  rcases List.mem_append.mp hm with hm | hm
  · exact .inl hm
  · obtain ⟨ep, -, rfl⟩ := List.mem_map.mp hm
    refine .inr ⟨hk, ?_⟩
    rw [oneTry_self]
    exact List.cons_ne_nil _ _

theorem ready_attach (h : HandlerRef) (e : Event) {w : World σ} (hr : w.Ready) :
    (attach h e w).2.Ready :=
  hr.of_subset (binds_attach h e w) fun _ hm => (attach_adds h e w).2 ▸ hm

/-- **Sending keeps the invariant**, if the listener of the options is there. -/
theorem ready_send (out : Outbound σ) (e : Event) (o : PublishOptions) {w : World σ}
    (hk : ∃ l, w.listener? o.resolved = some l) (h : w.Ready) : (out.send e o w).2.Ready := by
  induction out generalizing o w with
  | custom name f => exact h.of_eq rfl rfl
  | publisher channel c => exact ready_publish channel c e o hk h
  | echo name f c code text =>
      have hs : (callOutbound name f e o w).2.Ready := h.of_eq rfl rfl
      rcases snd_send_echo name f c code text e o w with he | ⟨e₁, he⟩
      · rw [he]
        exact hs
      · rw [he]
        exact ready_giveBack c code text e₁ o hk hs
  | handler r next ih =>
      rw [send_handler]
      exact ih _ ⟨_, listener?_attach r e w⟩ (ready_attach r e h)

/-! ### Deeds -/

/-- What a returned message brings about keeps the invariant. -/
theorem lifts_ready : Lifts fun w w' : World σ => w.Ready → w'.Ready where
  frame hl hp h := h.of_eq hl hp
  trans h₁ h₂ h := h₂ (h₁ h)
  count hl hits' h := h.of_subset (binds_count hl hits') fun _ hm => hm
  handler r next e _ h := ready_send (.handler r next) e {} h.shared h

/-- A deed that names no listener but those that are there. -/
def Deed.Known (w : World σ) : Deed σ → Prop
  | .move (.send _ _ o) => ∀ ref, o.listener = some ref → ∃ l, w.listener? ref = some l
  | _ => True

theorem resolved_known {o : PublishOptions} {w : World σ} (hr : w.Ready)
    (h : ∀ ref, o.listener = some ref → ∃ l, w.listener? ref = some l) :
    ∃ l, w.listener? o.resolved = some l := by
  cases ho : o.listener with
  | none =>
      have hres : o.resolved = .shared := by rw [PublishOptions.resolved, ho]; rfl
      rw [hres]
      exact hr.shared
  | some ref =>
      have hres : o.resolved = ref := by rw [PublishOptions.resolved, ho]; rfl
      rw [hres]
      exact h ref ho

theorem ready_erase {w : World σ} (h : w.Ready) (i : Nat) :
    ({ w with pending := w.pending.eraseIdx i } : World σ).Ready :=
  h.of_subset (.of_eq rfl) fun _ hm => List.mem_of_mem_eraseIdx hm

theorem ready_ensureConnector (ref : ListenerRef) (c : Connector σ) {w : World σ} (h : w.Ready) :
    (w.ensureConnector ref c).Ready := by
  obtain ⟨ls, hl⟩ := ensureConnector_eq w ref c
  have hp : (w.ensureConnector ref c).pending = w.pending := by rw [hl]
  exact h.of_subset (binds_ensureConnector w ref c) fun _ hm => hp ▸ hm

/-- **One deed keeps the invariant.** -/
theorem ready_deed (m : Deed σ) {w : World σ} (hk : m.Known w) (h : w.Ready) :
    (m.run w).Ready := by
  cases m with
  | tell ref reason r => exact lifts_ready.onReturnFor ref reason r w h
  | attach r e => exact ready_attach r e h
  | slot x d c r s => exact lifts_ready.make x d c r s w h
  | move m =>
      cases m with
      | send out e o => exact ready_send out e o (resolved_known h hk) h
      | process p e => exact lifts_ready.process p e w h
      | complete i =>
          simp only [Deed.run, Move.run, completeAt]
          split
          · exact h
          · exact lifts_ready.complete _ _ (ready_erase h i)
      | addListener l => exact h.of_subset (binds_addListener w l) fun _ hm => hm
      | bind ref c =>
          simp only [Deed.run, Move.run, Move.snd_bindConnector]
          exact ready_ensureConnector ref c h
      | ensure ref c => exact ready_ensureConnector ref c h
      | around a => exact h.of_eq rfl rfl

/-- The worlds that come up.  At first there is the logging listener of the process and nothing
waits; then deeds follow, in any order, on listeners that are there. -/
inductive Reached : World σ → Prop where
  | start {w : World σ} (hl : w.listeners = [.logging 0]) (hp : w.pending = []) : Reached w
  | deed {w : World σ} (m : Deed σ) (hk : m.Known w) (h : Reached w) : Reached (m.run w)

theorem Reached.ready {w : World σ} (h : Reached w) : w.Ready := by
  induction h with
  | @start w hl hp =>
      refine ⟨⟨.logging 0, ?_⟩, fun p hm => ?_⟩
      · simp only [listener?, hl, ListenerRef.shared, List.getElem?_cons_zero]
      · rw [hp] at hm
        exact absurd hm List.not_mem_nil
  | deed m hk _ ih => exact ready_deed m hk ih

/-! ### Confirmations of worlds that come up -/

/-- A failure of a dispatch that is that of an unbound listener is one that a call had. -/
theorem Halt.ToldAs.eq_of_unbound {h : Halt} (hf : h.ToldAs .unboundListener) :
    h = .failure .unboundListener := by
  cases hf
  rfl

/-- A dispatch with a connector blames the lack of one only when a call of its schedule did. -/
theorem Dispatching.Ends.blame {d : Dispatching σ} {c : Connector σ} {r : Returned} {s : Held}
    {w w' : World σ} (hc : d.connector = some c)
    (h : d.Ends r s w (some .unboundListener) w') :
    ∃ x ∈ d.schedule c, ∃ s' v,
      x.make d c r s' v = (.error (.failure .unboundListener), w') := by
  cases h with
  | unbound hn => rw [hc] at hn; cases hn
  | @cut _ done rest x _ s' v _ h _ hc' hs _ hx hf =>
      obtain rfl := Option.some.inj (hc.symm.trans hc')
      obtain rfl := hf.eq_of_unbound
      refine ⟨x, ?_, s', v, hx⟩
      rw [hs]
      exact List.mem_append_right _ List.mem_cons_self

/-- Handling a confirmation that brings a message to a bound listener has it dispatched there. -/
theorem completeAt_dispatches {w : World σ} {i : Nat} {p : Pending} {r : Returned}
    {d : Dispatching σ} {c : Connector σ} (hi : w.pending[i]? = some p)
    (hr : p.confirmation.returned? = some r)
    (hl : w.listener? p.listener = some (.dispatching d)) (hc : d.connector = some c) :
    ∃ w₁, Quiet w w₁ ∧ w.completeAt i = d.onReturn r.reason r w₁ := by
  obtain ⟨w₁, hq, -, hw⟩ := complete_tells { w with pending := w.pending.eraseIdx i } p
  have htaken : Quiet w { w with pending := w.pending.eraseIdx i } := .of_eq rfl rfl
  have hq := htaken.trans hq
  refine ⟨w₁, hq, ?_⟩
  obtain ⟨l, hl₁, g⟩ := hq.keeps _ _ hl
  rw [g.of_bound hc] at hl₁
  have hn : p.notice?.toList = [(p.listener, r)] := by rw [Pending.notice?, hr]; rfl
  rw [hn] at hw
  simp only [completeAt, hi, hw]
  exact onReturn_dispatching hl₁ r

/-- **Who waits is ready.**  In every world that comes up, each waiting confirmation stands with a
logging listener or with a bound one.  So, whenever such a confirmation is handled, the dispatch
has a connector, and what it ends with is not the failure of an unbound listener, unless a call
on a collaborator failed with just that. -/
theorem pending_listeners_ready {w : World σ} (h : Reached w) :
    (∀ p ∈ w.pending, (∃ hits, w.listener? p.listener = some (.logging hits)) ∨
      ∃ d c, w.listener? p.listener = some (.dispatching d) ∧ d.connector = some c) ∧
    ∀ i p r d s, w.pending[i]? = some p → p.confirmation.returned? = some r →
      w.listener? p.listener = some (.dispatching d) →
      ∃ c w₁ f w', d.connector = some c ∧ Quiet w w₁ ∧ d.Ends r s (w₁.extracted r) f w' ∧
        w.completeAt i =
          { w' with
            record := w'.record ++
              d.closing r.reason r (w₁.extract r.properties.headerTable).1 f } ∧
        (f = some .unboundListener → ∃ x ∈ d.schedule c, ∃ s' v,
          x.make d c r s' v = (.error (.failure .unboundListener), w')) := by
  have bound {p : Pending} (hp : p ∈ w.pending) {d : Dispatching σ}
      (hl : w.listener? p.listener = some (.dispatching d)) : ∃ c, d.connector = some c := by
    obtain ⟨l, hl', hr⟩ := h.ready.pending p hp
    obtain rfl := Option.some.inj (hl.symm.trans hl')
    exact Option.isSome_iff_exists.mp hr
  refine ⟨fun p hp => ?_, fun i p r d s hi hr hl => ?_⟩
  · obtain ⟨l, hl, -⟩ := h.ready.pending p hp
    cases l with
    | logging hits => exact .inl ⟨hits, hl⟩
    | dispatching d =>
        obtain ⟨c, hc⟩ := bound hp hl
        exact .inr ⟨d, c, hl, hc⟩
  · obtain ⟨c, hc⟩ := bound (List.mem_of_getElem? hi) hl
    obtain ⟨w₁, hq, hw⟩ := completeAt_dispatches hi hr hl hc
    obtain ⟨f, w', hends, he⟩ := d.onReturn_ends r.reason r s w₁
    refine ⟨c, w₁, f, w', hc, hq, hends, hw.trans he, ?_⟩
    rintro rfl
    exact hends.blame hc

/-- A world with a broker that gives the next message back. -/
def beginning : World Unit :=
  { outside := ()
    brokers := [{ replies := [.returnAck {}] }]
    channels := [{ broker := 0, confirms := true }] }

/-- A listener built without connector, a publish that names it and fails, and one that succeeds:
the confirmation that waits then stands with a listener that has the first publisher's connector,
and the message is dispatched with it. -/
theorem pending_listeners_ready_unclaimed :
    let late : Connector Unit := { plain with name := "late" }
    let o : PublishOptions := { listener := some ⟨1⟩ }
    let w : World Unit := beginning.following
      [.move (.addListener (.dispatching { chain := ⟨0, []⟩ })),
        .move (.send (.publisher ⟨5, 1⟩ plain) laden o),
        .move (.send (.publisher ⟨0, 1⟩ late) laden o)]
    let d : Dispatching Unit := { chain := ⟨0, []⟩, connector := some plain }
    Reached w ∧ w.listener? ⟨1⟩ = some (.dispatching d) ∧
      ∃ p r, w.pending = [p] ∧ p.listener = ⟨1⟩ ∧ p.confirmation.returned? = some r ∧
        (∃ d c, w.listener? p.listener = some (.dispatching d) ∧ d.connector = some c) ∧
        ∃ w₁ f w', Quiet w w₁ ∧ d.Ends r ⟨default, default⟩ (w₁.extracted r) f w' := by
  intro late o w d
  have known {v : World Unit} {l : Listener Unit} (hl : v.listener? ⟨1⟩ = some l) :
      ∀ ref, o.listener = some ref → ∃ l, v.listener? ref = some l := by
    rintro _ ⟨⟩
    exact ⟨l, hl⟩
  have h₀ : Reached beginning := .start rfl rfl
  have h₁ := h₀.deed (.move (.addListener (.dispatching { chain := ⟨0, []⟩ }))) trivial
  have h₂ := h₁.deed (.move (.send (.publisher ⟨5, 1⟩ plain) laden o)) (known rfl)
  have h : Reached w := h₂.deed (.move (.send (.publisher ⟨0, 1⟩ late) laden o)) (known rfl)
  obtain ⟨hready, hdispatch⟩ := pending_listeners_ready h
  refine ⟨h, rfl, _, _, rfl, rfl, rfl, ?_, ?_⟩
  · rcases hready _ List.mem_cons_self with ⟨hits, hl⟩ | hl
    · cases hl
    · exact hl
  · obtain ⟨-, w₁, f, w', -, hq, hends, -⟩ :=
      hdispatch 0 _ _ d ⟨default, default⟩ rfl rfl rfl
    exact ⟨w₁, f, w', hq, hends⟩

end AmqpReturns
