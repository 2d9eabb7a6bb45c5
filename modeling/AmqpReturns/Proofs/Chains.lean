import AmqpReturns.Proofs.Binding

/-!
# Proofs — a handler's chain is fixed at its first use

A handler is used when its processors are set, when they are looked at, and when it attaches a
listener to an event that goes through it.  A `Turn` is one of these, or a deed; and
`World.uses` lists the uses that turns make of handlers, in order, down to those that come up
inside a dispatch (`Dispatching.uses`).

`World.Used` says what uses come to: a chain that is there stays, the first use of a handler
settles one that is not, and whoever looks at it, or was attached with it, has that very chain.
Each thing that happens comes to the uses it is said to make, so turns do too (`used_past`), and
from there on a handler answers every use alike (`first_use_fixes_chain`).
-/

namespace AmqpReturns

open World

variable {σ : Type}

/-! ### Uses -/

/-- A use of a handler. -/
inductive Use (σ : Type) where
  | set (processors : List (Processor σ))
  /-- The chain is looked at. -/
  | look (seen : Chain σ)
  /-- A listener is attached to an event. -/
  | attach (listener : ListenerRef)

/-- Uses, in order, each with the handler that is used. -/
abbrev Uses (σ : Type) := List (HandlerRef × Use σ)

/-- The processors a handler has for good, if this is its first use. -/
def Use.settles : Use σ → List (Processor σ)
  | .set processors => processors
  | .look _ | .attach _ => []

/-- What was seen, or attached, is of this chain. -/
def Use.Holds (w : World σ) (c : Chain σ) : Use σ → Prop
  | .set _ => True
  | .look seen => seen = c
  | .attach ref => ∃ d, w.listener? ref = some (.dispatching d) ∧ d.chain = c

/-- The processors that the first use of a handler settles. -/
def Uses.settled (us : Uses σ) (h : HandlerRef) : Option (List (Processor σ)) :=
  (us.find? (·.1 = h)).map (·.2.settles)

namespace Uses

variable {us vs : Uses σ} {h : HandlerRef}

theorem settled_append : settled (us ++ vs) h = (settled us h).or (settled vs h) := by
  simp only [settled, List.find?_append, Option.map_or]

theorem settled_eq_none_iff : settled us h = none ↔ ∀ u, (h, u) ∉ us := by
  simp only [settled, Option.map_eq_none_iff, List.find?_eq_none, decide_eq_true_eq]
  constructor
  · exact fun hn u hu => hn _ hu rfl
  · rintro hn ⟨_, u⟩ hu rfl
    exact hn u hu

end Uses

/-! ### The uses that are made -/

/-- The uses that sending through an outbound makes, with the next listener at `place`.  Each
handler on the way attaches one, whatever comes of the event behind it. -/
def Outbound.uses (place : Nat) : Outbound σ → Uses σ
  | .handler h next => (h, .attach ⟨place⟩) :: next.uses (place + 1)
  | .custom _ _ | .echo _ _ _ _ _ | .publisher _ _ => []

/-- The uses that a processor makes. -/
def Processor.uses (w : World σ) : Processor σ → Uses σ
  | .handler h next => (Outbound.handler h next).uses w.listeners.length
  | .service _ | .rejecter _ => []

/-- The uses that a call of a dispatch makes. -/
def Slot.uses (w : World σ) : Slot σ → Uses σ
  | .process p => p.uses w
  | .create | .endpoint _ | .transform _ => []

/-- The uses that calls of a dispatch make, up to the first that fails. -/
def Dispatching.uses (d : Dispatching σ) (c : Connector σ) (r : Returned) :
    List (Slot σ) → Held → World σ → Uses σ
  | [], _, _ => []
  | x :: xs, s, w =>
    x.uses w ++
      match x.make d c r s w with
      | (.ok s₁, w₁) => d.uses c r xs s₁ w₁
      | (.error _, _) => []

namespace World

/-- The uses that telling a listener of a returned message makes. -/
def usesOfReturn (w : World σ) (ref : ListenerRef) (r : Returned) : Uses σ :=
  match w.listener? ref with
  | some (.dispatching d) =>
    match d.connector with
    | some c => d.uses c r (d.schedule c) ⟨default, default⟩ (w.extracted r)
    | none => []
  | _ => []

/-- The uses that handling a confirmation makes. -/
def usesOfCompletion (w : World σ) (p : Pending) : Uses σ :=
  match p.confirmation with
  | .ack (some r) => w.usesOfReturn p.listener r
  | .nack (some r) => (w.log .warn "publisher confirm NACK").usesOfReturn p.listener r
  | .ack none | .nack none | .notRequested | .failed => []

end World

/-- The uses that a deed makes. -/
def Deed.uses (w : World σ) : Deed σ → Uses σ
  | .move (.send out _ _) => out.uses w.listeners.length
  | .move (.process p _) => p.uses w
  | .move (.complete i) =>
    match w.pending[i]? with
    | some p => ({ w with pending := w.pending.eraseIdx i } : World σ).usesOfCompletion p
    | none => []
  | .move (.addListener _) | .move (.bind _ _) | .move (.ensure _ _) | .move (.around _) => []
  | .tell ref _ r => w.usesOfReturn ref r
  | .attach h _ => [(h, .attach w.nextRef)]
  | .slot x _ _ _ _ => x.uses w

/-- A use of a handler by the application, a new handler, or a deed. -/
inductive Turn (σ : Type) where
  | set (h : HandlerRef) (processors : List (Processor σ))
  | look (h : HandlerRef)
  | add
  | deed (m : Deed σ)

namespace Turn

/-- The world after a turn.  The surroundings have no hold on handlers. -/
def run : Turn σ → World σ → World σ
  | .set h processors, w => (w.setProcessors h processors).2
  | .look h, w => (w.useChain h).2
  | .add, w => w.addHandler.2
  | .deed (.move (.around a)), w => { (Move.around a).run w with handlers := w.handlers }
  | .deed m, w => m.run w

/-- The uses that a turn makes. -/
def uses (w : World σ) : Turn σ → Uses σ
  | .set h processors => [(h, .set processors)]
  | .look h => [(h, .look (w.useChain h).1)]
  | .add => []
  | .deed m => m.uses w

/-- The places of the listeners that the application builds itself. -/
def builds (w : World σ) : Turn σ → List ListenerRef
  | .deed (.move (.addListener _)) => [w.nextRef]
  | _ => []

end Turn

namespace World

/-- The world after a list of turns. -/
def past (w : World σ) : List (Turn σ) → World σ
  | [] => w
  | t :: ts => (t.run w).past ts

/-- The uses that a list of turns makes, in order. -/
def uses (w : World σ) : List (Turn σ) → Uses σ
  | [] => []
  | t :: ts => t.uses w ++ (t.run w).uses ts

/-- The places of the listeners that the application builds itself over a list of turns. -/
def builds (w : World σ) : List (Turn σ) → List ListenerRef
  | [] => []
  | t :: ts => t.builds w ++ (t.run w).builds ts

/-! ### What uses come to -/

/-- Dispatching listeners are still in their places, each with the chain it was made with. -/
def KeepsChains (w w' : World σ) : Prop :=
  ∀ ref d, w.listener? ref = some (.dispatching d) →
    ∃ d', w'.listener? ref = some (.dispatching d') ∧ d'.chain = d.chain

/-- What uses of handlers come to from `w` to `w'`, where the application builds the listeners at
`built` itself. -/
structure Used (us : Uses σ) (built : List ListenerRef) (w w' : World σ) : Prop where
  keeps : KeepsChains w w'
  /-- New listeners are those that were attached or built. -/
  born : ∀ ref l, w'.listener? ref = some l → w.listener? ref = none →
    (∃ h, (h, .attach ref) ∈ us) ∨ ref ∈ built
  places : w.handlers.length ≤ w'.handlers.length
  /-- A chain that is there stays. -/
  stays : ∀ h c, w.chain? h = some c → w'.chain? h = some c
  /-- Where there is none, the first use settles it, and without a use there is still none. -/
  settles : ∀ h, h.index < w.handlers.length → w.chain? h = none →
    (w'.chain? h).map (·.processors) = us.settled h
  /-- Whoever looked at a chain, or was attached with it, has the one that is there for good. -/
  holds : ∀ h u, (h, u) ∈ us → h.index < w.handlers.length →
    ∃ c, w'.chain? h = some c ∧ u.Holds w' c

end World

theorem Use.Holds.mono {w w' : World σ} {c : Chain σ} {u : Use σ} (h : u.Holds w c)
    (hk : KeepsChains w w') : u.Holds w' c := by
  cases u with
  | set processors => trivial
  | look seen => exact h
  | attach ref =>
      obtain ⟨d, hl, hc⟩ := h
      obtain ⟨d', hl', hc'⟩ := hk ref d hl
      exact ⟨d', hl', hc'.trans hc⟩

namespace World

theorem KeepsChains.of_eq {w w' : World σ} (h : w'.listeners = w.listeners) : KeepsChains w w' :=
  fun ref d hl => ⟨d, by simpa only [listener?, h] using hl, rfl⟩

theorem KeepsChains.trans {w w₁ w' : World σ} (h₁ : KeepsChains w w₁) (h₂ : KeepsChains w₁ w') :
    KeepsChains w w' := by
  intro ref d hl
  obtain ⟨d₁, hl₁, hc₁⟩ := h₁ ref d hl
  obtain ⟨d', hl', hc'⟩ := h₂ ref d₁ hl₁
  exact ⟨d', hl', hc'.trans hc₁⟩

theorem Binds.keepsChains {ts : Tries σ} {w w' : World σ} (h : Binds ts w w') :
    KeepsChains w w' := by
  intro ref d hl
  obtain ⟨l', hl', g⟩ := h ref _ hl
  cases g with
  | dispatching _ => exact ⟨_, hl', rfl⟩

/-- **Uses come one after the other.** -/
theorem Used.trans {us vs : Uses σ} {as bs : List ListenerRef} {w w₁ w' : World σ}
    (h₁ : Used us as w w₁) (h₂ : Used vs bs w₁ w') : Used (us ++ vs) (as ++ bs) w w' where
  keeps := h₁.keeps.trans h₂.keeps
  born := by
    intro ref l hl hn
    cases hl₁ : w₁.listener? ref with
    | none =>
        rcases h₂.born ref l hl hl₁ with ⟨h, hm⟩ | hm
        · exact .inl ⟨h, List.mem_append_right _ hm⟩
        · exact .inr (List.mem_append_right _ hm)
    | some l₁ =>
        rcases h₁.born ref l₁ hl₁ hn with ⟨h, hm⟩ | hm
        · exact .inl ⟨h, List.mem_append_left _ hm⟩
        · exact .inr (List.mem_append_left _ hm)
  places := Nat.le_trans h₁.places h₂.places
  stays h c hc := h₂.stays h c (h₁.stays h c hc)
  settles := by
    intro h hk hn
    have hs := h₁.settles h hk hn
    rw [Uses.settled_append]
    cases hc : w₁.chain? h with
    | none =>
        -- Not used so far: what comes later settles it.
        rw [← hs, hc, h₂.settles h (Nat.lt_of_lt_of_le hk h₁.places) hc]
        rfl
    | some c =>
        rw [← hs, hc, h₂.stays h c hc]
        rfl
  holds := by
    intro h u hm hk
    rcases List.mem_append.mp hm with hm | hm
    · obtain ⟨c, hc, hu⟩ := h₁.holds h u hm hk
      exact ⟨c, h₂.stays h c hc, hu.mono h₂.keeps⟩
    · exact h₂.holds h u hm (Nat.lt_of_lt_of_le hk h₁.places)

/-! ### What is no use -/

/-- Handlers are as they were, and so are listeners, up to connectors and hits. -/
structure Aside (w w' : World σ) : Prop where
  handlers : w'.handlers = w.handlers
  length : w'.listeners.length = w.listeners.length
  keeps : KeepsChains w w'

theorem Aside.of_eq {w w' : World σ} (hh : w'.handlers = w.handlers)
    (hl : w'.listeners = w.listeners) : Aside w w' :=
  ⟨hh, congrArg _ hl, .of_eq hl⟩

theorem Aside.trans {w w₁ w' : World σ} (h₁ : Aside w w₁) (h₂ : Aside w₁ w') : Aside w w' :=
  ⟨h₂.handlers.trans h₁.handlers, h₂.length.trans h₁.length, h₁.keeps.trans h₂.keeps⟩

theorem Aside.used {w w' : World σ} (h : Aside w w') : Used [] [] w w' := by
  have hc (k : HandlerRef) : w'.chain? k = w.chain? k := by simp only [chain?, h.handlers]
  refine ⟨h.keeps, fun ref l hl hn => ?_, Nat.le_of_eq (congrArg _ h.handlers.symm),
    fun k c hk => (hc k).trans hk, fun k _ hn => ?_, fun _ _ hm => absurd hm List.not_mem_nil⟩
  · -- There is no place for a new listener.
    have hi := (List.getElem?_eq_some_iff.mp hl).1
    have hi' := List.getElem?_eq_none_iff.mp hn
    rw [h.length] at hi
    exact absurd hi (Nat.not_lt.mpr hi')
  · rw [hc, hn]
    rfl

theorem Used.frame {w w' : World σ} (hh : w'.handlers = w.handlers)
    (hl : w'.listeners = w.listeners) : Used [] [] w w' :=
  (Aside.of_eq hh hl).used

section

variable {us : Uses σ} {built : List ListenerRef} {w w₁ w' : World σ}

theorem Aside.trans_used (h₁ : Aside w w₁) (h₂ : Used us built w₁ w') : Used us built w w' :=
  h₁.used.trans h₂

theorem Used.trans_aside (h₁ : Used us built w w₁) (h₂ : Aside w₁ w') : Used us built w w' := by
  have h := h₁.trans h₂.used
  rwa [List.append_nil, List.append_nil] at h

end

theorem aside_setListener {w : World σ} {ref : ListenerRef} {hits : UInt64}
    (h : w.listener? ref = some (.logging hits)) (hits' : UInt64) :
    Aside w (w.setListener ref (.logging hits')) :=
  ⟨rfl, List.length_set .., (binds_count h hits').keepsChains⟩

theorem aside_ensureConnector (w : World σ) (ref : ListenerRef) (c : Connector σ) :
    Aside w (w.ensureConnector ref c) := by
  obtain ⟨ls, hl⟩ := ensureConnector_eq w ref c
  refine ⟨by rw [hl], ?_, (binds_ensureConnector w ref c).keepsChains⟩
  unfold ensureConnector
  split
  · split
    · exact List.length_set ..
    · rfl
  · rfl

theorem aside_publish (channel : ChannelRef) (c : Connector σ) (e : Event) (o : PublishOptions)
    (w : World σ) : Aside w (publish channel c e o w).2 := by
  cases h : e.endpoint with
  | none =>
      rw [publish_missing h]
      exact .of_eq rfl rfl
  | some ep =>
      obtain ⟨bs, cs, hb⟩ := basicPublish_eq (w.readied c o) channel (w.publication e ep o)
      refine (aside_ensureConnector w o.resolved c).trans ?_
      cases ha : w.answer channel (w.publication e ep o) with
      | none =>
          rw [publish_refused h ha, hb]
          exact .of_eq rfl rfl
      | some conf =>
          rw [publish_taken h ha, hb]
          exact .of_eq rfl rfl

theorem aside_giveBack (c : Connector σ) (code : UInt16) (text : String) (e : Event)
    (o : PublishOptions) (w : World σ) : Aside w (giveBack c code text e o w).2 := by
  obtain ⟨ls, hl⟩ := ensureConnector_eq w o.resolved c
  refine (aside_ensureConnector w o.resolved c).trans (.of_eq ?_ ?_)
  · rw [giveBack_eq, hl]
  · rw [giveBack_eq]

theorem aside_extracted (w : World σ) (r : Returned) : Aside w (w.extracted r) := by
  obtain ⟨es, he, -⟩ := extracted_eq w r
  rw [he]
  exact .of_eq rfl rfl

end World

/-! ### Setting and looking -/

namespace World

/-- Setting succeeds where there is no chain, and changes nothing where there is one. -/
theorem setProcessors_ok_iff {w : World σ} {h : HandlerRef} {ps : List (Processor σ)} :
    (w.setProcessors h ps).1 = .ok () ↔ w.chain? h = none := by
  cases hc : w.chain? h with
  | none => simp only [setProcessors, hc]
  | some c => simp only [setProcessors, hc, reduceCtorEq]

theorem setProcessors_settled {w : World σ} {h : HandlerRef} {c : Chain σ}
    (hc : w.chain? h = some c) (ps : List (Processor σ)) :
    w.setProcessors h ps = (.error .processorsAlreadyConfigured, w) := by
  simp only [setProcessors, hc]

theorem useChain_settled {w : World σ} {h : HandlerRef} {c : Chain σ}
    (hc : w.chain? h = some c) : w.useChain h = (c, w) := by
  simp only [useChain, hc]

/-- Looking at a chain that is not there is setting an empty one. -/
theorem snd_useChain (w : World σ) (h : HandlerRef) :
    (w.useChain h).2 = (w.setProcessors h []).2 := by
  cases hc : w.chain? h with
  | none => simp only [useChain, setProcessors, hc]
  | some c => simp only [useChain, setProcessors, hc]

theorem setProcessors_eq (w : World σ) (h : HandlerRef) (ps : List (Processor σ)) :
    ∃ hs n, (w.setProcessors h ps).2 = { w with handlers := hs, chains := n } := by
  unfold setProcessors
  split
  · exact ⟨_, _, rfl⟩
  · exact ⟨_, _, rfl⟩

theorem chain?_setProcessors {w : World σ} {h : HandlerRef} (hk : h.index < w.handlers.length)
    (ps : List (Processor σ)) :
    (w.setProcessors h ps).2.chain? h = some ((w.chain? h).getD ⟨w.chains, ps⟩) := by
  unfold setProcessors
  split
  · rename_i c hc
    rw [hc]
    rfl
  · rename_i hc
    rw [hc]
    simp [chain?, makeChain, hk]

theorem chain?_setProcessors_of_ne {w : World σ} {h k : HandlerRef} (hne : k ≠ h)
    (ps : List (Processor σ)) : (w.setProcessors h ps).2.chain? k = w.chain? k := by
  have hi : h.index ≠ k.index := fun e => hne (congrArg HandlerRef.mk e.symm)
  unfold setProcessors
  split
  · rfl
  · simp only [chain?, makeChain, List.getElem?_set_ne hi]

theorem length_setProcessors (w : World σ) (h : HandlerRef) (ps : List (Processor σ)) :
    (w.setProcessors h ps).2.handlers.length = w.handlers.length := by
  cases hc : w.chain? h with
  | none => simp only [setProcessors, hc, makeChain, List.length_set]
  | some c => simp only [setProcessors, hc]

/-- **One use.**  It has settled the chain of its handler, and what it saw or attached is of that
chain. -/
theorem used_once {w w' : World σ} {h : HandlerRef} {u : Use σ} (hkeeps : KeepsChains w w')
    (hborn : ∀ ref l, w'.listener? ref = some l → w.listener? ref = none → u = .attach ref)
    (hset : w'.handlers = (w.setProcessors h u.settles).2.handlers)
    (hu : ∀ c, h.index < w.handlers.length → w'.chain? h = some c → u.Holds w' c) :
    Used [(h, u)] [] w w' := by
  have hc (k : HandlerRef) : w'.chain? k = (w.setProcessors h u.settles).2.chain? k := by
    simp only [chain?, hset]
  refine ⟨hkeeps, fun ref l hl hn => ?_, ?_, fun k c hk => ?_, fun k hk hn => ?_,
    fun k v hm hk => ?_⟩
  · rw [← hborn ref l hl hn]
    exact .inl ⟨h, List.mem_singleton_self _⟩
  · exact Nat.le_of_eq (by rw [hset, length_setProcessors])
  · rw [hc]
    by_cases e : k = h
    · subst e
      rw [setProcessors_settled hk]
      exact hk
    · rw [chain?_setProcessors_of_ne e, hk]
  · rw [hc]
    by_cases e : k = h
    · subst e
      rw [chain?_setProcessors hk, hn]
      simp [Uses.settled]
    · rw [chain?_setProcessors_of_ne e, hn]
      simp [Uses.settled, Ne.symm e]
  · obtain ⟨rfl, rfl⟩ := Prod.mk.inj (List.mem_singleton.mp hm)
    have hck := hc k
    rw [chain?_setProcessors hk] at hck
    exact ⟨_, hck, hu _ hk hck⟩

theorem used_setProcessors (w : World σ) (h : HandlerRef) (ps : List (Processor σ)) :
    Used [(h, .set ps)] [] w (w.setProcessors h ps).2 := by
  obtain ⟨hs, n, he⟩ := setProcessors_eq w h ps
  have hl : (w.setProcessors h ps).2.listeners = w.listeners := by rw [he]
  refine used_once (.of_eq hl) (fun ref l hn hn' => ?_) rfl fun _ _ _ => trivial
  simp only [listener?, hl] at hn hn'
  cases hn.symm.trans hn'

theorem used_useChain (w : World σ) (h : HandlerRef) :
    Used [(h, .look (w.useChain h).1)] [] w (w.useChain h).2 := by
  obtain ⟨hs, n, he⟩ := useChain_eq w h
  have hl : (w.useChain h).2.listeners = w.listeners := by rw [he]
  refine used_once (.of_eq hl) (fun ref l hn hn' => ?_) (by rw [snd_useChain]; rfl)
    fun c hk hc => ?_
  · simp only [listener?, hl] at hn hn'
    cases hn.symm.trans hn'
  · exact Option.some.inj ((chain?_useChain w hk).symm.trans hc)

end World

theorem handlers_attach (h : HandlerRef) (e : Event) (w : World σ) :
    (attach h e w).2.handlers = (w.useChain h).2.handlers := by
  rw [attach_eq]
  rfl

/-- The listener that an event is given is of the handler's chain. -/
theorem used_attach (h : HandlerRef) (e : Event) (w : World σ) :
    Used [(h, .attach w.nextRef)] [] w (attach h e w).2 := by
  refine used_once (binds_attach h e w).keepsChains (fun ref l hl hn => ?_) ?_ fun c hk hc => ?_
  · have ha : (attach h e w).2.listener? ref =
        (w.addListener (.dispatching (w.attached h e))).2.listener? ref := by
      simp only [listener?, (attach_adds h e w).1]
    rw [ha, listener?_addListener] at hl
    split at hl
    · rename_i e
      rw [e]
      rfl
    · rw [hn] at hl
      cases hl
  · rw [handlers_attach, snd_useChain]
    rfl
  · refine ⟨w.attached h e, listener?_attach h e w, ?_⟩
    have hu := chain?_useChain w hk
    have hc' : (w.useChain h).2.chain? h = some c := by
      simpa only [chain?, handlers_attach] using hc
    exact Option.some.inj (hu.symm.trans hc')

/-! ### Sending, processing and dispatching -/

/-- **Sending** uses the handlers on the way. -/
theorem used_send (out : Outbound σ) (e : Event) (o : PublishOptions) (w : World σ) :
    Used (out.uses w.listeners.length) [] w (out.send e o w).2 := by
  induction out generalizing o w with
  | custom name f => exact .frame rfl rfl
  | publisher channel c => exact (aside_publish channel c e o w).used
  | echo name f c code text =>
      have hs : Aside w (callOutbound name f e o w).2 := .of_eq rfl rfl
      rcases snd_send_echo name f c code text e o w with he | ⟨e₁, he⟩
      · rw [he]
        exact hs.used
      · rw [he]
        exact (hs.trans (aside_giveBack c code text e₁ o _)).used
  | handler h next ih =>
      have hlen : (attach h e w).2.listeners.length = w.listeners.length + 1 := by
        rw [(attach_adds h e w).1]
        exact List.length_append
      have hnext := ih { o with listener := some ⟨w.listeners.length⟩ } (attach h e w).2
      rw [hlen] at hnext
      rw [send_handler]
      exact (used_attach h e w).trans hnext

theorem used_process (p : Processor σ) (e : Event) (w : World σ) :
    Used (p.uses w) [] w (p.process e w).2 := by
  cases p with
  | service s => exact .frame rfl rfl
  | rejecter requeue =>
      obtain ⟨bs, rs, es, he, -⟩ :=
        reject_eq e requeue (w.write (.call (.process (.rejecter requeue) e)))
      rw [process_rejecter, he]
      exact .frame rfl rfl
  | handler h next =>
      have hcall : Aside w (w.write (.call (.process (.handler h) e))) := .of_eq rfl rfl
      have hsend := used_send (.handler h next) e {} (w.write (.call (.process (.handler h) e)))
      rw [process_handler]
      exact hcall.trans_used hsend

section

variable {d : Dispatching σ} {c : Connector σ} {r : Returned}

theorem used_make (x : Slot σ) (s : Held) (w : World σ) :
    Used (x.uses w) [] w (x.make d c r s w).2 := by
  by_cases hx : ∃ p, x = .process p
  · obtain ⟨p, rfl⟩ := hx
    rw [process_make]
    exact used_process p s.event w
  · obtain ⟨outside, es, n, hw⟩ := make_frame (d := d) (c := c) (r := r) (not_exists.mp hx) s w
    have huses : x.uses w = [] := by
      cases x with
      | process p => exact absurd ⟨p, rfl⟩ hx
      | _ => rfl
    rw [hw, huses]
    exact .frame rfl rfl

theorem Course.used {w w' : World σ} {s : Held} {xs : List (Slot σ)} {cs : List Call}
    {out : Except Halt Held} (h : Course d c r w s xs cs out w') :
    Used (d.uses c r xs s w) [] w w' := by
  induction h with
  | done w => exact .frame rfl rfl
  | @next w _ _ s _ x _ _ _ h _ ih =>
      have hx := used_make (d := d) (c := c) (r := r) x s w
      rw [h] at hx
      simp only [Dispatching.uses, h]
      exact hx.trans ih
  | @halt w _ s x _ _ h =>
      have hx := used_make (d := d) (c := c) (r := r) x s w
      rw [h] at hx
      simp only [Dispatching.uses, h, List.append_nil]
      exact hx

end

/-! ### Telling listeners -/

theorem used_onReturnFor (w : World σ) (ref : ListenerRef) (reason : String) (r : Returned) :
    Used (w.usesOfReturn ref r) [] w (w.onReturnFor ref reason r) := by
  unfold onReturnFor usesOfReturn
  cases hl : w.listener? ref with
  | none => exact .frame rfl rfl
  | some l =>
      cases l with
      | logging hits =>
          exact (aside_setListener hl (hits + 1)).trans_used (.frame rfl rfl)
      | dispatching d =>
          obtain ⟨f, w', hends, he⟩ := d.onReturn_ends reason r ⟨default, default⟩ w
          have hread := aside_extracted w r
          simp only [he]
          cases hc : d.connector with
          | none =>
              obtain ⟨-, rfl⟩ := hends.of_unbound hc
              exact hread.trans_used (.frame rfl rfl)
          | some c =>
              obtain ⟨_, _, hcourse, -⟩ := hends.course hc
              exact (hread.trans_used hcourse.used).trans_aside (.of_eq rfl rfl)

theorem used_complete (w : World σ) (p : Pending) :
    Used (w.usesOfCompletion p) [] w (w.complete p) := by
  obtain ⟨l, confirmation⟩ := p
  have nack : Aside w (w.log .warn "publisher confirm NACK") := .of_eq rfl rfl
  cases confirmation with
  | ack r =>
      cases r with
      | none => exact .frame rfl rfl
      | some r => exact used_onReturnFor w l r.reason r
  | nack r =>
      cases r with
      | none => exact nack.used
      | some r => exact nack.trans_used (used_onReturnFor _ l r.reason r)
  | notRequested => exact .frame rfl rfl
  | failed => exact .frame rfl rfl

/-! ### Turns -/

theorem used_addListener (w : World σ) (l : Listener σ) :
    Used [] [w.nextRef] w (w.addListener l).2 := by
  refine ⟨(binds_addListener w l).keepsChains, fun ref l' hl hn => .inr ?_, Nat.le_refl _,
    fun _ _ hc => hc, fun k _ hn => congrArg (Option.map Chain.processors) hn,
    fun _ _ hm => absurd hm List.not_mem_nil⟩
  rw [listener?_addListener] at hl
  split at hl
  · rename_i e
    exact List.mem_singleton.mpr e
  · rw [hn] at hl
    cases hl

theorem used_addHandler (w : World σ) : Used [] [] w w.addHandler.2 := by
  have hc (k : HandlerRef) : w.addHandler.2.chain? k = w.chain? k := by
    simp only [chain?, addHandler, List.getElem?_append]
    split
    · rfl
    · rename_i hk
      -- A place behind the others holds no chain, with the new handler or without it.
      rw [List.getElem?_eq_none (Nat.not_lt.mp hk)]
      cases k.index - w.handlers.length with
      | zero => rfl
      | succ n => rfl
  refine ⟨.of_eq rfl, fun ref l hl hn => ?_, ?_, fun k c hk => (hc k).trans hk,
    fun k _ hn => ?_, fun _ _ hm => absurd hm List.not_mem_nil⟩
  · cases hn.symm.trans hl
  · simp only [addHandler, List.length_append, Nat.le_add_right]
  · rw [hc, hn]
    rfl

/-- **One turn** comes to the uses it is said to make. -/
theorem used_turn (t : Turn σ) (w : World σ) : Used (t.uses w) (t.builds w) w (t.run w) := by
  cases t with
  | set h ps => exact used_setProcessors w h ps
  | look h => exact used_useChain w h
  | add => exact used_addHandler w
  | deed m =>
      cases m with
      | tell ref reason r => exact used_onReturnFor w ref reason r
      | attach h e => exact used_attach h e w
      | slot x d c r s => exact used_make x s w
      | move m =>
          cases m with
          | send out e o => exact used_send out e o w
          | process p e => exact used_process p e w
          | complete i =>
              simp only [Turn.uses, Deed.uses, Turn.run, Deed.run, Move.run, completeAt]
              cases hi : w.pending[i]? with
              | none => exact .frame rfl rfl
              | some p =>
                  have htaken : Aside w { w with pending := w.pending.eraseIdx i } :=
                    .of_eq rfl rfl
                  exact htaken.trans_used (used_complete _ p)
          | addListener l => exact used_addListener w l
          | bind ref c =>
              simp only [Turn.run, Deed.run, Move.run, Move.snd_bindConnector]
              exact (aside_ensureConnector w ref c).used
          | ensure ref c => exact (aside_ensureConnector w ref c).used
          | around a => exact .frame rfl rfl

/-- Any turns. -/
theorem used_past (ts : List (Turn σ)) (w : World σ) :
    Used (w.uses ts) (w.builds ts) w (w.past ts) := by
  induction ts generalizing w with
  | nil => exact .frame rfl rfl
  | cons t ts ih => exact (used_turn t w).trans (ih (t.run w))

/-! ### The first use -/

section

variable {us : Uses σ} {built : List ListenerRef} {w w' : World σ} {h : HandlerRef}

/-- A handler that was used has the chain that its first use settled. -/
theorem World.Used.chain?_of_mem (hus : Used us built w w') (hk : h.index < w.handlers.length)
    (hn : w.chain? h = none) {u : Use σ} (hu : (h, u) ∈ us) :
    ∃ c, w'.chain? h = some c ∧ us.settled h = some c.processors := by
  obtain ⟨c, hc, -⟩ := hus.holds h u hu hk
  refine ⟨c, hc, ?_⟩
  rw [← hus.settles h hk hn, hc]
  rfl

/-- The others have what they had. -/
theorem World.Used.chain?_of_unused (hus : Used us built w w') (hk : h.index < w.handlers.length)
    (hu : ∀ u, (h, u) ∉ us) : w'.chain? h = w.chain? h := by
  cases hc : w.chain? h with
  | some c => exact hus.stays h c hc
  | none =>
      have hs := hus.settles h hk hc
      rw [Uses.settled_eq_none_iff.mpr hu] at hs
      exact Option.map_eq_none_iff.mp hs

end

/-- **A handler's chain is fixed at its first use.**  Take a handler whose chain is not set, and
any turns after that.  Its processors can be set as long as it was not used; from then on setting
them fails and changes nothing, and all who look at the chain, or were attached with it, have the
same one, which holds what the first use settled. -/
theorem first_use_fixes_chain (w : World σ) (h : HandlerRef) (hk : h.index < w.handlers.length)
    (hn : w.chain? h = none) (ts : List (Turn σ)) :
    let v := w.past ts
    let us := w.uses ts
    (∀ ps, (v.setProcessors h ps).1 = .ok () ↔ ∀ u, (h, u) ∉ us) ∧
      -- What was set with success stays, so nothing is set a second time.
      (∀ ps, (v.setProcessors h ps).1 = .ok () → ∀ ts', let v' := (v.setProcessors h ps).2.past ts'
        ∃ c, v'.chain? h = some c ∧ c.processors = ps ∧
          ∀ qs, v'.setProcessors h qs = (.error .processorsAlreadyConfigured, v')) ∧
      (∀ u, (h, u) ∈ us → ∃ c, v.chain? h = some c ∧ us.settled h = some c.processors ∧
        (∀ ps, v.setProcessors h ps = (.error .processorsAlreadyConfigured, v)) ∧
        v.useChain h = (c, v) ∧ ∀ u', (h, u') ∈ us → u'.Holds v c) ∧
      -- There are no other new listeners than those attached by handlers and those built by hand.
      (∀ ref l, v.listener? ref = some l → w.listener? ref = none →
        (∃ k, (k, .attach ref) ∈ us) ∨ ref ∈ w.builds ts) ∧
      -- Handlers that were not used are as they were.
      ∀ k, k.index < w.handlers.length → (∀ u, (k, u) ∉ us) → v.chain? k = w.chain? k := by
  intro v us
  have hus : Used us (w.builds ts) w v := used_past ts w
  have hunset : v.chain? h = none ↔ ∀ u, (h, u) ∉ us := by
    constructor
    · intro hv u hu
      obtain ⟨c, hc, -⟩ := hus.chain?_of_mem hk hn hu
      cases hv.symm.trans hc
    · exact fun hu => (hus.chain?_of_unused hk hu).trans hn
  refine ⟨fun ps => setProcessors_ok_iff.trans hunset, fun ps hps ts' => ?_, fun u hu => ?_,
    hus.born, fun k hk hu => hus.chain?_of_unused hk hu⟩
  · have hc := chain?_setProcessors (Nat.lt_of_lt_of_le hk hus.places) ps
    rw [setProcessors_ok_iff.mp hps] at hc
    have hc' := (used_past ts' (v.setProcessors h ps).2).stays h _ hc
    exact ⟨_, hc', rfl, fun qs => setProcessors_settled hc' qs⟩
  · obtain ⟨c, hc, hs⟩ := hus.chain?_of_mem hk hn hu
    refine ⟨c, hc, hs, fun ps => setProcessors_settled hc ps, useChain_settled hc,
      fun u' hu' => ?_⟩
    obtain ⟨c', hc', hu'⟩ := hus.holds h u' hu' hk
    obtain rfl := Option.some.inj (hc.symm.trans hc')
    exact hu'

/-- Two handlers whose chains are not set. -/
def unset : World Unit :=
  { returning with handlers := [none, none] }

/-- A publish that fails, for want of a channel, is a use already.  So the handler keeps an empty
chain, which the listeners of both its events share; the other handler is not touched. -/
theorem first_use_fixes_chain_unset :
    let out : Outbound Unit := .handler ⟨0⟩ (.publisher ⟨5, 1⟩ plain)
    let ts : List (Turn Unit) :=
      [.deed (.move (.send out laden {})), .set ⟨0⟩ [.rejecter true], .look ⟨0⟩,
        .deed (.move (.process (.handler ⟨0⟩ (.publisher ⟨0, 1⟩ plain)) laden))]
    let v := unset.past ts
    (unset.chain? ⟨0⟩ = none ∧ unset.chain? ⟨1⟩ = none) ∧
      unset.uses ts = [(⟨0⟩, .attach ⟨1⟩), (⟨0⟩, .set [.rejecter true]),
        (⟨0⟩, .look ⟨0, []⟩), (⟨0⟩, .attach ⟨2⟩)] ∧
      (v.setProcessors ⟨1⟩ []).1 = .ok () ∧
      (v.setProcessors ⟨0⟩ [.rejecter true] = (.error .processorsAlreadyConfigured, v)) ∧
      v.chain? ⟨0⟩ = some ⟨0, []⟩ ∧
      (∃ d, v.listener? ⟨1⟩ = some (.dispatching d) ∧ d.chain = ⟨0, []⟩) ∧
      ∃ d, v.listener? ⟨2⟩ = some (.dispatching d) ∧ d.chain = ⟨0, []⟩ := by
  intro out ts v
  have hus : unset.uses ts = [(⟨0⟩, .attach ⟨1⟩), (⟨0⟩, .set [.rejecter true]),
      (⟨0⟩, .look ⟨0, []⟩), (⟨0⟩, .attach ⟨2⟩)] := rfl
  obtain ⟨hset, -, -, -, -⟩ := first_use_fixes_chain unset ⟨1⟩ (by decide) rfl ts
  obtain ⟨-, -, hused, -, -⟩ := first_use_fixes_chain unset ⟨0⟩ (by decide) rfl ts
  rw [hus] at hset hused
  obtain ⟨c, hc, -, hfail, -, hholds⟩ := hused (.attach ⟨1⟩) List.mem_cons_self
  cases (rfl : v.chain? ⟨0⟩ = some ⟨0, []⟩).symm.trans hc
  refine ⟨⟨rfl, rfl⟩, hus, (hset []).mpr ?_, hfail _, hc, hholds (.attach ⟨1⟩) ?_,
    hholds (.attach ⟨2⟩) ?_⟩
  · simp
  · simp
  · simp

end AmqpReturns
