import AmqpReturns.Proofs.Deeds

/-!
# Proofs — the first connector stays

Connectors are tried on a listener in many ways: it is bound by hand, with or without a complaint,
and each publish that names it tries the publisher's.  `Deed.tries` says which connectors a deed
tries on a listener, and `binds_following` that this is all that becomes of it: it has the
connector it had, or else the first that was tried.  So it does not matter who comes later, or
what came of the publish (`first_connector_stays`).
-/

namespace AmqpReturns

open World

variable {σ : Type}

/-! ### Connectors tried on a listener -/

/-- The listener after connectors were tried on it, in this order: it has the one it had, or else
the first of them. -/
def Dispatching.tried (d : Dispatching σ) (cs : List (Connector σ)) : Dispatching σ :=
  { d with connector := d.connector.or cs.head? }

namespace Dispatching

variable (d : Dispatching σ)

theorem tried_nil : d.tried [] = d := by
  rw [tried, List.head?_nil, Option.or_none]

theorem tried_tried (cs ds : List (Connector σ)) : (d.tried cs).tried ds = d.tried (cs ++ ds) := by
  simp only [tried, List.head?_append, Option.or_assoc]

theorem tried_of_bound {c : Connector σ} (hc : d.connector = some c) (cs : List (Connector σ)) :
    d.tried cs = d := by
  rw [tried, hc, Option.some_or, ← hc]

end Dispatching

/-- What becomes of a listener on which connectors are tried.  A logging one takes none, and its
hits are of no account here. -/
inductive Listener.Becomes (cs : List (Connector σ)) : Listener σ → Listener σ → Prop where
  | logging (hits hits' : UInt64) : Becomes cs (.logging hits) (.logging hits')
  | dispatching (d : Dispatching σ) : Becomes cs (.dispatching d) (.dispatching (d.tried cs))

theorem Listener.Becomes.refl (l : Listener σ) : l.Becomes [] l := by
  cases l with
  | logging hits => exact .logging hits hits
  | dispatching d =>
      have h : Becomes [] (.dispatching d) (.dispatching (d.tried [])) := .dispatching d
      rwa [d.tried_nil] at h

theorem Listener.Becomes.trans {cs ds : List (Connector σ)} {l l₁ l' : Listener σ}
    (h₁ : l.Becomes cs l₁) (h₂ : l₁.Becomes ds l') : l.Becomes (cs ++ ds) l' := by
  cases h₁ with
  | logging hits _ => cases h₂ with | logging _ hits' => exact .logging hits hits'
  | dispatching d =>
      cases h₂ with
      | dispatching _ =>
          rw [d.tried_tried]
          exact .dispatching d

/-- The listener after a connector was tried on it. -/
def Listener.tried (c : Connector σ) : Listener σ → Listener σ
  | .logging hits => .logging hits
  | .dispatching d => .dispatching (d.tried [c])

theorem Listener.becomes_tried (c : Connector σ) (l : Listener σ) : l.Becomes [c] (l.tried c) := by
  cases l with
  | logging hits => exact .logging hits hits
  | dispatching d => exact .dispatching d

/-- The connectors tried on each listener. -/
abbrev Tries (σ : Type) := ListenerRef → List (Connector σ)

namespace World

/-- Each listener is still in its place, after just these tries. -/
def Binds (ts : Tries σ) (w w' : World σ) : Prop :=
  ∀ ref l, w.listener? ref = some l → ∃ l', w'.listener? ref = some l' ∧ l.Becomes (ts ref) l'

theorem Binds.of_eq {w w' : World σ} (h : w'.listeners = w.listeners) :
    Binds (fun _ => []) w w' :=
  fun ref l hl => ⟨l, by simpa only [listener?, h] using hl, .refl l⟩

theorem Binds.trans {ts us : Tries σ} {w w₁ w' : World σ} (h₁ : Binds ts w w₁)
    (h₂ : Binds us w₁ w') : Binds (fun ref => ts ref ++ us ref) w w' := by
  intro ref l hl
  obtain ⟨l₁, hl₁, g₁⟩ := h₁ ref l hl
  obtain ⟨l', hl', g₂⟩ := h₂ ref l₁ hl₁
  exact ⟨l', hl', g₁.trans g₂⟩

/-- Only listeners that are there matter. -/
theorem Binds.congr {ts us : Tries σ} {w w' : World σ} (h : Binds ts w w')
    (he : ∀ ref l, w.listener? ref = some l → us ref = ts ref) : Binds us w w' := by
  intro ref l hl
  rw [he ref l hl]
  exact h ref l hl

theorem binds_addListener (w : World σ) (l : Listener σ) :
    Binds (fun _ => []) w (w.addListener l).2 := by
  intro ref l' hl'
  have hi : ref.index < w.listeners.length := (List.getElem?_eq_some_iff.mp hl').1
  refine ⟨l', ?_, .refl l'⟩
  simpa only [listener?, addListener, List.getElem?_append_left hi] using hl'

theorem binds_count {w : World σ} {ref : ListenerRef} {hits : UInt64}
    (h : w.listener? ref = some (.logging hits)) (hits' : UInt64) :
    Binds (fun _ => []) w (w.setListener ref (.logging hits')) := by
  intro ref' l hl
  rw [listener?_setListener]
  by_cases e : ref' = ref
  · subst e
    obtain rfl := Option.some.inj (h.symm.trans hl)
    rw [if_pos rfl, h]
    exact ⟨_, rfl, .logging hits hits'⟩
  · rw [if_neg e]
    exact ⟨l, hl, .refl l⟩

/-- The one try of a connector. -/
def oneTry (ref : ListenerRef) (c : Connector σ) : Tries σ :=
  fun ref' => if ref' = ref then [c] else []

/-- **Binding** tries the connector on the one listener, and leaves the others alone. -/
theorem listener?_ensureConnector (w : World σ) (ref : ListenerRef) (c : Connector σ)
    (ref' : ListenerRef) :
    (w.ensureConnector ref c).listener? ref' =
      if ref' = ref then (w.listener? ref).map (.tried c) else w.listener? ref' := by
  unfold ensureConnector
  split
  · rename_i d hl
    cases hc : d.connector with
    | none =>
        simp only [listener?_setListener, hl, Option.map_some, Listener.tried, Dispatching.tried,
          hc, Option.none_or, List.head?_cons]
    | some c' =>
        have ht : d.tried [c] = d := d.tried_of_bound hc [c]
        simp only [hl, Option.map_some, Listener.tried, ht]
        split
        · rename_i e
          rw [e, hl]
        · rfl
  · rename_i hl
    split
    · rename_i e
      rw [e]
      cases h : w.listener? ref with
      | none => rfl
      | some l =>
          cases l with
          | logging hits => rfl
          | dispatching d => exact absurd h (hl d)
    · rfl

theorem binds_ensureConnector (w : World σ) (ref : ListenerRef) (c : Connector σ) :
    Binds (oneTry ref c) w (w.ensureConnector ref c) := by
  intro ref' l hl
  rw [listener?_ensureConnector]
  by_cases e : ref' = ref
  · subst e
    rw [if_pos rfl, oneTry, if_pos rfl, hl]
    exact ⟨_, rfl, l.becomes_tried c⟩
  · rw [if_neg e, oneTry, if_neg e]
    exact ⟨l, hl, .refl l⟩

end World

/-! ### What is tried on listeners -/

/-- The connectors that sending an event tries on a listener.  A publisher tries its own, once the
event has an endpoint, and so does what stands in for one, once its call succeeds.  A handler has
a new listener to try them on. -/
def Outbound.tries (ref : ListenerRef) (e : Event) (o : PublishOptions) (w : World σ) :
    Outbound σ → List (Connector σ)
  | .publisher _ c => if e.endpoint.isSome then oneTry o.resolved c ref else []
  | .echo name f c _ _ =>
    match (callOutbound name f e o w).1 with
    | .ok _ => oneTry o.resolved c ref
    | .error _ => []
  | .custom _ _ | .handler _ _ => []

/-- The connectors that a deed tries on a listener that is there. -/
def Deed.tries (ref : ListenerRef) (w : World σ) : Deed σ → List (Connector σ)
  | .move (.bind ref' c) | .move (.ensure ref' c) => oneTry ref' c ref
  | .move (.send out e o) => out.tries ref e o w
  | .move (.process _ _) | .move (.complete _) | .move (.addListener _) | .move (.around _)
  | .tell _ _ _ | .attach _ _ | .slot _ _ _ _ _ => []

/-- The connectors that a list of deeds tries on a listener, in order. -/
def World.tries (w : World σ) (ref : ListenerRef) : List (Deed σ) → List (Connector σ)
  | [] => []
  | m :: ms => m.tries ref w ++ (m.run w).tries ref ms

theorem oneTry_of_ne {ref ref' : ListenerRef} (h : ref' ≠ ref) (c : Connector σ) :
    oneTry ref c ref' = [] :=
  if_neg h

/-- Sending tries nothing on other listeners than the one of the options. -/
theorem Outbound.tries_of_ne (out : Outbound σ) {ref : ListenerRef} {e : Event}
    {o : PublishOptions} (w : World σ) (h : ref ≠ o.resolved) : out.tries ref e o w = [] := by
  cases out with
  | custom name f => rfl
  | handler h next => rfl
  | publisher channel c => simp only [tries, oneTry_of_ne h, ite_self]
  | echo name f c code text =>
      simp only [tries, oneTry_of_ne h]
      split
      · rfl
      · rfl

theorem listeners_publish (channel : ChannelRef) (c : Connector σ) (e : Event)
    (o : PublishOptions) (w : World σ) :
    (publish channel c e o w).2.listeners =
      if e.endpoint.isSome then (w.ensureConnector o.resolved c).listeners else w.listeners := by
  cases h : e.endpoint with
  | none => rw [publish_missing h]; rfl
  | some ep =>
      obtain ⟨bs, cs, hb⟩ := basicPublish_eq (w.readied c o) channel (w.publication e ep o)
      rw [Option.isSome_some, if_pos rfl]
      cases ha : w.answer channel (w.publication e ep o) with
      | none => rw [publish_refused h ha, hb]; rfl
      | some conf => rw [publish_taken h ha, hb]; rfl

theorem binds_attach (h : HandlerRef) (e : Event) (w : World σ) :
    Binds (fun _ => []) w (attach h e w).2 := by
  have ha : Binds (fun _ => []) (w.addListener (.dispatching (w.attached h e))).2
      (attach h e w).2 := .of_eq (attach_adds h e w).1
  exact (binds_addListener w _).trans ha

theorem binds_giveBack (c : Connector σ) (code : UInt16) (text : String) (e : Event)
    (o : PublishOptions) (w : World σ) :
    Binds (oneTry o.resolved c) w (giveBack c code text e o w).2 := by
  have hl : (giveBack c code text e o w).2.listeners =
      (w.ensureConnector o.resolved c).listeners := by rw [giveBack_eq]
  exact ((binds_ensureConnector w o.resolved c).trans (.of_eq hl)).congr
    fun ref l _ => (List.append_nil _).symm

theorem nextRef_ne {w : World σ} {ref : ListenerRef} {l : Listener σ}
    (h : w.listener? ref = some l) : ref ≠ w.nextRef := by
  rintro rfl
  have hi := (List.getElem?_eq_some_iff.mp h).1
  exact Nat.lt_irrefl _ hi

/-- **Sending** tries what it is said to try, and nothing else. -/
theorem binds_send (out : Outbound σ) (e : Event) (o : PublishOptions) (w : World σ) :
    Binds (fun ref => out.tries ref e o w) w (out.send e o w).2 := by
  induction out generalizing o w with
  | custom name f => exact .of_eq rfl
  | publisher channel c =>
      have hl := listeners_publish channel c e o w
      cases he : e.endpoint.isSome with
      | true =>
          rw [he, if_pos rfl] at hl
          refine ((binds_ensureConnector w o.resolved c).trans (.of_eq hl)).congr fun ref l _ => ?_
          simp only [Outbound.tries, he, if_true, List.append_nil]
      | false =>
          rw [he, if_neg Bool.false_ne_true] at hl
          refine (Binds.of_eq hl).congr fun ref l _ => ?_
          simp only [Outbound.tries, he, Bool.false_eq_true, if_false]
  | echo name f c code text =>
      -- The connector is tried only once the call has succeeded.
      have hs : Binds (fun _ => []) w (callOutbound name f e o w).2 := .of_eq rfl
      simp only [Outbound.send, Outbound.tries]
      rcases hc : callOutbound name f e o w with ⟨h | e₁, w₁⟩
      · rw [Act.bind_error hc]
        rw [hc] at hs
        exact hs
      · rw [Act.bind_ok hc]
        rw [hc] at hs
        exact hs.trans (binds_giveBack c code text e₁ o w₁)
  | handler h next ih =>
      rw [send_handler]
      have hb := (binds_attach h e w).trans (ih { o with listener := some w.nextRef } _)
      refine hb.congr fun ref l hl => ?_
      have hn : ref ≠ ({ o with listener := some w.nextRef } : PublishOptions).resolved :=
        nextRef_ne hl
      rw [next.tries_of_ne _ hn]
      rfl

/-- Whatever a returned message brings about tries nothing on the listeners that are there. -/
theorem lifts_binds : Lifts (Binds (σ := σ) fun _ => []) where
  frame hl _ := .of_eq hl
  trans h₁ h₂ := h₁.trans h₂
  count h hits' := binds_count h hits'
  handler h next e w := binds_send (.handler h next) e {} w

theorem binds_move (m : Move σ) (w : World σ) :
    Binds (fun ref => (Deed.move m).tries ref w) w (m.run w) := by
  cases m with
  | send out e o => exact binds_send out e o w
  | process p e => exact lifts_binds.process p e w
  | complete i =>
      simp only [Move.run, completeAt]
      split
      · exact .of_eq rfl
      · have htaken : Binds (fun _ => []) w { w with pending := w.pending.eraseIdx i } := .of_eq rfl
        exact htaken.trans (lifts_binds.complete _ _)
  | addListener l => exact binds_addListener w l
  | bind ref c =>
      have h := binds_ensureConnector w ref c
      rwa [← Move.snd_bindConnector] at h
  | ensure ref c => exact binds_ensureConnector w ref c
  | around a => exact .of_eq rfl

/-- **One deed** tries what it is said to try, and nothing else. -/
theorem binds_deed (m : Deed σ) (w : World σ) : Binds (fun ref => m.tries ref w) w (m.run w) := by
  cases m with
  | move m => exact binds_move m w
  | tell ref reason r => exact lifts_binds.onReturnFor ref reason r w
  | attach h e => exact binds_attach h e w
  | slot x d c r s => exact lifts_binds.make x d c r s w

/-- Any deeds. -/
theorem binds_following (ms : List (Deed σ)) (w : World σ) :
    Binds (fun ref => w.tries ref ms) w (w.following ms) := by
  induction ms generalizing w with
  | nil => exact .of_eq rfl
  | cons m ms ih => exact (binds_deed m w).trans (ih (m.run w))

theorem listener?_following {w : World σ} {ref : ListenerRef} {d : Dispatching σ}
    (hl : w.listener? ref = some (.dispatching d)) (ms : List (Deed σ)) :
    (w.following ms).listener? ref = some (.dispatching (d.tried (w.tries ref ms))) := by
  obtain ⟨l, hl', g⟩ := binds_following ms w ref _ hl
  cases g with
  | dispatching _ => exact hl'

/-! ### Binding by hand, and what a bound listener does -/

section

variable {w : World σ} {ref : ListenerRef} {d : Dispatching σ}

theorem bindConnector_ok_iff (hl : w.listener? ref = some (.dispatching d)) (c : Connector σ) :
    (w.bindConnector ref c).1 = some (.ok ()) ↔ d.connector = none := by
  cases hc : d.connector with
  | none => simp only [bindConnector, hl, hc]
  | some c' => simp only [bindConnector, hl, hc, Option.some.injEq, reduceCtorEq]

theorem bindConnector_bound (hl : w.listener? ref = some (.dispatching d))
    (hc : d.connector ≠ none) (c : Connector σ) :
    w.bindConnector ref c = (some (.error .listenerAlreadyBound), w) := by
  obtain ⟨c', hc'⟩ := Option.ne_none_iff_exists'.mp hc
  simp only [bindConnector, hl, hc']

theorem ensureConnector_logging {hits : UInt64} (hl : w.listener? ref = some (.logging hits))
    (c : Connector σ) : w.ensureConnector ref c = w := by
  simp only [ensureConnector, hl]

/-- A listener that is told dispatches by the schedule of its connector. -/
theorem onReturnFor_course (hl : w.listener? ref = some (.dispatching d)) {c : Connector σ}
    (hc : d.connector = some c) (reason : String) (r : Returned) (s : Held) :
    ∃ calls out w', Course d c r (w.extracted r) s (d.schedule c) calls out w' ∧
      Called calls w (w.onReturnFor ref reason r) ∧
      ∃ es, w.onReturnFor ref reason r = { w' with record := es } := by
  have ho : w.onReturnFor ref reason r = d.onReturn reason r w := by rw [onReturnFor, hl]
  rw [ho]
  exact d.onReturn_course hc reason r w s

end

/-- **The first connector stays.**  After any deeds, a dispatching listener is what it was, with
the connector it had or else the first that was tried on it. -/
theorem first_connector_stays (w : World σ) (ref : ListenerRef) (d : Dispatching σ)
    (hl : w.listener? ref = some (.dispatching d)) (ms : List (Deed σ)) :
    let v := w.following ms
    let d' := d.tried (w.tries ref ms)
    v.listener? ref = some (.dispatching d') ∧
      -- Binding by hand succeeds just where there is no connector yet, and else changes nothing.
      (∀ c, ((v.bindConnector ref c).1 = some (.ok ()) ↔ d'.connector = none) ∧
        (d'.connector ≠ none →
          v.bindConnector ref c = (some (.error .listenerAlreadyBound), v))) ∧
      -- A logging listener takes no connector.
      (∀ ref' hits c, v.listener? ref' = some (.logging hits) → v.ensureConnector ref' c = v) ∧
      -- A handler passes an event on with a new listener, which has no connector yet.
      (∀ h next e o, (Outbound.handler h next).send e o v =
          next.send e { o with listener := some v.nextRef } (attach h e v).2 ∧
        (attach h e v).2.listener? v.nextRef = some (.dispatching (v.attached h e)) ∧
        (v.attached h e).connector = none) ∧
      -- A returned message is dispatched with the one connector.
      (∀ c reason r s, d'.connector = some c →
        ∃ calls out w', Course d' c r (v.extracted r) s (d'.schedule c) calls out w' ∧
          Called calls v (v.onReturnFor ref reason r) ∧
          ∃ es, v.onReturnFor ref reason r = { w' with record := es }) := by
  intro v d'
  have hl' : v.listener? ref = some (.dispatching d') := listener?_following hl ms
  refine ⟨hl', fun c => ⟨bindConnector_ok_iff hl' c, fun hc => bindConnector_bound hl' hc c⟩,
    fun ref' hits c h => ensureConnector_logging h c, fun h next e o => ?_,
    fun c reason r s hc => onReturnFor_course hl' hc reason r s⟩
  exact ⟨send_handler h next e o v, listener?_attach h e v, rfl⟩

/-- A listener without connector, at the second place. -/
def unclaimed : World Unit :=
  { outside := ()
    listeners := [.logging 0, .dispatching { chain := ⟨0, []⟩ }] }

/-- A publish without endpoint tries nothing.  One that fails, for want of a channel, is the
first to try a connector, and those who come later are too late. -/
theorem first_connector_stays_contested :
    let late : Connector Unit := { plain with name := "late" }
    let o : PublishOptions := { listener := some ⟨1⟩ }
    let ms : List (Deed Unit) :=
      [.move (.send (.publisher ⟨0, 1⟩ late) { laden with endpoint := none } o),
        .move (.send (.publisher ⟨0, 1⟩ plain) laden o), .move (.ensure ⟨1⟩ late),
        .tell ⟨1⟩ "" default]
    let d : Dispatching Unit := { chain := ⟨0, []⟩, connector := some plain }
    unclaimed.listener? ⟨1⟩ = some (.dispatching { chain := ⟨0, []⟩ }) ∧
      (unclaimed.following ms).listener? ⟨1⟩ = some (.dispatching d) ∧
      (unclaimed.following ms).bindConnector ⟨1⟩ late =
        (some (.error .listenerAlreadyBound), unclaimed.following ms) ∧
      ∃ calls out w',
        Course d plain default ((unclaimed.following ms).extracted default) ⟨default, default⟩
          (d.schedule plain) calls out w' ∧
        Called calls (unclaimed.following ms)
          ((unclaimed.following ms).onReturnFor ⟨1⟩ "" default) ∧
        ∃ es, (unclaimed.following ms).onReturnFor ⟨1⟩ "" default = { w' with record := es } := by
  intro late o ms d
  obtain ⟨hl, hb, -, -, hr⟩ := first_connector_stays unclaimed ⟨1⟩ { chain := ⟨0, []⟩ } rfl ms
  exact ⟨rfl, hl, (hb late).2 nofun, hr plain "" default ⟨default, default⟩ rfl⟩

end AmqpReturns
