import AmqpReturns.Proofs.Dispatch

/-!
# Proofs — processors do not meet in their events

The processors of a chain are handed events one after the other (`World.handedUntil`).  What a
processor is handed is made of what the factory replied and of the endpoint that the processor
itself named (`Dispatching.Makes`): nothing in it comes from the processors before it, apart from
the world they left.  Transformers may look at that world.  Where they look at the event alone,
and not at identities, two events made of one message with one endpoint are the same but for
identities, in whatever worlds and whatever the other processors are (`handed_isolated`).
-/

namespace AmqpReturns

open World

variable {σ : Type}

/-! ### Events that are the same but for identities -/

/-- The events differ at most in identities, their own and their sessions'. -/
structure Event.SameButIds (e e' : Event) : Prop where
  message : e.message = e'.message
  endpoint : e.endpoint = e'.endpoint
  flow : e.session.flow = e'.session.flow
  context : e.session.context = e'.session.context
  channel : e.session.channel = e'.session.channel

/-- Changes messages only. -/
def Transformer.OnMessage (t : Transformer σ) : Prop :=
  ∀ e outside, ∃ m, (t.run e outside).1 = { e with message := m }

/-- What it makes of a message and how it ends hangs on the event alone, and there on no
identity. -/
def Transformer.Oblivious (t : Transformer σ) : Prop :=
  ∀ e e' outside outside', e.SameButIds e' →
    (t.run e outside).1.message = (t.run e' outside').1.message ∧
      (t.run e outside).2.result = (t.run e' outside').2.result

theorem Transformer.OnMessage.sameButIds {t : Transformer σ} (hm : t.OnMessage)
    (ho : t.Oblivious) {e e' : Event} (h : e.SameButIds e') (outside outside' : σ) :
    (t.run e outside).1.SameButIds (t.run e' outside').1 := by
  obtain ⟨hmessage, -⟩ := ho e e' outside outside' h
  obtain ⟨m, he⟩ := hm e outside
  obtain ⟨m', he'⟩ := hm e' outside'
  rw [he, he'] at hmessage ⊢
  exact { h with message := hmessage }

theorem applyTransformers_onMessage {ts : List (Transformer σ)} (hts : ∀ t ∈ ts, t.OnMessage)
    (e : Event) (w : World σ) : ∃ m, (applyTransformers ts e w).1 = { e with message := m } := by
  induction ts generalizing e w with
  | nil => exact ⟨e.message, rfl⟩
  | cons t ts ih =>
      obtain ⟨m, hm⟩ := hts t List.mem_cons_self e w.outside
      rcases ht : t.run e w.outside with ⟨e₁, reply⟩
      obtain rfl : e₁ = { e with message := m } := by rw [← hm, ht]
      rcases hr : reply.result with h | u
      · exact ⟨m, by simp only [applyTransformers, ht, hr]⟩
      · obtain ⟨m', hm'⟩ := ih (fun t h => hts t (List.mem_cons_of_mem _ h))
          { e with message := m } (w.writeCall (.transform t.name) reply)
        refine ⟨m', ?_⟩
        simp only [applyTransformers, ht, hr]
        exact hm'

/-- **Two runs of the transformers**, in any worlds, on events that are the same but for
identities: they end alike, with such events. -/
theorem applyTransformers_oblivious {ts : List (Transformer σ)}
    (hm : ∀ t ∈ ts, t.OnMessage) (ho : ∀ t ∈ ts, t.Oblivious) {e e' : Event}
    (h : e.SameButIds e') (w w' : World σ) :
    (applyTransformers ts e w).1.SameButIds (applyTransformers ts e' w').1 ∧
      (applyTransformers ts e w).2.1 = (applyTransformers ts e' w').2.1 := by
  induction ts generalizing e e' w w' with
  | nil => exact ⟨h, rfl⟩
  | cons t ts ih =>
      have hsame := (hm t List.mem_cons_self).sameButIds (ho t List.mem_cons_self) h
        w.outside w'.outside
      obtain ⟨-, hresult⟩ := ho t List.mem_cons_self e e' w.outside w'.outside h
      rcases ht : t.run e w.outside with ⟨e₁, reply⟩
      rcases ht' : t.run e' w'.outside with ⟨e₁', reply'⟩
      rw [ht, ht'] at hsame hresult
      simp only at hsame hresult
      rcases hr : reply.result with f | u
      · rw [hr] at hresult
        simp only [applyTransformers, ht, ht', hr, ← hresult]
        exact ⟨hsame, trivial⟩
      · rw [hr] at hresult
        simp only [applyTransformers, ht, ht', hr, ← hresult]
        exact ih (fun t h => hm t (List.mem_cons_of_mem _ h))
          (fun t h => ho t (List.mem_cons_of_mem _ h)) hsame _ _

/-! ### What is handed over -/

/-- The processor that is called, and the event it is handed. -/
def Call.handed? : Call → Option (Party × Event)
  | .process party e => some (party, e)
  | _ => none

/-- The events that calls hand over, in order, each with the processor it is for. -/
def handedBy (cs : List Call) : List (Party × Event) :=
  cs.filterMap Call.handed?

theorem handedBy_append (cs ds : List Call) :
    handedBy (cs ++ ds) = handedBy cs ++ handedBy ds :=
  List.filterMap_append

/-- The processor that an entry says was called, and the event it was handed. -/
def Entry.handed? : Entry → Option (Party × Event)
  | .call c => c.handed?
  | _ => none

/-- The events that were handed over between two worlds, as the record has them. -/
def World.handedUntil (w w' : World σ) : List (Party × Event) :=
  (w'.record.drop w.record.length).filterMap Entry.handed?

/-- They are those of the calls of dispatches. -/
theorem World.Called.handedUntil_eq {cs : List Call} {w w' : World σ} (h : Called cs w w') :
    w.handedUntil w' = handedBy cs := by
  obtain ⟨es, hes, rfl⟩ := h
  have pointwise (x : Entry) : x.handed? = x.dispatched?.bind Call.handed? := by
    cases x with
    | call c => cases c <;> rfl
    | _ => rfl
  rw [handedUntil, hes, List.drop_left, handedBy, List.filterMap_filterMap]
  exact congrArg (fun f => es.filterMap f) (funext pointwise)

/-! ### Courses in parts -/

namespace Course

variable {d : Dispatching σ} {c : Connector σ} {r : Returned} {w w₁ w' : World σ} {s s₁ : Held}
  {xs ys : List (Slot σ)} {cs ds : List Call} {out : Except Halt Held}

/-- A course of two lists of slots fails within the first, or goes on to the second. -/
theorem of_append (h : Course d c r w s (xs ++ ys) cs out w') :
    (∃ e, out = .error e ∧ Course d c r w s xs cs (.error e) w') ∨
    ∃ cs₁ cs₂ s₁ w₁, cs = cs₁ ++ cs₂ ∧ Course d c r w s xs cs₁ (.ok s₁) w₁ ∧
      Course d c r w₁ s₁ ys cs₂ out w' := by
  induction xs generalizing w s cs with
  | nil => exact .inr ⟨[], cs, s, w, rfl, .done w s, h⟩
  | cons x xs ih =>
      cases h with
      | next hx t =>
          rcases ih t with ⟨e, rfl, hxs⟩ | ⟨cs₁, cs₂, s₁, w₁, rfl, hxs, hys⟩
          · exact .inl ⟨e, rfl, .next hx hxs⟩
          · exact .inr ⟨_ :: cs₁, cs₂, s₁, w₁, rfl, .next hx hxs, hys⟩
      | halt _ hx => exact .inl ⟨_, rfl, .halt xs hx⟩

/-- What follows a part that does not fail. -/
theorem resume (h₁ : Course d c r w s xs cs (.ok s₁) w₁)
    (h : Course d c r w s (xs ++ ys) ds out w') :
    ∃ es, ds = cs ++ es ∧ Course d c r w₁ s₁ ys es out w' := by
  rcases h.of_append with ⟨e, -, hxs⟩ | ⟨cs₁, cs₂, s₂, w₂, rfl, hxs, hys⟩
  · obtain ⟨-, ho, -⟩ := h₁.unique hxs
    cases ho
  · obtain ⟨rfl, ho, rfl⟩ := h₁.unique hxs
    cases ho
    exact ⟨cs₂, rfl, hys⟩

/-- Where no processor is called, nothing is handed over. -/
theorem handedBy_eq_nil (h : Course d c r w s xs cs out w') (hxs : ∀ p, .process p ∉ xs) :
    handedBy cs = [] := by
  have call {x : Slot σ} {xs : List (Slot σ)} (s : Held) (hxs : ∀ p, .process p ∉ x :: xs) :
      (x.call c r s).handed? = none := by
    cases x with
    | process p => exact absurd List.mem_cons_self (hxs p)
    | _ => rfl
  induction h with
  | done => rfl
  | @next _ _ _ s _ _ _ _ _ _ _ ih =>
      rw [handedBy, List.filterMap_cons_none (call s hxs)]
      exact ih fun p hp => hxs p (List.mem_cons_of_mem _ hp)
  | @halt _ _ s _ _ _ _ =>
      rw [handedBy, List.filterMap_cons_none (call s hxs)]
      rfl

end Course

/-! ### One processor's turn -/

/-- The calls for a processor before the one that hands the event over. -/
def Connector.approach (c : Connector σ) (p : Processor σ) : List (Slot σ) :=
  .endpoint p :: c.transformers.map .transform

theorem Connector.turn_eq (c : Connector σ) (p : Processor σ) :
    c.turn p = c.approach p ++ [.process p] := rfl

theorem Connector.process_not_mem_approach (c : Connector σ) (p p' : Processor σ) :
    .process p' ∉ c.approach p := by
  simp only [approach, List.mem_cons, List.mem_map, reduceCtorEq, and_false, exists_false,
    or_false, not_false_eq_true]

/-- Transformers are called in order, each on the event as the one before it left it, and all of
them succeed. -/
inductive Passes : List (Transformer σ) → Event → World σ → Event → World σ → Prop where
  | nil (e : Event) (w : World σ) : Passes [] e w e w
  | cons {t : Transformer σ} {ts : List (Transformer σ)} {e e' : Event} {w w' : World σ}
      (ht : (t.run e w.outside).2.result = .ok ())
      (hts : Passes ts (t.run e w.outside).1
        (w.writeCall (.transform t.name) (t.run e w.outside).2) e' w') :
      Passes (t :: ts) e w e' w'

theorem passes_iff {ts : List (Transformer σ)} {e e' : Event} {w w' : World σ} :
    Passes ts e w e' w' ↔ applyTransformers ts e w = (e', .ok (), w') := by
  constructor
  · intro h
    induction h with
    | nil e w => rfl
    | cons ht _ ih => simpa only [applyTransformers, ht] using ih
  · intro h
    induction ts generalizing e w with
    | nil =>
        cases h
        exact .nil _ _
    | cons t ts ih =>
        rcases hr : (t.run e w.outside).2.result with f | u
        · simp only [applyTransformers, hr] at h
          cases h
        · simp only [applyTransformers, hr] at h
          exact .cons hr (ih h)

/-- From a message, the event for a processor whose turn comes in `w` is `e`: the processor names
an endpoint, or none, and the transformers all pass the event made with it. -/
def Dispatching.Makes (d : Dispatching σ) (c : Connector σ) (m : Message) (p : Processor σ)
    (w : World σ) (e : Event) : Prop :=
  ∃ endpoint w₁ w₂, (p.naming w.outside).result = .ok endpoint ∧
    w₁ = w.writeCall (.endpoint p.party) (p.naming w.outside) ∧
    Passes c.transformers (d.eventFor c m endpoint w₁) w₁.draw.2.draw.2 e w₂

/-- So the bus makes it. -/
theorem Dispatching.makes_iff {d : Dispatching σ} {c : Connector σ} {m : Message}
    {p : Processor σ} {w : World σ} {e : Event} :
    d.Makes c m p w e ↔ ∃ endpoint w₁ w₂, p.endpoint w = (.ok endpoint, w₁) ∧
      applyTransformers c.transformers (d.eventFor c m endpoint w₁) w₁.draw.2.draw.2 =
        (e, .ok (), w₂) := by
  constructor
  · rintro ⟨endpoint, w₁, w₂, hp, rfl, ht⟩
    exact ⟨endpoint, _, w₂, by rw [endpoint_eq, hp], passes_iff.mp ht⟩
  · rintro ⟨endpoint, w₁, w₂, hp, ht⟩
    rw [endpoint_eq] at hp
    obtain ⟨hr, rfl⟩ := Prod.mk.inj hp
    exact ⟨endpoint, _, w₂, hr, rfl, passes_iff.mpr ht⟩

section

variable {d : Dispatching σ} {c : Connector σ} {r : Returned}

/-- The calls that make an event all succeed. -/
theorem Dispatching.Makes.course {m : Message} {p : Processor σ} {w : World σ} {e : Event}
    (h : d.Makes c m p w e) {s : Held} (hs : s.message = m) :
    ∃ cs w', Course d c r w s (c.approach p) cs (.ok { s with event := e }) w' := by
  obtain ⟨endpoint, w₁, w₂, hp, ht⟩ := makes_iff.mp h
  subst hs
  have hm : (Slot.endpoint p).make d c r s w =
      (.ok { s with event := d.eventFor c s.message endpoint w₁ }, w₁.draw.2.draw.2) :=
    endpoint_make_ok hp s
  obtain ⟨cs, hts⟩ := transforms_course (d := d) (c := c) (r := r) c.transformers
    w₁.draw.2.draw.2 { s with event := d.eventFor c s.message endpoint w₁ }
  rw [ht] at hts
  exact ⟨_, w₂, .next hm hts⟩

theorem Course.makes {p : Processor σ} {w w' : World σ} {s s' : Held} {cs : List Call}
    (h : Course d c r w s (c.approach p) cs (.ok s') w') :
    d.Makes c s.message p w s'.event ∧ s'.message = s.message := by
  cases h with
  | next hm t =>
      obtain ⟨endpoint, w₁, hp, rfl, rfl⟩ := endpoint_made hm
      obtain ⟨ds, hts⟩ := transforms_course (d := d) (c := c) (r := r) c.transformers
        w₁.draw.2.draw.2 { s with event := d.eventFor c s.message endpoint w₁ }
      rcases ht : applyTransformers c.transformers (d.eventFor c s.message endpoint w₁)
        w₁.draw.2.draw.2 with ⟨e, f | u, w₂⟩
      · rw [ht] at hts
        obtain ⟨-, ho, -⟩ := hts.unique t
        cases ho
      · rw [ht] at hts
        obtain ⟨-, ho, rfl⟩ := hts.unique t
        cases ho
        exact ⟨Dispatching.makes_iff.mpr ⟨endpoint, w₁, w₂, hp, ht⟩, rfl⟩

/-- **A turn** hands over nothing and fails, or hands its processor the event that was made. -/
theorem Course.turn_handed {p : Processor σ} {w w' : World σ} {s : Held} {cs : List Call}
    {out : Except Halt Held} (h : Course d c r w s (c.turn p) cs out w') :
    (handedBy cs = [] ∧ ∃ f, out = .error f) ∨
    ∃ e, d.Makes c s.message p w e ∧ handedBy cs = [(p.party, e)] ∧
      ∀ s', out = .ok s' → s'.message = s.message := by
  rw [c.turn_eq] at h
  rcases h.of_append with ⟨f, rfl, ha⟩ | ⟨cs₁, cs₂, s₁, w₁, rfl, ha, hp⟩
  · exact .inl ⟨ha.handedBy_eq_nil (c.process_not_mem_approach p), f, rfl⟩
  · obtain ⟨hmakes, hmessage⟩ := ha.makes
    refine .inr ⟨s₁.event, hmakes, ?_, ?_⟩
    · rw [handedBy_append, ha.handedBy_eq_nil (c.process_not_mem_approach p)]
      cases hp with
      | next _ t => cases t; rfl
      | halt _ _ => rfl
    · rintro s' rfl
      cases hp with
      | next hx t =>
          cases t
          rw [process_made hx]
          exact hmessage

/-- A turn hands over no event but the one. -/
theorem Course.turn_hands {p : Processor σ} {w w' : World σ} {s : Held} {cs : List Call}
    {out : Except Halt Held} (h : Course d c r w s (c.turn p) cs out w') {k : Nat} {party : Party}
    {e : Event} (hk : (handedBy cs)[k]? = some (party, e)) :
    k = 0 ∧ party = p.party ∧ d.Makes c s.message p w e := by
  rcases h.turn_handed with ⟨he, -⟩ | ⟨e', hmakes, he, -⟩
  · rw [he] at hk
    cases hk
  · rw [he] at hk
    obtain ⟨hlt, heq⟩ := List.getElem?_eq_some_iff.mp hk
    obtain rfl : k = 0 := Nat.lt_one_iff.mp hlt
    cases heq
    exact ⟨rfl, rfl, hmakes⟩

/-! ### The turns of a chain -/

/-- The turns of a chain, cut where the event at place `k` is handed over. -/
theorem Connector.turns_at (c : Connector σ) {ps : List (Processor σ)} {k : Nat}
    {p : Processor σ} (hp : ps[k]? = some p) :
    ps.flatMap c.turn = (ps.take k).flatMap c.turn ++
      (c.approach p ++ .process p :: (ps.drop (k + 1)).flatMap c.turn) := by
  obtain ⟨hk, rfl⟩ := List.getElem?_eq_some_iff.mp hp
  calc ps.flatMap c.turn
      = (ps.take k ++ ps.drop k).flatMap c.turn := by rw [List.take_append_drop]
    _ = (ps.take k).flatMap c.turn ++ (c.turn ps[k] ++ (ps.drop (k + 1)).flatMap c.turn) := by
        rw [List.flatMap_append, List.drop_eq_getElem_cons hk, List.flatMap_cons]
    _ = _ := by
        rw [c.turn_eq, List.append_assoc]
        rfl

/-- Turns that do not fail keep the message and hand over one event each. -/
theorem Course.turns_ok {ps : List (Processor σ)} {w w' : World σ} {s s' : Held}
    {cs : List Call} (h : Course d c r w s (ps.flatMap c.turn) cs (.ok s') w') :
    s'.message = s.message ∧ (handedBy cs).length = ps.length := by
  induction ps generalizing w s cs with
  | nil =>
      cases h
      exact ⟨rfl, rfl⟩
  | cons p ps ih =>
      rw [List.flatMap_cons] at h
      rcases h.of_append with ⟨f, ho, -⟩ | ⟨cs₁, cs₂, s₁, w₁, rfl, hp, hps⟩
      · cases ho
      · rcases hp.turn_handed with ⟨-, f, ho⟩ | ⟨e, -, he, hmessage⟩
        · cases ho
        · obtain ⟨hm, hl⟩ := ih hps
          refine ⟨hm.trans (hmessage s₁ rfl), ?_⟩
          rw [handedBy_append, he, List.length_append, hl, List.length_singleton,
            List.length_cons, Nat.add_comm]

/-- **What a place of the chain is handed**: the turns before it succeed, and it is handed what
is made in the world they leave. -/
theorem Course.turns_handed {ps : List (Processor σ)} {w w' : World σ} {s : Held}
    {cs : List Call} {out : Except Halt Held} (h : Course d c r w s (ps.flatMap c.turn) cs out w')
    {k : Nat} {party : Party} {e : Event} (hk : (handedBy cs)[k]? = some (party, e)) :
    ∃ p calls s₁ w₁, ps[k]? = some p ∧ party = p.party ∧
      Course d c r w s ((ps.take k).flatMap c.turn) calls (.ok s₁) w₁ ∧
      d.Makes c s.message p w₁ e := by
  induction ps generalizing w s cs k with
  | nil => cases h; cases hk
  | cons p ps ih =>
      rw [List.flatMap_cons] at h
      rcases h.of_append with ⟨f, rfl, hp⟩ | ⟨cs₁, cs₂, s₁, w₁, rfl, hp, hps⟩
      · obtain ⟨rfl, hparty, hmakes⟩ := hp.turn_hands hk
        exact ⟨p, [], s, w, rfl, hparty, .done w s, hmakes⟩
      · rcases hp.turn_handed with ⟨-, f, ho⟩ | ⟨e₀, hmakes₀, he, hmessage⟩
        · cases ho
        · rw [handedBy_append, he] at hk
          cases k with
          | zero =>
              cases hk
              exact ⟨p, [], s, w, rfl, rfl, .done w s, hmakes₀⟩
          | succ k =>
              obtain ⟨p', calls, s₂, w₂, hps', hparty, hcourse, hmakes⟩ :=
                ih hps (k := k) hk
              rw [hmessage s₁ rfl] at hmakes
              exact ⟨p', _, s₂, w₂, hps', hparty, hp.append hcourse, hmakes⟩

/-- A message, once made, is what all turns start with. -/
theorem Course.created_ok {ps : List (Processor σ)} {w w' : World σ} {s s' : Held}
    {cs : List Call} (h : Course d c r w s (.create :: ps.flatMap c.turn) cs (.ok s') w') :
    (c.factory.reply c.context.defaultEncoding r w.outside).result = .ok s'.message ∧
      (handedBy cs).length = ps.length := by
  cases h with
  | next hx t =>
      obtain ⟨hmessage, hl⟩ := t.turns_ok
      rw [hmessage]
      exact ⟨(create_made hx).1, hl⟩

end

/-! ### A returned message -/

/-- The dispatch comes to place `k` of the chain, in `w`: the message is made, and the turns
before that place succeed. -/
def Dispatching.Reaches (d : Dispatching σ) (c : Connector σ) (r : Returned) (v : World σ)
    (k : Nat) (w : World σ) : Prop :=
  ∃ s calls s', Course d c r v s (.create :: (d.chain.processors.take k).flatMap c.turn) calls
    (.ok s') w

section

variable {d : Dispatching σ} {c : Connector σ} {r : Returned} {reason : String} {w w₁ : World σ}
  {k : Nat} {e : Event} {m : Message}

/-- Whom a returned message comes to, and with what. -/
theorem Dispatching.reaches_of_handed (hc : d.connector = some c) {party : Party}
    (hk : (w.handedUntil (d.onReturn reason r w))[k]? = some (party, e)) :
    ∃ p m w₁, d.chain.processors[k]? = some p ∧ party = p.party ∧
      (c.factory.reply c.context.defaultEncoding r w.outside).result = .ok m ∧
      d.Reaches c r (w.extracted r) k w₁ ∧ d.Makes c m p w₁ e := by
  obtain ⟨calls, out, w', hcourse, hcalled, -⟩ :=
    d.onReturn_course hc reason r w ⟨default, default⟩
  rw [hcalled.handedUntil_eq] at hk
  cases hcourse with
  | halt _ _ => cases hk
  | next hx t =>
      obtain ⟨p, calls, s₁, w₁, hp, hparty, hcourse, hmakes⟩ := t.turns_handed hk
      obtain ⟨hm, -⟩ := (Course.next hx hcourse).created_ok
      rw [outside_extracted] at hm
      rw [← hcourse.turns_ok.1] at hmakes
      exact ⟨p, _, w₁, hp, hparty, hm, ⟨_, _, s₁, .next hx hcourse⟩, hmakes⟩

/-- **Up to the hand-over.**  Where the dispatch comes to a processor, and an event is made for it,
all calls before the one that hands this event over succeed. -/
theorem Dispatching.Reaches.approach (hr : d.Reaches c r (w.extracted r) k w₁) {p : Processor σ}
    (hp : d.chain.processors[k]? = some p)
    (hm : (c.factory.reply c.context.defaultEncoding r w.outside).result = .ok m)
    (h : d.Makes c m p w₁ e) :
    ∃ done rest s calls s' w₂, d.schedule c = done ++ .process p :: rest ∧
      Course d c r (w.extracted r) s done calls (.ok s') w₂ ∧ s'.event = e ∧
      (handedBy calls).length = k := by
  obtain ⟨s, calls, s₁, hbefore⟩ := hr
  obtain ⟨hm', hl⟩ := hbefore.created_ok
  rw [outside_extracted] at hm'
  obtain rfl : s₁.message = m := Except.ok.inj (hm'.symm.trans hm)
  obtain ⟨as, w₂, happroach⟩ := h.course (r := r) (s := s₁) rfl
  refine ⟨_, (d.chain.processors.drop (k + 1)).flatMap c.turn, s, _, _, w₂, ?_,
    hbefore.append happroach, rfl, ?_⟩
  · rw [schedule, c.turns_at hp, ← List.cons_append, ← List.append_assoc]
  · have hk := (List.getElem?_eq_some_iff.mp hp).1
    rw [handedBy_append, happroach.handedBy_eq_nil (c.process_not_mem_approach p),
      List.append_nil, hl, List.length_take, Nat.min_eq_left (Nat.le_of_lt hk)]

/-- A processor that the dispatch comes to, and for which an event is made, is handed it. -/
theorem Dispatching.Reaches.handed (hr : d.Reaches c r (w.extracted r) k w₁)
    (hc : d.connector = some c) {p : Processor σ} (hp : d.chain.processors[k]? = some p)
    (hm : (c.factory.reply c.context.defaultEncoding r w.outside).result = .ok m)
    (h : d.Makes c m p w₁ e) :
    (w.handedUntil (d.onReturn reason r w))[k]? = some (p.party, e) := by
  obtain ⟨done, rest, s, calls, s', w₂, hs, hdone, rfl, hlen⟩ := hr.approach hp hm h
  obtain ⟨ds, out, w', hcourse, hcalled, -⟩ := d.onReturn_course hc reason r w s
  rw [hs] at hcourse
  obtain ⟨es, rfl, hrest⟩ := hdone.resume hcourse
  have hcall : ∃ fs, es = .process p.party s'.event :: fs := by
    cases hrest with
    | next _ _ => exact ⟨_, rfl⟩
    | halt _ _ => exact ⟨_, rfl⟩
  obtain ⟨fs, rfl⟩ := hcall
  rw [hcalled.handedUntil_eq, handedBy_append, List.getElem?_append_right (Nat.le_of_eq hlen),
    hlen, Nat.sub_self]
  rfl

end

/-! ### Two dispatches -/

section

variable {d : Dispatching σ} {c : Connector σ} {m : Message} {p : Processor σ} {w : World σ}
  {e : Event}

theorem Dispatching.Makes.unique {e' : Event} (h : d.Makes c m p w e) (h' : d.Makes c m p w e') :
    e = e' := by
  obtain ⟨endpoint, w₁, w₂, hp, ht⟩ := makes_iff.mp h
  obtain ⟨endpoint', w₁', w₂', hp', ht'⟩ := makes_iff.mp h'
  cases hp.symm.trans hp'
  cases ht.symm.trans ht'
  rfl

/-- Transformers that change messages only leave the event to its processor. -/
theorem Dispatching.Makes.event (hts : ∀ t ∈ c.transformers, t.OnMessage)
    (h : d.Makes c m p w e) :
    ∃ endpoint w₁ w₂, (p.naming w.outside).result = .ok endpoint ∧
      w₁ = w.writeCall (.endpoint p.party) (p.naming w.outside) ∧
      Passes c.transformers (d.eventFor c m endpoint w₁) w₁.draw.2.draw.2 e w₂ ∧
      e.endpoint = endpoint.or d.endpoint ∧ e.session.flow = d.flow ∧
      e.session.context = c.context ∧ e.session.channel = none := by
  obtain ⟨endpoint, w₁, w₂, hp, hw, ht⟩ := h
  obtain ⟨m', he⟩ := applyTransformers_onMessage hts (d.eventFor c m endpoint w₁)
    w₁.draw.2.draw.2
  rw [passes_iff.mp ht] at he
  subst he
  exact ⟨endpoint, w₁, w₂, hp, hw, ht, rfl, rfl, rfl, rfl⟩

/-- **The event, made once more**, in another world, for a processor of another chain which comes
to the same endpoint. -/
theorem Dispatching.Makes.again (hts : ∀ t ∈ c.transformers, t.OnMessage)
    (ho : ∀ t ∈ c.transformers, t.Oblivious) (h : d.Makes c m p w e) (chain : Chain σ)
    {p' : Processor σ} {endpoint' : Option Endpoint} {w' : World σ}
    (hp' : (p'.naming w'.outside).result = .ok endpoint')
    (he : endpoint'.or d.endpoint = e.endpoint) :
    ∃ e', { d with chain }.Makes c m p' w' e' ∧ e.SameButIds e' := by
  obtain ⟨endpoint, w₁, w₂, -, -, ht, hendpoint, -⟩ := h.event hts
  obtain ⟨w₁', hw'⟩ : ∃ w₁', w₁' = w'.writeCall (.endpoint p'.party) (p'.naming w'.outside) :=
    ⟨_, rfl⟩
  have hsame : (d.eventFor c m endpoint w₁).SameButIds
      ({ d with chain }.eventFor c m endpoint' w₁') :=
    ⟨rfl, hendpoint.symm.trans he.symm, rfl, rfl, rfl⟩
  obtain ⟨hevent, hresult⟩ := applyTransformers_oblivious hts ho hsame w₁.draw.2.draw.2
    w₁'.draw.2.draw.2
  rcases ht' : applyTransformers c.transformers ({ d with chain }.eventFor c m endpoint' w₁')
    w₁'.draw.2.draw.2 with ⟨e', result, w₂'⟩
  rw [passes_iff.mp ht, ht'] at hevent hresult
  obtain rfl : Except.ok () = result := hresult
  exact ⟨e', ⟨endpoint', w₁', w₂', hp', hw', passes_iff.mpr ht'⟩, hevent⟩

end

/-- **Processors do not meet in their events.**  Where transformers change messages only, the
event for the processor at place `k` is made of the message that the factory replied with, by the
transformers' calls of that one turn, with the endpoint that the processor itself named or else
the captured one, in a session of the captured flow and the connector's context, without channel.
Where they look at nothing but the event either, and not at identities, it makes no difference who
stands in the chain: events with one endpoint are the same but for identities, within a dispatch
and between the dispatches of two chains; and whoever is reached is handed such an event. -/
theorem handed_isolated (d : Dispatching σ) {c : Connector σ} (hc : d.connector = some c)
    (hts : ∀ t ∈ c.transformers, t.OnMessage) (reason : String) (r : Returned) (w : World σ) :
    (∀ (k : Nat) (party : Party) (e : Event),
      (w.handedUntil (d.onReturn reason r w))[k]? = some (party, e) →
      ∃ p m endpoint w₁ w₂ w₃, d.chain.processors[k]? = some p ∧ party = p.party ∧
        (c.factory.reply c.context.defaultEncoding r w.outside).result = .ok m ∧
        d.Reaches c r (w.extracted r) k w₁ ∧
        (p.naming w₁.outside).result = .ok endpoint ∧
        w₂ = w₁.writeCall (.endpoint p.party) (p.naming w₁.outside) ∧
        Passes c.transformers (d.eventFor c m endpoint w₂) w₂.draw.2.draw.2 e w₃ ∧
        e.endpoint = endpoint.or d.endpoint ∧ e.session.flow = d.flow ∧
        e.session.context = c.context ∧ e.session.channel = none) ∧
    ((∀ t ∈ c.transformers, t.Oblivious) →
      ∀ (k : Nat) (party : Party) (e : Event),
        (w.handedUntil (d.onReturn reason r w))[k]? = some (party, e) → ∀ chain : Chain σ,
          let d' : Dispatching σ := { d with chain }
          (∀ (k' : Nat) (party' : Party) (e' : Event),
            (w.handedUntil (d'.onReturn reason r w))[k']? = some (party', e') →
            e'.endpoint = e.endpoint → e.SameButIds e') ∧
          ∀ k' p' endpoint w₁, chain.processors[k']? = some p' →
            d'.Reaches c r (w.extracted r) k' w₁ →
            (p'.naming w₁.outside).result = .ok endpoint →
            endpoint.or d.endpoint = e.endpoint →
            ∃ e', (w.handedUntil (d'.onReturn reason r w))[k']? = some (p'.party, e') ∧
              e.SameButIds e') := by
  refine ⟨fun k party e hk => ?_, fun ho k party e hk chain => ⟨?_, ?_⟩⟩
  · obtain ⟨p, m, w₁, hp, hparty, hm, hreach, hmakes⟩ := d.reaches_of_handed hc hk
    obtain ⟨endpoint, w₂, w₃, hevent⟩ := hmakes.event hts
    exact ⟨p, m, endpoint, w₁, w₂, w₃, hp, hparty, hm, hreach, hevent⟩
  · intro k' party' e' hk' he
    obtain ⟨p, m, w₁, -, -, hm, -, hmakes⟩ := d.reaches_of_handed hc hk
    obtain ⟨p', m', w₁', -, -, hm', -, hmakes'⟩ := { d with chain }.reaches_of_handed hc hk'
    cases hm.symm.trans hm'
    obtain ⟨endpoint', w₂', w₃', hp', -, -, hendpoint, -⟩ := hmakes'.event hts
    obtain ⟨e'', hmakes'', hsame⟩ := hmakes.again hts ho chain hp' (hendpoint.symm.trans he)
    obtain rfl := hmakes'.unique hmakes''
    exact hsame
  · intro k' p' endpoint w₁' hp' hreach' hendpoint he
    obtain ⟨p, m, w₁, -, -, hm, -, hmakes⟩ := d.reaches_of_handed hc hk
    obtain ⟨e', hmakes', hsame⟩ := hmakes.again hts ho chain hendpoint he
    exact ⟨e', hreach'.handed hc hp' hm hmakes', hsame⟩

/-- A connector whose one transformer puts a byte before the payload, and counts its calls. -/
def stamping : Connector Nat :=
  { name := "amqp", context := ⟨"utf-8"⟩
    transformers := [⟨"stamp", fun e n =>
      ({ e with message := { e.message with payload := 7 :: e.message.payload } },
        ⟨.ok (), n + 1, []⟩)⟩] }

/-- A processor that names an endpoint, or none, and counts its calls. -/
def counting (name : String) (endpoint : Option Endpoint) : Processor Nat :=
  .service
    { name
      process := fun e n => ⟨.ok e, n + 1, []⟩
      endpoint := some fun n => ⟨.ok endpoint, n, []⟩ }

/-- The same, with a factory that puts a byte behind what came back. -/
def minting : Connector Nat :=
  { stamping with
    factory := .custom fun r _ n =>
      ⟨.ok { (default : Message) with payload := r.body ++ [1] }, n + 1, []⟩ }

/-- What can be told of events that are handed over at a glance. -/
def glance (hs : List (Party × Event)) :
    List (Party × List UInt8 × Option Endpoint × Nat) :=
  hs.map fun (party, e) => (party, e.message.payload, e.endpoint, e.id.number)

theorem glance_eq_pair {hs : List (Party × Event)} {party party' : Party}
    {payload payload' : List UInt8} {endpoint endpoint' : Option Endpoint} {id id' : Nat}
    (h : glance hs = [(party, payload, endpoint, id), (party', payload', endpoint', id')]) :
    ∃ e e', hs = [(party, e), (party', e')] ∧
      e.message.payload = payload ∧ e.endpoint = endpoint ∧ e.id.number = id ∧
      e'.message.payload = payload' ∧ e'.endpoint = endpoint' ∧ e'.id.number = id' := by
  obtain ⟨⟨_, e⟩, rest, rfl, he, hrest⟩ := List.map_eq_cons_iff.mp h
  obtain ⟨⟨_, e'⟩, rest', rfl, he', hnil⟩ := List.map_eq_cons_iff.mp hrest
  obtain rfl := List.map_eq_nil_iff.mp hnil
  simp only [Prod.mk.injEq] at he he'
  obtain ⟨rfl, hp, hn, hi⟩ := he
  obtain ⟨rfl, hp', hn', hi'⟩ := he'
  exact ⟨e, e', rfl, hp, hn, hi, hp', hn', hi'⟩

/-- The stamp of the first turn is not on the second event, and both have the byte of the factory.
Who comes second is handed the same, but for identities, when another stands first, who is handed
an event with an endpoint of its own. -/
theorem handed_isolated_stamped :
    let out : Endpoint := { name := "out", exchange := "x", routingKey := "k" }
    let own : Endpoint := { out with routingKey := "o" }
    let first := counting "first" none
    let other := counting "other" (some own)
    let last := counting "last" none
    let d : Dispatching Nat :=
      { endpoint := some out, chain := ⟨0, [first, last]⟩, connector := some minting }
    let chain : Chain Nat := ⟨1, [other, last]⟩
    let w : World Nat := { outside := 0 }
    d.connector = some minting ∧ (∀ t ∈ minting.transformers, t.OnMessage ∧ t.Oblivious) ∧
      ∃ e₀ e₁ e₀' e₁',
        w.handedUntil (d.onReturn "" default w) = [(first.party, e₀), (last.party, e₁)] ∧
        e₀.message.payload = [7, 1] ∧ e₁.message.payload = [7, 1] ∧
        e₀.SameButIds e₁ ∧ e₀.id ≠ e₁.id ∧
        w.handedUntil ({ d with chain }.onReturn "" default w) =
          [(other.party, e₀'), (last.party, e₁')] ∧
        e₀'.endpoint = some own ∧ e₁'.endpoint = some out ∧ e₁.SameButIds e₁' := by
  intro out own first other last d chain w
  have hts : ∀ t ∈ minting.transformers, t.OnMessage ∧ t.Oblivious := by
    intro t ht
    obtain rfl := List.mem_singleton.mp ht
    refine ⟨fun e n => ⟨_, rfl⟩, fun e e' n n' h => ⟨?_, rfl⟩⟩
    simp only [h.message]
  obtain ⟨-, htwo⟩ := handed_isolated d rfl (fun t ht => (hts t ht).1) "" default w
  have htwo := htwo fun t ht => (hts t ht).2
  have hview : glance (w.handedUntil (d.onReturn "" default w)) =
      [(first.party, [7, 1], some out, 1), (last.party, [7, 1], some out, 3)] := by
    decide +kernel
  have hview' : glance (w.handedUntil ({ d with chain }.onReturn "" default w)) =
      [(other.party, [7, 1], some own, 1), (last.party, [7, 1], some out, 3)] := by
    decide +kernel
  obtain ⟨e₀, e₁, hs, hp₀, hn₀, hi₀, hp₁, hn₁, hi₁⟩ := glance_eq_pair hview
  obtain ⟨e₀', e₁', hs', -, -, -, -, hn₁', -⟩ := glance_eq_pair hview'
  have h₀ : (w.handedUntil (d.onReturn "" default w))[0]? = some (first.party, e₀) := by
    rw [hs]
    rfl
  have h₁ : (w.handedUntil (d.onReturn "" default w))[1]? = some (last.party, e₁) := by
    rw [hs]
    rfl
  have h₀' : (w.handedUntil ({ d with chain }.onReturn "" default w))[0]? =
      some (other.party, e₀') := by
    rw [hs']
    rfl
  have h₁' : (w.handedUntil ({ d with chain }.onReturn "" default w))[1]? =
      some (last.party, e₁') := by
    rw [hs']
    rfl
  -- The endpoint of the other chain's first event is the one that its processor names.
  obtain ⟨hone, -⟩ :=
    handed_isolated { d with chain } rfl (fun t ht => (hts t ht).1) "" default w
  obtain ⟨p, _, endpoint, w₁, _, _, hp, -, -, -, hnamed, -, -, hown, -⟩ :=
    hone 0 other.party e₀' h₀'
  obtain rfl : other = p := Option.some.inj hp
  obtain rfl : some own = endpoint := Except.ok.inj hnamed
  refine ⟨rfl, hts, e₀, e₁, e₀', e₁', hs, hp₀, hp₁, ?_, ?_, hs', hown, hn₁', ?_⟩
  · exact (htwo 0 first.party e₀ h₀ d.chain).1 1 last.party e₁ h₁ (hn₁.trans hn₀.symm)
  · intro he
    rw [he, hi₁] at hi₀
    cases hi₀
  · exact (htwo 1 last.party e₁ h₁ chain).1 1 last.party e₁' h₁' (hn₁'.trans hn₁.symm)

end AmqpReturns
