import AmqpReturns.Proofs.Errands

/-!
# Proofs — the schedule of a dispatch

The calls a dispatch has to make are laid down before it starts (`Dispatching.schedule`): the
message is made of the return, and then each processor in turn is asked for its endpoint, its
event goes through the transformers, and it is handed the event.  What comes of such a call is
the collaborator's own affair (`Factory.reply`, `Processor.naming`, and the functions that make
up transformers and services).  `Slot.make` is one call with what its reply does to what the
dispatch has in hand, and `Course` runs calls in order up to the first that fails.

* `create_make`, `endpoint_make_ok`, `process_make`: the bus makes these very calls.
* `Course.split`: a course that fails does so at one slot, and those before it did not.
* `Course.unique`: a course is settled by where it starts.
* `Course.lift`: what holds of calls and of errands holds of a course.
-/

namespace AmqpReturns

variable {σ : Type}

/-! ### The schedule -/

/-- A call in the schedule of a dispatch. -/
inductive Slot (σ : Type) where
  | create
  | endpoint (p : Processor σ)
  | transform (t : Transformer σ)
  | process (p : Processor σ)

/-- The calls for one processor of the chain. -/
def Connector.turn (c : Connector σ) (p : Processor σ) : List (Slot σ) :=
  .endpoint p :: (c.transformers.map .transform ++ [.process p])

/-- All the calls of a dispatch, in order. -/
def Dispatching.schedule (d : Dispatching σ) (c : Connector σ) : List (Slot σ) :=
  .create :: d.chain.processors.flatMap c.turn

/-- What a dispatch has in hand from one call to the next: the message made of the return, and
the event of the processor whose turn it is.  Before the first call both are of no account. -/
structure Held where
  message : Message
  event : Event

/-- Whether the application made the factory. -/
def Factory.isCustom : Factory σ → Bool
  | .standard => false
  | .custom _ => true

/-- What a factory itself replies when a message of a return is asked for.  The standard one
recovers the message from the return. -/
def Factory.reply (f : Factory σ) (encoding : String) (r : Returned) (outside : σ) :
    Reply σ Message :=
  match f with
  | .standard => ⟨.ok (r.recover encoding), outside, []⟩
  | .custom create => create r encoding outside

/-- What a processor itself replies when it is asked for its endpoint.  Only services may have a
say in it, and not all of them do. -/
def Processor.naming (p : Processor σ) (outside : σ) : Reply σ (Option Endpoint) :=
  match p with
  | .service s =>
    match s.endpoint with
    | some name => name outside
    | none => ⟨.ok none, outside, []⟩
  | .rejecter _ | .handler _ _ => ⟨.ok none, outside, []⟩

/-- The event of a processor that named an endpoint or none. -/
def Dispatching.eventFor (d : Dispatching σ) (c : Connector σ) (m : Message)
    (endpoint : Option Endpoint) (w : World σ) : Event :=
  { id := w.draw.2.draw.1, message := m, endpoint := endpoint.or d.endpoint
    session := { id := w.draw.1, flow := d.flow, context := c.context } }

section

variable (d : Dispatching σ) (c : Connector σ) (r : Returned)

/-- The call of a slot, as it is written down. -/
def Slot.call (s : Held) : Slot σ → Call
  | .create => .create c.factory.isCustom c.context.defaultEncoding r
  | .endpoint p => .endpoint p.party
  | .transform t => .transform t.name
  | .process p => .process p.party s.event

/-- Makes the call of a slot: it is written down with the reply of the collaborator itself.  A
message, once made, is kept; an event is new with each processor that was asked for its endpoint.
The processors of the bus, once called, reject or send on. -/
def Slot.make (s : Held) (x : Slot σ) : Act σ Held := fun w =>
  match x with
  | .create =>
    let reply := c.factory.reply c.context.defaultEncoding r w.outside
    (reply.result.map fun m => { s with message := m }, w.writeCall (x.call c r s) reply)
  | .endpoint p =>
    let reply := p.naming w.outside
    let w := w.writeCall (x.call c r s) reply
    match reply.result with
    | .error h => (.error h, w)
    | .ok named =>
      (.ok { s with event := d.eventFor c s.message named w }, w.draw.2.draw.2)
  | .transform t =>
    let (e, reply) := t.run s.event w.outside
    (reply.result.map fun _ => { s with event := e }, w.writeCall (x.call c r s) reply)
  | .process (.service service) =>
    let reply := service.process s.event w.outside
    (reply.result.map fun _ => s, w.writeCall (x.call c r s) reply)
  | .process (.rejecter requeue) =>
    let (result, w) := reject s.event requeue (w.write (.call (x.call c r s)))
    (result.map fun _ => s, w)
  | .process (.handler h next) =>
    let (result, w) := (Outbound.handler h next).send s.event {} (w.write (.call (x.call c r s)))
    (result.map fun _ => s, w)

/-- Slots are made in order, each in the world and with what is in hand after the one before, up
to the first whose call fails. -/
inductive Course : World σ → Held → List (Slot σ) → List Call → Except Halt Held → World σ → Prop
    where
  | done (w : World σ) (s : Held) : Course w s [] [] (.ok s) w
  | next {w w₁ w' : World σ} {s s₁ : Held} {x : Slot σ} {xs : List (Slot σ)} {cs : List Call}
      {out : Except Halt Held} (h : x.make d c r s w = (.ok s₁, w₁))
      (t : Course w₁ s₁ xs cs out w') : Course w s (x :: xs) (x.call c r s :: cs) out w'
  | halt {w w' : World σ} {s : Held} {x : Slot σ} {e : Halt} (xs : List (Slot σ))
      (h : x.make d c r s w = (.error e, w')) :
      Course w s (x :: xs) [x.call c r s] (.error e) w'

end

namespace Course

variable {d : Dispatching σ} {c : Connector σ} {r : Returned} {w w₁ w' : World σ} {s s₁ : Held}
  {xs ys : List (Slot σ)} {cs ds : List Call} {out : Except Halt Held}

theorem append (h₁ : Course d c r w s xs cs (.ok s₁) w₁)
    (h₂ : Course d c r w₁ s₁ ys ds out w') : Course d c r w s (xs ++ ys) (cs ++ ds) out w' := by
  generalize ho : (.ok s₁ : Except Halt Held) = o at h₁
  induction h₁ with
  | done => cases ho; exact h₂
  | next h _ ih => exact .next h (ih h₂ ho)
  | halt => cases ho

theorem append_error {e : Halt} (h : Course d c r w s xs cs (.error e) w') (ys : List (Slot σ)) :
    Course d c r w s (xs ++ ys) cs (.error e) w' := by
  generalize ho : (.error e : Except Halt Held) = o at h
  induction h with
  | done => cases ho
  | next h _ ih => exact .next h (ih ho)
  | halt xs h => exact .halt _ h

/-- **The first failure.**  A course that fails makes some slots, then one whose call fails, and
leaves the others. -/
theorem split {e : Halt} (h : Course d c r w s xs cs (.error e) w') :
    ∃ done x rest calls s₁ w₁, xs = done ++ x :: rest ∧
      Course d c r w s done calls (.ok s₁) w₁ ∧ x.make d c r s₁ w₁ = (.error e, w') ∧
      cs = calls ++ [x.call c r s₁] := by
  generalize ho : (.error e : Except Halt Held) = o at h
  induction h with
  | done => cases ho
  | @next w _ _ s _ x xs _ _ h _ ih =>
      obtain ⟨done, y, rest, calls, s₁, w₁, rfl, hd, hy, rfl⟩ := ih ho
      exact ⟨x :: done, y, rest, _, s₁, w₁, rfl, .next h hd, hy, rfl⟩
  | @halt w _ s x _ xs h =>
      cases ho
      exact ⟨[], x, xs, [], s, w, rfl, .done w s, h, rfl⟩

/-- What is made of slots is settled by the world and what is in hand. -/
theorem unique {w₂ : World σ} {ds : List Call} {out' : Except Halt Held}
    (h₁ : Course d c r w s xs cs out w₁) (h₂ : Course d c r w s xs ds out' w₂) :
    cs = ds ∧ out = out' ∧ w₁ = w₂ := by
  induction h₁ generalizing ds with
  | done => cases h₂; exact ⟨rfl, rfl, rfl⟩
  | next h _ ih =>
      cases h₂ with
      | next h' t' =>
          cases h.symm.trans h'
          obtain ⟨rfl, rfl, rfl⟩ := ih t'
          exact ⟨rfl, rfl, rfl⟩
      | halt _ h' => cases h.symm.trans h'
  | halt _ h =>
      cases h₂ with
      | next h' _ => cases h.symm.trans h'
      | halt _ h' => cases h.symm.trans h'; exact ⟨rfl, rfl, rfl⟩

end Course

/-! ### What a slot does to the world -/

section

variable {d : Dispatching σ} {c : Connector σ} {r : Returned}

/-- **A connector makes a message** by the reply of its factory. -/
theorem create_eq (w : World σ) :
    c.create r w =
      ((c.factory.reply c.context.defaultEncoding r w.outside).result,
        w.writeCall (.create c.factory.isCustom c.context.defaultEncoding r)
          (c.factory.reply c.context.defaultEncoding r w.outside)) := by
  cases hf : c.factory with
  | standard => simp only [Connector.create, hf, Act.call_apply, Factory.isCustom, Factory.reply]
  | custom f => simp only [Connector.create, hf, Act.call_apply, Factory.isCustom, Factory.reply]

/-- **A processor names its endpoint** by its own reply. -/
theorem endpoint_eq (p : Processor σ) (w : World σ) :
    p.endpoint w =
      ((p.naming w.outside).result,
        w.writeCall (.endpoint p.party) (p.naming w.outside)) := by
  cases p with
  | service s =>
      cases hs : s.endpoint with
      | none =>
          simp only [Processor.endpoint, hs, Option.getD_none, Act.call_apply, Processor.naming]
      | some name =>
          simp only [Processor.endpoint, hs, Option.getD_some, Act.call_apply, Processor.naming]
  | rejecter requeue => rfl
  | handler h next => rfl

theorem create_make (w : World σ) (s : Held) :
    Slot.make d c r s .create w =
      ((c.create r w).1.map fun m => { s with message := m }, (c.create r w).2) := by
  rw [create_eq]
  rfl

section

variable {p : Processor σ} {w w₁ : World σ}

theorem endpoint_make_error {h : Halt} (hp : p.endpoint w = (.error h, w₁)) (s : Held) :
    Slot.make d c r s (.endpoint p) w = (.error h, w₁) := by
  rw [endpoint_eq] at hp
  obtain ⟨hr, rfl⟩ := Prod.mk.inj hp
  simp only [Slot.make, hr]
  rfl

theorem endpoint_make_ok {endpoint : Option Endpoint} (hp : p.endpoint w = (.ok endpoint, w₁))
    (s : Held) :
    Slot.make d c r s (.endpoint p) w =
      (.ok { s with event := d.eventFor c s.message endpoint w₁ }, w₁.draw.2.draw.2) := by
  rw [endpoint_eq] at hp
  obtain ⟨hr, rfl⟩ := Prod.mk.inj hp
  simp only [Slot.make, hr]
  rfl

end

/-- **Handing over** is calling the processor, which does with the event what is its own to do. -/
theorem process_make (p : Processor σ) (w : World σ) (s : Held) :
    Slot.make d c r s (.process p) w =
      ((p.process s.event w).1.map fun _ => s, (p.process s.event w).2) := by
  cases p with
  | service service => rfl
  | rejecter requeue =>
      rw [process_rejecter]
      simp only [Slot.make, Slot.call, Processor.party]
      rcases reject s.event requeue (w.write (.call (.process (.rejecter requeue) s.event)))
        with ⟨h | u, w₁⟩
      · rfl
      · rfl
  | handler h next =>
      rw [process_handler]
      rfl

/-- A message that is made is the one the factory replied with. -/
theorem create_made {w w' : World σ} {s s' : Held}
    (h : Slot.make d c r s .create w = (.ok s', w')) :
    (c.factory.reply c.context.defaultEncoding r w.outside).result = .ok s'.message ∧
      s'.event = s.event := by
  have hmap : (c.factory.reply c.context.defaultEncoding r w.outside).result.map
      (fun m => { s with message := m }) = .ok s' := congrArg Prod.fst h
  cases hr : (c.factory.reply c.context.defaultEncoding r w.outside).result with
  | error f =>
      rw [hr] at hmap
      cases hmap
  | ok m =>
      rw [hr] at hmap
      cases hmap
      exact ⟨rfl, rfl⟩

/-- An event that is passed is as the transformer left it. -/
theorem transform_made {t : Transformer σ} {w w' : World σ} {s s' : Held}
    (h : Slot.make d c r s (.transform t) w = (.ok s', w')) :
    s' = { s with event := (t.run s.event w.outside).1 } := by
  have hmap : (t.run s.event w.outside).2.result.map
      (fun _ => { s with event := (t.run s.event w.outside).1 }) = .ok s' := congrArg Prod.fst h
  cases hr : (t.run s.event w.outside).2.result with
  | error f =>
      rw [hr] at hmap
      cases hmap
  | ok u =>
      rw [hr] at hmap
      cases hmap
      rfl

/-- A processor that names an endpoint, or none, has an event made for it. -/
theorem endpoint_made {p : Processor σ} {w w' : World σ} {s s' : Held}
    (h : Slot.make d c r s (.endpoint p) w = (.ok s', w')) :
    ∃ endpoint w₁, p.endpoint w = (.ok endpoint, w₁) ∧
      s' = { s with event := d.eventFor c s.message endpoint w₁ } ∧ w' = w₁.draw.2.draw.2 := by
  rcases hp : p.endpoint w with ⟨f | endpoint, w₁⟩
  · rw [endpoint_make_error hp] at h
    cases h
  · rw [endpoint_make_ok hp] at h
    cases h
    exact ⟨endpoint, w₁, rfl, rfl, rfl⟩

/-- Handing over keeps what the dispatch has in hand. -/
theorem process_made {p : Processor σ} {w w' : World σ} {s s' : Held}
    (h : Slot.make d c r s (.process p) w = (.ok s', w')) : s' = s := by
  rw [process_make] at h
  rcases hp : (p.process s.event w).1 with f | e
  · rw [hp] at h
    cases h
  · rw [hp] at h
    cases h
    rfl

/-- A call other than that on a processor touches the state outside, the record and the identities
only. -/
theorem make_frame {x : Slot σ} (hx : ∀ p, x ≠ .process p) (s : Held) (w : World σ) :
    ∃ outside es n, (x.make d c r s w).2 =
      { w with
        outside
        record := w.record ++ es
        drawn := n } := by
  cases x with
  | create => exact ⟨_, _, _, rfl⟩
  | endpoint p =>
      simp only [Slot.make]
      cases (p.naming w.outside).result with
      | error h => exact ⟨_, _, _, rfl⟩
      | ok endpoint => exact ⟨_, _, _, rfl⟩
  | transform t => exact ⟨_, _, _, rfl⟩
  | process p => exact absurd rfl (hx p)

/-- A slot's call is written down, and errands follow. -/
theorem make_errands (x : Slot σ) (s : Held) (w : World σ) : ∃ (α : Type) (reply : Reply σ α),
    Errands (w.writeCall (x.call c r s) reply) (x.make d c r s w).2 := by
  cases x with
  | create => exact ⟨Message, c.factory.reply c.context.defaultEncoding r w.outside, .refl⟩
  | endpoint p =>
      refine ⟨Option Endpoint, p.naming w.outside, ?_⟩
      simp only [Slot.make]
      cases (p.naming w.outside).result with
      | error h => exact .refl
      | ok endpoint => exact .head (.draw _) (.single (.draw _))
  | transform t => exact ⟨Unit, (t.run s.event w.outside).2, .refl⟩
  | process p =>
      rw [process_make]
      exact errands_process p s.event w

/-- What holds of nothing done, of a call written down, of each errand and of one thing after
another holds of a course. -/
theorem Course.lift {R : World σ → World σ → Prop} (refl : ∀ w, R w w)
    (trans : ∀ {w w₁ w'}, R w w₁ → R w₁ w' → R w w')
    (call : ∀ {α : Type} (w : World σ) (x : Slot σ) (s : Held) (reply : Reply σ α),
      R w (w.writeCall (x.call c r s) reply))
    (step : ∀ {w w'}, Errand w w' → R w w') {w w' : World σ} {s : Held} {xs : List (Slot σ)}
    {cs : List Call} {out : Except Halt Held} (h : Course d c r w s xs cs out w') : R w w' := by
  -- A slot is its call and errands, also when it fails.
  have make {x : Slot σ} {s : Held} {w w₁ : World σ} {o : Except Halt Held}
      (h : x.make d c r s w = (o, w₁)) : R w w₁ := by
    obtain ⟨α, reply, he⟩ := make_errands (d := d) (c := c) (r := r) x s w
    rw [h] at he
    exact trans (call w x s reply) (he.lift refl trans step)
  induction h with
  | done w => exact refl w
  | next h _ ih => exact trans (make h) ih
  | halt _ h => exact make h

end

end AmqpReturns
