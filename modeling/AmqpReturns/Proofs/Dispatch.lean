import AmqpReturns.Proofs.Schedule

/-!
# Proofs — a dispatch follows its schedule

A dispatch is the course of its schedule (`dispatch_course`), and each slot that is made leaves
one call on record (`make_called`).  So the calls that a returned message brings about are those
of the whole schedule, when none fails, and otherwise of the schedule up to the first that does
(`onReturn_follows_schedule`).
-/

namespace AmqpReturns

variable {σ : Type}

/-! ### A dispatch is the course of its schedule -/

section

variable {d : Dispatching σ} {c : Connector σ} {r : Returned}

theorem transforms_course (ts : List (Transformer σ)) (w : World σ) (s : Held) :
    ∃ cs, Course d c r w s (ts.map .transform) cs
      ((applyTransformers ts s.event w).2.1.map
        fun _ => { s with event := (applyTransformers ts s.event w).1 })
      (applyTransformers ts s.event w).2.2 := by
  induction ts generalizing w s with
  | nil => exact ⟨[], .done w s⟩
  | cons t ts ih =>
      rcases ht : t.run s.event w.outside with ⟨e, reply⟩
      rcases hr : reply.result with h | u
      · have hm : (Slot.transform t).make d c r s w =
            (.error h, w.writeCall (.transform t.name) reply) := by
          simp only [Slot.make, Slot.call, ht, hr, Except.map]
        refine ⟨[.transform t.name], ?_⟩
        simp only [applyTransformers, ht, hr, Except.map]
        exact .halt _ hm
      · have hm : (Slot.transform t).make d c r s w =
            (.ok { s with event := e }, w.writeCall (.transform t.name) reply) := by
          simp only [Slot.make, Slot.call, ht, hr, Except.map]
        obtain ⟨cs, h⟩ := ih (w.writeCall (.transform t.name) reply) { s with event := e }
        refine ⟨.transform t.name :: cs, ?_⟩
        simp only [applyTransformers, ht, hr]
        exact .next hm h

/-- What a processor's turn comes to: asking for the endpoint, the transformers, handing over. -/
theorem deliver_course (p : Processor σ) (w : World σ) (s : Held) :
    ∃ cs out w', Course d c r w s (c.turn p) cs out w' ∧
      d.deliver c s.message p w = (out.map fun _ => (), w') ∧
      ∀ s', out = .ok s' → s'.message = s.message := by
  rcases he : p.endpoint w with ⟨h | endpoint, w₁⟩
  · -- No endpoint, no event: the rest of the turn is left out.
    refine ⟨_, .error h, w₁, .halt (c.transformers.map .transform ++ [.process p]) ?_, ?_, nofun⟩
    · exact endpoint_make_error he s
    · exact Act.bind_error he
  · have hm : (Slot.endpoint p).make d c r s w =
        (.ok { s with event := d.eventFor c s.message endpoint w₁ }, w₁.draw.2.draw.2) :=
      endpoint_make_ok he s
    obtain ⟨cs, hts⟩ := transforms_course (d := d) (c := c) (r := r) c.transformers
      w₁.draw.2.draw.2 { s with event := d.eventFor c s.message endpoint w₁ }
    have hd : d.deliver c s.message p w =
        (do let e ← c.transform (d.eventFor c s.message endpoint w₁)
            let _ ← p.process e : Act σ Unit) w₁.draw.2.draw.2 := Act.bind_ok he
    -- The transformers run on the new event, and the processor only if all of them succeed.
    rcases ht : applyTransformers c.transformers (d.eventFor c s.message endpoint w₁)
      w₁.draw.2.draw.2 with ⟨e, h | u, w₂⟩
    · rw [ht] at hts
      have hc : c.transform (d.eventFor c s.message endpoint w₁) w₁.draw.2.draw.2 =
          (.error h, w₂) := by simp only [Connector.transform, ht, Except.map]
      refine ⟨_, .error h, w₂, .next hm (hts.append_error [.process p]), ?_, nofun⟩
      rw [hd, Act.bind_error hc]
      rfl
    · rw [ht] at hts
      have hc : c.transform (d.eventFor c s.message endpoint w₁) w₁.draw.2.draw.2 =
          (.ok e, w₂) := by simp only [Connector.transform, ht, Except.map]
      have hx := process_make (d := d) (c := c) (r := r) p w₂ { s with event := e }
      rcases hp : p.process e w₂ with ⟨h | e', w₃⟩
      · simp only [hp, Except.map] at hx
        refine ⟨_, .error h, w₃, .next hm (hts.append (.halt [] hx)), ?_, nofun⟩
        rw [hd, Act.bind_ok hc, Act.bind_error hp]
        rfl
      · simp only [hp, Except.map] at hx
        refine ⟨_, .ok { s with event := e }, w₃, .next hm (hts.append (.next hx (.done _ _))),
          ?_, fun s' hs => ?_⟩
        · rw [hd, Act.bind_ok hc, Act.bind_ok hp]
          rfl
        · cases hs
          rfl

theorem deliveries_course (ps : List (Processor σ)) (w : World σ) (s : Held) :
    ∃ cs out w', Course d c r w s (ps.flatMap c.turn) cs out w' ∧
      ps.forM (d.deliver c s.message) w = (out.map fun _ => (), w') := by
  induction ps generalizing w s with
  | nil => exact ⟨[], .ok s, w, .done w s, rfl⟩
  | cons p ps ih =>
      obtain ⟨cs, out, w₁, hp, hd, hm⟩ := deliver_course (d := d) (c := c) (r := r) p w s
      rw [List.flatMap_cons]
      rcases out with h | s₁
      · -- A turn that fails is the last.
        exact ⟨cs, .error h, w₁, hp.append_error _, Act.bind_error hd⟩
      · obtain ⟨ds, out, w', hps, hds⟩ := ih w₁ s₁
        have hf : (p :: ps).forM (d.deliver c s.message) w =
            ps.forM (d.deliver c s.message) w₁ := Act.bind_ok hd
        rw [hm s₁ rfl] at hds
        exact ⟨cs ++ ds, out, w', hp.append hps, hf.trans hds⟩

/-- **A dispatch is the course of its schedule**, and, where that does not fail, a log. -/
theorem dispatch_course (hc : d.connector = some c) (w : World σ) (s : Held) :
    ∃ cs out w', Course d c r w s (d.schedule c) cs out w' ∧
      d.dispatch r w = (out.map fun _ => (),
        match out with
        | .ok _ => w'.log .debug "returned message dispatched"
            [("processors", .number d.chain.processors.length)]
        | .error _ => w') := by
  have hx := create_make (d := d) (c := c) (r := r) w s
  simp only [Dispatching.dispatch, hc]
  rcases hm : c.create r w with ⟨h | m, w₁⟩
  · rw [hm] at hx
    exact ⟨_, .error h, w₁, .halt _ hx, Act.bind_error hm⟩
  · rw [hm] at hx
    obtain ⟨cs, out, w', hps, hds⟩ := deliveries_course (d := d) (c := c) (r := r)
      d.chain.processors w₁ { s with message := m }
    refine ⟨_, out, w', .next hx hps, ?_⟩
    rw [Act.bind_ok hm]
    rcases out with h | s'
    · exact Act.bind_error hds
    · exact Act.bind_ok hds

end

/-! ### The calls on record -/

/-- The call an entry tells of, if it belongs to a dispatch.  Calls on outbounds belong to the
processor that makes them. -/
def Entry.dispatched? : Entry → Option Call
  | .call (.send _ _ _ _) => none
  | .call c => some c
  | _ => none

namespace World

/-- The calls of dispatches on record between `w` and `w'` are `cs`, in that order. -/
def Called (cs : List Call) (w w' : World σ) : Prop :=
  ∃ es, w'.record = w.record ++ es ∧ es.filterMap Entry.dispatched? = cs

theorem Called.of_eq {w w' : World σ} (h : w'.record = w.record) : Called [] w w' :=
  Adds.of_eq h

theorem Called.trans {cs ds : List Call} {w w₁ w' : World σ} (h₁ : Called cs w w₁)
    (h₂ : Called ds w₁ w') : Called (cs ++ ds) w w' :=
  Adds.trans h₁ h₂

/-- Entries that tell of no call of a dispatch add none. -/
theorem Wrote.called {P : Entry → Prop} {w w' : World σ} (h : Wrote P w w')
    (hP : ∀ e, P e → e.dispatched? = none) : Called [] w w' :=
  h.adds hP

theorem called_writeCall {α : Type} (w : World σ) {c : Call} (r : Reply σ α)
    (hc : (Entry.call c).dispatched? = some c) : Called [c] w (w.writeCall c r) := by
  refine ⟨.call c :: r.notes.map .note, rfl, ?_⟩
  rw [List.filterMap_cons_some hc]
  refine congrArg _ (List.filterMap_eq_nil_iff.mpr fun e he => ?_)
  obtain ⟨n, -, rfl⟩ := List.mem_map.mp he
  rfl

end World

open World

theorem Entry.IsErrand.dispatched_eq {e : Entry} (h : e.IsErrand) : e.dispatched? = none := by
  cases e with
  | log l => rfl
  | note n => rfl
  | span s => exact h.elim
  | call c =>
      cases c with
      | send name e mandatory listener => rfl
      | create custom encoding r => exact h.elim
      | endpoint p => exact h.elim
      | transform name => exact h.elim
      | process p e => exact h.elim

theorem Errands.called {w w' : World σ} (h : Errands w w') : Called [] w w' :=
  (h.lift (fun _ => .of_eq rfl) (fun h₁ h₂ => h₁.trans h₂) fun h => h.wrote).called
    fun _ he => he.dispatched_eq

section

variable {d : Dispatching σ} {c : Connector σ} {r : Returned}

/-- A call on a slot's party belongs to the dispatch. -/
theorem dispatched_call (x : Slot σ) (s : Held) :
    (Entry.call (x.call c r s)).dispatched? = some (x.call c r s) := by
  cases x <;> rfl

/-- **One slot, one call**, whatever comes of it. -/
theorem make_called (x : Slot σ) (s : Held) (w : World σ) :
    Called [x.call c r s] w (x.make d c r s w).2 := by
  obtain ⟨α, reply, he⟩ := make_errands (d := d) (c := c) (r := r) x s w
  exact (called_writeCall w reply (dispatched_call x s)).trans he.called

theorem Course.called {w w' : World σ} {s : Held} {xs : List (Slot σ)} {cs : List Call}
    {out : Except Halt Held} (h : Course d c r w s xs cs out w') : Called cs w w' := by
  induction h with
  | done => exact .of_eq rfl
  | @next w _ _ s _ x _ _ _ h _ ih =>
      have hx := make_called (d := d) (c := c) (r := r) x s w
      rw [h] at hx
      exact hx.trans ih
  | @halt w _ s x _ _ h =>
      have hx := make_called (d := d) (c := c) (r := r) x s w
      rw [h] at hx
      exact hx

end

/-! ### A returned message -/

/-- A log of a header that could not be read. -/
def Entry.IsFault (e : Entry) : Prop :=
  ∃ text, e = .log ⟨.error, "Error decoding header value " ++ text, []⟩

namespace World

/-- The world a dispatch of `r` starts in, where the trace context has been read. -/
def extracted (w : World σ) (r : Returned) : World σ :=
  (w.extract r.properties.headerTable).2

theorem extractField_eq (w : World σ) (headers : Wire.Headers) (field : String) :
    ∃ es, (w.extractField headers field).2 = { w with record := w.record ++ es } ∧
      ∀ e ∈ es, e.IsFault := by
  have unread : ∃ es : List Entry, w = { w with record := w.record ++ es } ∧
      ∀ e ∈ es, e.IsFault :=
    ⟨[], by rw [List.append_nil], fun _ he => absurd he List.not_mem_nil⟩
  unfold extractField
  split
  · exact unread
  · exact unread
  · exact ⟨[_], rfl, fun e he => ⟨_, List.mem_singleton.mp he⟩⟩

theorem extractFields_eq (headers : Wire.Headers) (fields : List String) (w : World σ) :
    ∃ es, (extractFields headers fields w).2 = { w with record := w.record ++ es } ∧
      ∀ e ∈ es, e.IsFault := by
  induction fields generalizing w with
  | nil => exact ⟨[], by rw [List.append_nil]; rfl, fun _ he => absurd he List.not_mem_nil⟩
  | cons field fields ih =>
      obtain ⟨es, hw, hes⟩ := extractField_eq w headers field
      obtain ⟨fs, hw', hfs⟩ := ih (w.extractField headers field).2
      refine ⟨es ++ fs, ?_, fun e he => ?_⟩
      · rw [← List.append_assoc]
        rw [hw] at hw'
        simp only [extractFields, hw, hw']
      · rcases List.mem_append.mp he with he | he
        · exact hes e he
        · exact hfs e he

/-- Reading a trace context changes nothing but the record, where it tells of the headers it
could not read. -/
theorem extracted_eq (w : World σ) (r : Returned) :
    ∃ es, w.extracted r = { w with record := w.record ++ es } ∧ ∀ e ∈ es, e.IsFault :=
  extractFields_eq r.properties.headerTable w.propagator.fields w

theorem outside_extracted (w : World σ) (r : Returned) : (w.extracted r).outside = w.outside := by
  obtain ⟨es, hw, -⟩ := extracted_eq w r
  rw [hw]

theorem extracted_called (w : World σ) (r : Returned) : Called [] w (w.extracted r) := by
  obtain ⟨es, hw, hes⟩ := extracted_eq w r
  have h : Wrote Entry.IsFault w (w.extracted r) := ⟨es, by rw [hw], hes⟩
  exact h.called fun e ⟨_, he⟩ => by rw [he]; rfl

end World

/-- What a listener does with a returned message, after the dispatch. -/
theorem Dispatching.onReturn_eq (d : Dispatching σ) (reason : String) (r : Returned)
    (w : World σ) : d.onReturn reason r w =
      match d.dispatch r (w.extracted r) with
      | (.ok (), w₁) =>
        w₁.write (.span (span (w.extract r.properties.headerTable).1 (.ok ())))
      | (.error h, w₁) =>
        (w₁.log .error
          (reason ++ ", impossible to dispatch the following message to the configured " ++
            "processor(s): " ++ r.summary)
          [("error", .text h.toFailure.message)]).write
            (.span (span (w.extract r.properties.headerTable).1 (.error h.toFailure))) :=
  rfl

/-- The calls that a returned message brings about are those of the course of the schedule, and
beyond it nothing is done but to write things down. -/
theorem Dispatching.onReturn_course (d : Dispatching σ) {c : Connector σ}
    (hc : d.connector = some c) (reason : String) (r : Returned) (w : World σ) (s : Held) :
    ∃ calls out w', Course d c r (w.extracted r) s (d.schedule c) calls out w' ∧
      Called calls w (d.onReturn reason r w) ∧
      ∃ es, d.onReturn reason r w = { w' with record := es } := by
  obtain ⟨calls, out, w', hcourse, hd⟩ := dispatch_course (r := r) hc (w.extracted r) s
  refine ⟨calls, out, w', hcourse, ?_⟩
  have hw : Called calls w w' := (extracted_called w r).trans hcourse.called
  rw [onReturn_eq, hd, ← List.append_nil calls]
  -- Whichever way the dispatch ends, what is written after it is no call.
  rcases out with h | s'
  · exact ⟨hw.trans ⟨[_, _], List.append_assoc .., rfl⟩, _, rfl⟩
  · exact ⟨hw.trans ⟨[_, _], List.append_assoc .., rfl⟩, _, rfl⟩

/-- **A dispatch follows its schedule up to the first failure.**  The calls that a returned
message brings about are those of the whole schedule, when none fails, or else those of a
beginning of the schedule, none of which fails, and of the slot after it, which does.  Each is
answered by the collaborator itself, in the state outside that the calls before it left, and
beyond these calls nothing is done but to write things down. -/
theorem onReturn_follows_schedule (d : Dispatching σ) {c : Connector σ}
    (hc : d.connector = some c) (reason : String) (r : Returned) (w : World σ) (s : Held) :
    ∃ calls w', Called calls w (d.onReturn reason r w) ∧
      (∃ es, d.onReturn reason r w = { w' with record := es }) ∧
      ((∃ s', Course d c r (w.extracted r) s (d.schedule c) calls (.ok s') w') ∨
        ∃ done x rest before s' w₁ h, d.schedule c = done ++ x :: rest ∧
          Course d c r (w.extracted r) s done before (.ok s') w₁ ∧
          x.make d c r s' w₁ = (.error h, w') ∧ calls = before ++ [x.call c r s']) := by
  obtain ⟨calls, out, w', hcourse, hcalled, hw⟩ := d.onReturn_course hc reason r w s
  refine ⟨calls, w', hcalled, hw, ?_⟩
  rcases out with h | s'
  · obtain ⟨done, x, rest, before, s₁, w₁, hs, hdone, hx, hcalls⟩ := hcourse.split
    exact .inr ⟨done, x, rest, before, s₁, w₁, h, hs, hdone, hx, hcalls⟩
  · exact .inl ⟨s', hcourse⟩

/-- A connector whose factory and transformer keep a diary. -/
def diarist : Connector (List String) :=
  { name := "amqp", context := ⟨"utf-8"⟩
    factory := .custom fun _ encoding diary => ⟨.ok default, diary ++ ["create " ++ encoding], []⟩
    transformers := [⟨"pass", fun e diary => (e, ⟨.ok (), diary ++ ["transform"], []⟩)⟩] }

/-- A processor that keeps a diary, and breaks down when somebody has been asked for an endpoint
before it. -/
def worn : Processor (List String) :=
  .service
    { name := "worn"
      process := fun e diary => ⟨.ok e, diary ++ ["process"], []⟩
      endpoint := some fun diary =>
        ⟨if "endpoint" ∈ diary then .error (.panic .other) else .ok none,
          diary ++ ["endpoint"], []⟩ }

/-- The second of three processors breaks down when it is asked for its endpoint: it is not handed
an event, the third is not asked, and the diary holds the calls up to there. -/
theorem onReturn_follows_schedule_worn :
    let d : Dispatching (List String) :=
      { chain := ⟨0, [worn, worn, worn]⟩, connector := some diarist }
    let w : World (List String) := { outside := [] }
    let s : Held := ⟨default, default⟩
    d.connector = some diarist ∧
    (∃ calls w', Called calls w (d.onReturn "" default w) ∧
      (∃ es, d.onReturn "" default w = { w' with record := es }) ∧
      ((∃ s', Course d diarist default (w.extracted default) s (d.schedule diarist) calls
          (.ok s') w') ∨
        ∃ done x rest before s' w₁ h, d.schedule diarist = done ++ x :: rest ∧
          Course d diarist default (w.extracted default) s done before (.ok s') w₁ ∧
          x.make d diarist default s' w₁ = (.error h, w') ∧
          calls = before ++ [x.call diarist default s'])) ∧
    (∃ calls, calls.length = 5 ∧ Called calls w (d.onReturn "" default w)) ∧
    (d.onReturn "" default w).outside =
      ["create utf-8", "endpoint", "transform", "process", "endpoint"] := by
  refine ⟨rfl, onReturn_follows_schedule _ rfl _ _ _ _, ⟨_, ?_, ⟨_, rfl, rfl⟩⟩, ?_⟩
  · rfl
  · decide +kernel

end AmqpReturns
