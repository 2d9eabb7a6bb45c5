import AmqpReturns.Proofs.ByteOrder
import AmqpReturns.Proofs.Readiness

/-!
# Proofs — the trace of a returned message

A trace context is written under lower-case names and read under the names as they are.  So what
is set under a name is found again under its lower-case form (`trace?_setTrace`), and of several
values whose names have one lower-case form the last (`lastTrace`).

In a published message the outbound properties lie over the trace context, so a property hides
what was injected under its name (`Message.traceOf`, `extract_published`).  When the message comes
back as it was, a dispatching listener writes one span, whatever comes of the dispatch
(`onReturn_span`), and the span's parent is what is found there (`complete_published`).
-/

namespace AmqpReturns

open World

variable {σ : Type}

/-! ### What is found under a name -/

/-- The last value among pairs whose names have this lower-case form. -/
def lastTrace (pairs : List (String × String)) (field : String) : Option String :=
  (pairs.reverse.find? (Text.Lower.lower ·.1 = field)).map (·.2)

theorem lastTrace_eq_some_iff {pairs : List (String × String)} {field value : String} :
    lastTrace pairs field = some value ↔
      ∃ before p after, pairs = before ++ p :: after ∧ Text.Lower.lower p.1 = field ∧
        p.2 = value ∧ ∀ q ∈ after, Text.Lower.lower q.1 ≠ field := by
  rw [lastTrace, Option.map_eq_some_iff]
  constructor
  · rintro ⟨p, hf, rfl⟩
    obtain ⟨hp, as, bs, hs, has⟩ := List.find?_eq_some_iff_append.mp hf
    refine ⟨bs.reverse, p, as.reverse, ?_, by simpa using hp, rfl, fun q hq => ?_⟩
    · rw [← List.reverse_reverse pairs, hs]
      simp
    · simpa using has q (List.mem_reverse.mp hq)
  · rintro ⟨before, p, after, rfl, hp, rfl, hafter⟩
    refine ⟨p, List.find?_eq_some_iff_append.mpr ⟨by simpa using hp, after.reverse,
      before.reverse, by simp, fun q hq => ?_⟩, rfl⟩
    simpa using hafter q (List.mem_reverse.mp hq)

theorem isSome_lastTrace {pairs : List (String × String)} {field : String} :
    (lastTrace pairs field).isSome ↔ ∃ p ∈ pairs, Text.Lower.lower p.1 = field := by
  simp [lastTrace]

/-- Where no two names have one lower-case form, each value is found. -/
theorem lastTrace_of_nodup {pairs : List (String × String)}
    (h : (pairs.map (Text.Lower.lower ·.1)).Nodup) {p : String × String} (hp : p ∈ pairs) :
    lastTrace pairs (Text.Lower.lower p.1) = some p.2 := by
  obtain ⟨before, after, rfl⟩ := List.append_of_mem hp
  refine lastTrace_eq_some_iff.mpr ⟨before, p, after, rfl, rfl, rfl, fun q hq he => ?_⟩
  rw [List.map_append, List.map_cons] at h
  have hnot := (List.nodup_cons.mp (List.nodup_append.mp h).2.1).1
  exact hnot (List.mem_map.mpr ⟨q, hq, he⟩)

/-! ### Setting and reading -/

namespace Wire.Headers

/-- Sets headers of a trace context in turn. -/
def setTraces (headers : Headers) (pairs : List (String × String)) : Headers :=
  pairs.foldl (fun headers pair => headers.setTrace pair.1 pair.2) headers

theorem get?_setTraces (headers : Headers) (pairs : List (String × String)) (k : String) :
    (headers.setTraces pairs).get? k =
      ((lastTrace pairs k).map fun v => .longString (Text.Utf8.encode v)).or (headers.get? k) := by
  have h := Table.get?_insertMany (k := k)
    (pairs.map fun p => (Text.Lower.lower p.1, Wire.Value.longString (Text.Utf8.encode p.2)))
    headers
  rw [Table.insertMany, List.foldl_map, ← List.map_reverse, List.find?_map, Option.map_map] at h
  rw [lastTrace, Option.map_map]
  exact h

variable {headers : Headers} {k : String}

theorem trace?_of_longString {text : String}
    (h : headers.get? k = some (.longString (Text.Utf8.encode text))) :
    headers.trace? k = some (.ok text) := by
  simp only [trace?, h, Text.Utf8.decode?_encode]

theorem trace?_of_ne {v : Value} (h : headers.get? k = some v)
    (hv : ∀ bytes, v ≠ .longString bytes) : headers.trace? k = none := by
  unfold trace?
  split
  · rename_i bytes hb
    exact absurd (Option.some.inj (h.symm.trans hb)) (hv bytes)
  · rfl

/-- **What was set is found again**, under the lower-case form of its name. -/
theorem trace?_setTraces {pairs : List (String × String)} {value : String}
    (h : lastTrace pairs k = some value) :
    (headers.setTraces pairs).trace? k = some (.ok value) := by
  refine trace?_of_longString ?_
  rw [get?_setTraces, h]
  rfl

end Wire.Headers

namespace World

/-- Reading finds no fault where there is none, and logs nothing. -/
theorem extractField_of_trace? {headers : Wire.Headers} {field : String} {value : Option String}
    (h : headers.trace? field = value.map .ok) (w : World σ) :
    w.extractField headers field = (value, w) := by
  cases value with
  | none => simp only [extractField, h, Option.map_none]
  | some v => simp only [extractField, h, Option.map_some]

theorem extract_of_trace? {headers : Wire.Headers} {value : String → Option String}
    (h : ∀ field, headers.trace? field = (value field).map .ok) (w : World σ) :
    w.extract headers =
      (⟨headers.keys, w.propagator.fields.map fun field => (field, value field)⟩, w) := by
  have hfields (fields : List String) (w : World σ) :
      extractFields headers fields w = (fields.map fun field => (field, value field), w) := by
    induction fields with
    | nil => rfl
    | cons field fields ih =>
        simp only [extractFields, extractField_of_trace? (h field), ih, List.map_cons]
  simp only [extract, hfields]

/-- The pairs that a publish injects: those of the propagator, and the caller's context. -/
def injects (w : World σ) : List (String × String) :=
  w.propagator.inject ++ w.caller.toList.map (callerKey, ·)

end World

/-! ### A published message -/

/-- What a message that was published with injected pairs has in its trace context. -/
def Message.traceOf (m : Message) (pairs : List (String × String)) (field : String) :
    Option String :=
  match m.outbound.get? field with
  | some (.text v) => some v
  | some _ => none
  | none => lastTrace pairs field

/-- The headers of a published message. -/
theorem headerTable_publication (w : World σ) (e : Event) (ep : Endpoint) (o : PublishOptions) :
    (w.publication e ep o).properties.headerTable =
      (Wire.Headers.setTraces .empty w.injects).withProperties e.message.outbound :=
  rfl

/-- Only a text becomes a long string. -/
theorem ofProperty_ne_longString {p : Property} (h : ∀ v, p ≠ .text v) (bytes : List UInt8) :
    Wire.Value.ofProperty p ≠ .longString bytes := by
  intro e
  cases p with
  | text v => exact h v rfl
  | uint v =>
      -- A number takes one of three kinds.
      simp only [Wire.Value.ofProperty] at e
      split at e
      · cases e
      · split at e
        · cases e
        · cases e
  | _ => cases e

section

variable (m : Message) (pairs : List (String × String))

/-- A property hides what was injected under its name, and is read if it is a text. -/
theorem trace?_published (field : String) :
    ((Wire.Headers.setTraces .empty pairs).withProperties m.outbound).trace? field =
      (m.traceOf pairs field).map .ok := by
  have hget := get?_withProperties (Wire.Headers.setTraces .empty pairs) m.outbound field
  rw [Wire.Headers.get?_setTraces, Table.get?_empty, Option.or_none] at hget
  rw [Message.traceOf]
  cases hp : m.outbound.get? field with
  | none =>
      rw [hp] at hget
      cases hl : lastTrace pairs field with
      | none => simp [Wire.Headers.trace?, hget, hl]
      | some v =>
          refine Wire.Headers.trace?_of_longString ?_
          rw [hget, hl]
          rfl
  | some p =>
      rw [hp] at hget
      cases p with
      | text v => exact Wire.Headers.trace?_of_longString hget
      | _ => exact Wire.Headers.trace?_of_ne hget (ofProperty_ne_longString nofun)

theorem mem_keys_published {k : String} :
    k ∈ ((Wire.Headers.setTraces .empty pairs).withProperties m.outbound).keys ↔
      k ∈ m.outbound.keys ∨ ∃ p ∈ pairs, Text.Lower.lower p.1 = k := by
  rw [Table.mem_keys, get?_withProperties, Wire.Headers.get?_setTraces, Table.get?_empty,
    Option.or_none, Option.isSome_or, Option.isSome_map, Option.isSome_map, Bool.or_eq_true,
    ← Table.mem_keys, isSome_lastTrace]

end

/-- **Reading what was published**: all there is, and nothing is logged. -/
theorem extract_published (w v : World σ) (e : Event) (ep : Endpoint) (o : PublishOptions) :
    v.extract (w.publication e ep o).properties.headerTable =
      (⟨(w.publication e ep o).properties.headerTable.keys,
        v.propagator.fields.map fun field => (field, e.message.traceOf w.injects field)⟩, v) := by
  rw [headerTable_publication]
  exact extract_of_trace? (trace?_published e.message w.injects) v

/-! ### The span of a dispatch -/

/-- The span an entry tells of. -/
def Entry.span? : Entry → Option Span
  | .span s => some s
  | .log _ | .call _ | .note _ => none

theorem Entry.IsOfCourse.span?_eq {e : Entry} (h : e.IsOfCourse) : e.span? = none := by
  cases e with
  | span s => exact h.elim
  | _ => rfl

theorem Entry.IsFault.span?_eq {e : Entry} (h : e.IsFault) : e.span? = none := by
  obtain ⟨text, rfl⟩ := h
  rfl

/-- Nothing written in the course of a dispatch tells of a header that could not be read. -/
theorem Entry.IsOfCourse.not_isFault {e : Entry} (h : e.IsOfCourse) : ¬ e.IsFault := by
  rintro ⟨text, rfl⟩
  have head : ∀ t ∈ errandTexts, t.toList.head? ≠ some 'E' := by decide
  refine head _ h.2 ?_
  rw [String.toList_append]
  rfl

theorem Dispatching.span?_closing (d : Dispatching σ) (reason : String) (r : Returned)
    (parent : TraceParent) (f : Option Failure) :
    ∃ s, (d.closing reason r parent f).filterMap Entry.span? = [s] ∧ s.parent = parent := by
  cases f with
  | none => exact ⟨_, rfl, rfl⟩
  | some f => exact ⟨_, rfl, rfl⟩

theorem Dispatching.not_isFault_of_mem_closing {d : Dispatching σ} {reason : String}
    {r : Returned} {parent : TraceParent} {f : Option Failure} {e : Entry}
    (h : e ∈ d.closing reason r parent f) : ¬ e.IsFault := by
  rintro ⟨text, rfl⟩
  cases f with
  | none => simp [closing] at h
  | some f => simp [closing] at h

/-- **One span for each returned message**, whatever comes of the dispatch.  Its parent is the
trace context of the message, and faults are logged only in reading that. -/
theorem Dispatching.onReturn_span (d : Dispatching σ) (reason : String) (r : Returned)
    (w : World σ) :
    ∃ es s, (d.onReturn reason r w).record = w.record ++ es ∧
      es.filterMap Entry.span? = [s] ∧ s.parent = (w.extract r.properties.headerTable).1 ∧
      (w.extracted r = w → ∀ x ∈ es, ¬ x.IsFault) := by
  obtain ⟨f, w', hends, he⟩ := d.onReturn_ends reason r ⟨default, default⟩ w
  obtain ⟨fs, hx, hfs⟩ := extracted_eq w r
  obtain ⟨cs, hc, hcs⟩ := hends.wrote
  obtain ⟨s, hs, hparent⟩ :=
    d.span?_closing reason r (w.extract r.properties.headerTable).1 f
  have hrecord : (w.extracted r).record = w.record ++ fs := by rw [hx]
  refine ⟨fs ++ cs ++ d.closing reason r (w.extract r.properties.headerTable).1 f, s, ?_, ?_,
    hparent, fun hread x hm => ?_⟩
  · rw [he]
    simp only [hc, hrecord, List.append_assoc]
  · have hfs' : fs.filterMap Entry.span? = [] :=
      List.filterMap_eq_nil_iff.mpr fun x hm => (hfs x hm).span?_eq
    have hcs' : cs.filterMap Entry.span? = [] :=
      List.filterMap_eq_nil_iff.mpr fun x hm => (hcs x hm).span?_eq
    rw [List.filterMap_append, List.filterMap_append, hfs', hcs', hs]
    rfl
  · -- Where reading logged nothing, all is of the dispatch and its end.
    have hnil : fs = [] := by
      rw [hread] at hrecord
      exact List.append_cancel_left (hrecord.symm.trans (List.append_nil _).symm)
    rw [hnil, List.nil_append] at hm
    rcases List.mem_append.mp hm with hm | hm
    · exact (hcs x hm).not_isFault
    · exact not_isFault_of_mem_closing hm

theorem onReturnFor_span {v : World σ} {ref : ListenerRef} {d : Dispatching σ}
    (hl : v.listener? ref = some (.dispatching d)) (reason : String) (r : Returned) :
    ∃ es s, (v.onReturnFor ref reason r).record = v.record ++ es ∧
      es.filterMap Entry.span? = [s] := by
  obtain ⟨es, s, he, hs, -⟩ := d.onReturn_span reason r v
  refine ⟨es, s, ?_, hs⟩
  rw [onReturnFor, hl]
  exact he

/-- Handling a confirmation that brings a message: a listener is told, after a warning where the
confirmation is negative. -/
theorem complete_returned {v : World σ} {p : Pending} {r : Returned}
    (hr : p.confirmation.returned? = some r) :
    v.complete p = v.onReturn p.listener r ∨
      v.complete p = (v.log .warn "publisher confirm NACK").onReturn p.listener r := by
  obtain ⟨ref, confirmation⟩ := p
  cases confirmation with
  | ack r' =>
      cases hr
      exact .inl rfl
  | nack r' =>
      cases hr
      exact .inr rfl
  | notRequested => cases hr
  | failed => cases hr

/-- **A published message that comes back as it was.**  Handling its confirmation writes one span,
whose parent is what was published, and no fault. -/
theorem complete_published {w v : World σ} {e : Event} {ep : Endpoint} {o : PublishOptions}
    {p : Pending} {r : Returned} {d : Dispatching σ} (hr : p.confirmation.returned? = some r)
    (hprops : r.properties = (w.publication e ep o).properties)
    (hl : v.listener? p.listener = some (.dispatching d)) :
    ∃ es s, (v.complete p).record = v.record ++ es ∧ es.filterMap Entry.span? = [s] ∧
      s.parent = ⟨(w.publication e ep o).properties.headerTable.keys,
        v.propagator.fields.map fun field => (field, e.message.traceOf w.injects field)⟩ ∧
      ∀ x ∈ es, ¬ x.IsFault := by
  have tell (u : World σ) (hu : u.listener? p.listener = some (.dispatching d)) :
      ∃ es s, (u.onReturn p.listener r).record = u.record ++ es ∧
        es.filterMap Entry.span? = [s] ∧
        s.parent = ⟨(w.publication e ep o).properties.headerTable.keys,
          u.propagator.fields.map fun field => (field, e.message.traceOf w.injects field)⟩ ∧
        ∀ x ∈ es, ¬ x.IsFault := by
    obtain ⟨es, s, he, hs, hparent, hfault⟩ := d.onReturn_span r.reason r u
    have hx := extract_published w u e ep o
    rw [hprops, hx] at hparent
    refine ⟨es, s, ?_, hs, hparent, hfault ?_⟩
    · rw [onReturn_dispatching hu]
      exact he
    · rw [extracted, hprops, hx]
  rcases complete_returned hr with hc | hc
  · rw [hc]
    exact tell v hl
  · obtain ⟨es, s, he, hs, hparent, hfault⟩ := tell (v.log .warn "publisher confirm NACK") hl
    refine ⟨.log ⟨.warn, "publisher confirm NACK", []⟩ :: es, s, ?_, hs, hparent,
      fun x hm => ?_⟩
    · rw [hc, he, log, write, List.append_assoc, List.singleton_append]
    · rcases List.mem_cons.mp hm with rfl | hm
      · rintro ⟨text, hx⟩
        cases hx
      · exact hfault x hm

/-- A publish that succeeds, and the message comes back as it was: whenever the confirmation is
handled, by a dispatching listener, there is that one span. -/
theorem publish_traced {channel : ChannelRef} {c : Connector σ} {e e' : Event}
    {o : PublishOptions} {w w' : World σ} (hp : publish channel c e o w = (.ok e', w')) :
    ∃ ep conf, e.endpoint = some ep ∧ w.answer channel (w.publication e ep o) = some conf ∧
      w'.pending = w.pending ++ [⟨o.resolved, conf⟩] ∧
      ∀ r, conf.returned? = some r → r.properties = (w.publication e ep o).properties →
        ∀ (v : World σ) i d, v.pending[i]? = some ⟨o.resolved, conf⟩ →
          v.listener? o.resolved = some (.dispatching d) →
          ∃ es s, (v.completeAt i).record = v.record ++ es ∧ es.filterMap Entry.span? = [s] ∧
            s.parent = ⟨(w.publication e ep o).properties.headerTable.keys,
              v.propagator.fields.map fun field =>
                (field, e.message.traceOf w.injects field)⟩ ∧
            ∀ x ∈ es, ¬ x.IsFault := by
  cases hep : e.endpoint with
  | none =>
      rw [publish_missing hep] at hp
      cases hp
  | some ep =>
      obtain ⟨conf, ha, hpend, -⟩ := publish_ok hep hp
      refine ⟨ep, conf, rfl, ha, hpend, fun r hr hprops v i d hi hl => ?_⟩
      simp only [completeAt, hi]
      exact complete_published (v := { v with pending := v.pending.eraseIdx i })
        (p := ⟨o.resolved, conf⟩) hr hprops hl

/-! ### The trace of a returned message -/

/-- **The trace context of a returned message.**  A publish succeeds, and with the broker's answer
the message comes back as it was.  When a dispatching listener is told of it, the parent of the
span is, field by field, what the message was published with: a text property, nothing under
another property, and otherwise the last value that was injected under the name.  The keys are
those of the outbound properties and the lower-case forms of the injected names, each once and in
the order of their bytes, and no fault is logged.  There is one span each time a dispatching
listener is told of any message. -/
theorem returned_trace_context (channel : ChannelRef) (c : Connector σ) (e : Event)
    (o : PublishOptions) (w : World σ) :
    (∀ e' w', publish channel c e o w = (.ok e', w') →
      ∃ ep conf, e.endpoint = some ep ∧ w.answer channel (w.publication e ep o) = some conf ∧
        w'.pending = w.pending ++ [⟨o.resolved, conf⟩] ∧
        ∀ r, conf.returned? = some r → r.properties = (w.publication e ep o).properties →
          ∀ (v : World σ) i d, v.pending[i]? = some ⟨o.resolved, conf⟩ →
            v.listener? o.resolved = some (.dispatching d) →
            ∃ es s, (v.completeAt i).record = v.record ++ es ∧
              es.filterMap Entry.span? = [s] ∧
              s.parent.values = v.propagator.fields.map (fun field =>
                (field, e.message.traceOf w.injects field)) ∧
              (∀ k, k ∈ s.parent.keys ↔ k ∈ e.message.outbound.keys ∨
                ∃ p ∈ w.injects, Text.Lower.lower p.1 = k) ∧
              s.parent.keys.Pairwise (fun a b => Text.Utf8.encode a < Text.Utf8.encode b) ∧
              ∀ x ∈ es, ¬ x.IsFault) ∧
      ∀ (v : World σ) ref d reason r, v.listener? ref = some (.dispatching d) →
        ∃ es s, (v.onReturnFor ref reason r).record = v.record ++ es ∧
          es.filterMap Entry.span? = [s] := by
  refine ⟨fun e' w' hp => ?_, fun v ref d reason r hl => onReturnFor_span hl reason r⟩
  obtain ⟨ep, conf, hep, ha, hpend, htraced⟩ := publish_traced hp
  refine ⟨ep, conf, hep, ha, hpend, fun r hr hprops v i d hi hl => ?_⟩
  obtain ⟨es, s, he, hs, hparent, hfault⟩ := htraced r hr hprops v i d hi hl
  refine ⟨es, s, he, hs, by rw [hparent], fun k => ?_, ?_, hfault⟩
  · rw [hparent, headerTable_publication]
    exact mem_keys_published e.message w.injects
  · rw [hparent]
    exact Table.keys_byteOrder _

/-- A world as `returning`, with a dispatching listener, and with a propagator that asks for these
fields and sets what that one sets. -/
def asking (fields : List String) : World Unit :=
  { returning with
    listeners := [.logging 0, .dispatching { chain := ⟨0, []⟩ }]
    propagator := { returning.propagator with fields } }

/-- A property that is no text hides an injected value, a text is found, and so is a value that
was injected with an upper-case name. -/
theorem returned_trace_context_laden :
    let w := asking ["trace", "span", "content-type", "absent"]
    let o : PublishOptions := { listener := some ⟨1⟩ }
    ∃ w', publish ⟨0, 1⟩ plain laden o w = (.ok laden, w') ∧
      ∃ es s, (w'.completeAt 0).record = w'.record ++ es ∧ es.filterMap Entry.span? = [s] ∧
        s.parent.values = [("trace", none), ("span", some "s"),
          ("content-type", some "text/plain"), ("absent", none)] ∧
        (∃ es s, (w'.onReturnFor ⟨1⟩ "" default).record = w'.record ++ es ∧
          es.filterMap Entry.span? = [s]) := by
  intro w o
  let w' := (publish ⟨0, 1⟩ plain laden o w).2
  obtain ⟨h, hspan⟩ := returned_trace_context ⟨0, 1⟩ plain laden o w
  refine ⟨w', rfl, ?_⟩
  obtain ⟨ep, conf, hep, ha, -, htraced⟩ := h laden w' rfl
  cases hep
  cases ha
  obtain ⟨es, s, he, hs, hvalues, -, -, -⟩ := htraced _ rfl rfl w' 0 _ rfl rfl
  refine ⟨es, s, he, hs, hvalues.trans ?_, hspan _ ⟨1⟩ _ "" default rfl⟩
  decide +kernel

/-- **What was injected is extracted**, under the lower-case forms of the names.  Each value that
is set is found again, the ones set under other names as well, as long as no two have one
lower-case form.  So where the fields asked for are the lower-case forms of the injected names,
and no outbound property is in the way, the parent of a returned message's span has just the
values that were injected when it was published, of those with one name the last. -/
theorem injected_trace_extracted :
    (∀ (headers : Wire.Headers) (k v : String) (w : World σ),
      w.extractField (headers.setTrace k v) (Text.Lower.lower k) = (some v, w)) ∧
    (∀ (headers : Wire.Headers) (pairs : List (String × String)) (w : World σ),
      (pairs.map (Text.Lower.lower ·.1)).Nodup → ∀ p ∈ pairs,
        w.extractField (headers.setTraces pairs) (Text.Lower.lower p.1) = (some p.2, w)) ∧
    ∀ (channel : ChannelRef) (c : Connector σ) (e e' : Event) (o : PublishOptions)
      (w w' : World σ), publish channel c e o w = (.ok e', w') →
      (∀ p ∈ w.injects, e.message.outbound.get? (Text.Lower.lower p.1) = none) →
      ∃ ep conf, e.endpoint = some ep ∧ w.answer channel (w.publication e ep o) = some conf ∧
        w'.pending = w.pending ++ [⟨o.resolved, conf⟩] ∧
        ∀ r, conf.returned? = some r → r.properties = (w.publication e ep o).properties →
          ∀ (v : World σ) i d, v.pending[i]? = some ⟨o.resolved, conf⟩ →
            v.listener? o.resolved = some (.dispatching d) →
            (∀ f, f ∈ v.propagator.fields ↔ ∃ p ∈ w.injects, Text.Lower.lower p.1 = f) →
            ∃ es s, (v.completeAt i).record = v.record ++ es ∧
              es.filterMap Entry.span? = [s] ∧
              ∀ f x, (f, x) ∈ s.parent.values ↔
                ∃ before p after, w.injects = before ++ p :: after ∧
                  Text.Lower.lower p.1 = f ∧ x = some p.2 ∧
                  ∀ q ∈ after, Text.Lower.lower q.1 ≠ f := by
  have hset (headers : Wire.Headers) (pairs : List (String × String)) (w : World σ)
      (hn : (pairs.map (Text.Lower.lower ·.1)).Nodup) (p : String × String) (hp : p ∈ pairs) :
      w.extractField (headers.setTraces pairs) (Text.Lower.lower p.1) = (some p.2, w) := by
    have hlast := lastTrace_of_nodup hn hp
    exact extractField_of_trace? (Wire.Headers.trace?_setTraces hlast) w
  refine ⟨fun headers k v w => ?_, hset, fun channel c e e' o w w' hp hfree => ?_⟩
  · have hn : ([(k, v)].map (Text.Lower.lower ·.1)).Nodup := List.pairwise_singleton ..
    exact hset headers [(k, v)] w hn (k, v) List.mem_cons_self
  obtain ⟨ep, conf, hep, ha, hpend, htraced⟩ := publish_traced hp
  refine ⟨ep, conf, hep, ha, hpend, fun r hr hprops v i d hi hl hasked => ?_⟩
  obtain ⟨es, s, he, hs, hparent, -⟩ := htraced r hr hprops v i d hi hl
  refine ⟨es, s, he, hs, fun f x => ?_⟩
  -- A field that is asked for is the name of something injected, and no property hides it.
  have hlast : (f, x) ∈ s.parent.values ↔
      ∃ value, lastTrace w.injects f = some value ∧ x = some value := by
    rw [hparent]
    constructor
    · intro hm
      obtain ⟨f, hf, hfx⟩ := List.mem_map.mp hm
      cases hfx
      obtain ⟨p, hpm, rfl⟩ := (hasked f).mp hf
      obtain ⟨value, hvalue⟩ := Option.isSome_iff_exists.mp (isSome_lastTrace.mpr ⟨p, hpm, rfl⟩)
      refine ⟨value, hvalue, ?_⟩
      rw [Message.traceOf, hfree p hpm]
      exact hvalue
    · rintro ⟨value, hvalue, rfl⟩
      obtain ⟨p, hpm, rfl⟩ := isSome_lastTrace.mp (by rw [hvalue]; rfl)
      refine List.mem_map.mpr ⟨_, (hasked _).mpr ⟨p, hpm, rfl⟩, ?_⟩
      rw [Message.traceOf, hfree p hpm]
      exact congrArg _ hvalue
  rw [hlast]
  constructor
  · rintro ⟨value, hvalue, rfl⟩
    obtain ⟨before, p, after, hw, hf, rfl, hafter⟩ := lastTrace_eq_some_iff.mp hvalue
    exact ⟨before, p, after, hw, hf, rfl, hafter⟩
  · rintro ⟨before, p, after, hw, hf, rfl, hafter⟩
    exact ⟨p.2, lastTrace_eq_some_iff.mpr ⟨before, p, after, hw, hf, rfl, hafter⟩, rfl⟩

/-- A message without properties, whose trace is asked for under the lower-case names. -/
theorem injected_trace_extracted_plain :
    let w := asking ["span", "trace"]
    let o : PublishOptions := { listener := some ⟨1⟩ }
    let e : Event := { laden with message := .ofPayload [1] "utf-8" }
    w.extractField (Wire.Headers.setTrace .empty "Trace" "t") (Text.Lower.lower "Trace") =
        (some "t", w) ∧
      ∃ w', publish ⟨0, 1⟩ plain e o w = (.ok e, w') ∧
        ∃ es s, (w'.completeAt 0).record = w'.record ++ es ∧ es.filterMap Entry.span? = [s] ∧
          (("trace", some "t") ∈ s.parent.values ∧ ("span", some "s") ∈ s.parent.values) := by
  intro w o e
  obtain ⟨hset, -, hpub⟩ := injected_trace_extracted (σ := Unit)
  let w' := (publish ⟨0, 1⟩ plain e o w).2
  refine ⟨hset .empty "Trace" "t" w, w', rfl, ?_⟩
  have hinjects : w.injects = [("Trace", "t"), ("Span", "s")] := rfl
  have htrace : Text.Lower.lower "Trace" = "trace" := by decide +kernel
  have hspan : Text.Lower.lower "Span" = "span" := by decide +kernel
  obtain ⟨ep, conf, hep, ha, -, hback⟩ := hpub ⟨0, 1⟩ plain e e o w w' rfl fun _ _ => rfl
  cases hep
  cases ha
  have hasked : ∀ f, f ∈ ["span", "trace"] ↔ ∃ p ∈ w.injects, Text.Lower.lower p.1 = f := by
    intro f
    simp [hinjects, htrace, hspan, or_comm, eq_comm]
  obtain ⟨es, s, he, hs, hvalues⟩ := hback _ rfl rfl w' 0 _ rfl rfl hasked
  refine ⟨es, s, he, hs, (hvalues _ _).mpr ⟨[], _, [_], hinjects, htrace, rfl, ?_⟩,
    (hvalues _ _).mpr ⟨[_], _, [], hinjects, hspan, rfl, ?_⟩⟩
  · simp [hspan]
  · simp

/-- Under the name as it was set, nothing is found unless that is in lower case already; and of
two names with one lower-case form the value set first is lost.  So when the propagator asks for
the names it sets, and one is in upper case, the span of a returned message has nothing there. -/
theorem injected_trace_lost :
    let w := asking ["Trace"]
    let set (pairs : List (String × String)) : Wire.Headers := .setTraces .empty pairs
    let e : Event := { laden with message := .ofPayload [1] "utf-8" }
    let w' := (publish ⟨0, 1⟩ plain e { listener := some ⟨1⟩ } w).2
    (w.extractField (set [("Trace", "t")]) "Trace").1 ≠ some "t" ∧
      (w.extractField (set [("trace", "t"), ("Trace", "s")]) "trace").1 ≠ some "t" ∧
      (((w'.completeAt 0).record.filterMap Entry.span?).map (·.parent.values)) =
        [[("Trace", none)]] := by
  decide +kernel

end AmqpReturns
