import AmqpReturns.Proofs.Dispatch

/-!
# Proofs — failures stay with the listener

A dispatch ends in one of two ways (`Dispatching.Ends`): every call of the schedule was made, or
there was a first failure.  A failure is told as it is, and a panic as the failure of a processor
with the panic's text (`Halt.ToldAs`).  Either way the listener comes to an end, and what it
writes then agrees with how the dispatch ended (`onReturn_contained`): one log and one span behind
what the calls wrote.
-/

namespace AmqpReturns

open World

variable {σ : Type}

/-! ### What the calls write and leave alone -/

/-- Entries that are written in the course of a dispatch: calls, the notes of those called, and
the logs of errands. -/
def Entry.IsOfCourse : Entry → Prop
  | .log l => l.level ≠ .warn ∧ l.message ∈ errandTexts
  | .call _ | .note _ => True
  | .span _ => False

theorem Entry.IsErrand.isOfCourse {e : Entry} (h : e.IsErrand) : e.IsOfCourse := by
  cases e with
  | log l => exact h
  | call c => trivial
  | note n => trivial
  | span s => exact h.elim

/-- Entries that tell how a dispatch ended. -/
def Entry.IsEnding : Entry → Prop
  | .log l => l.message = "returned message dispatched" ∨
      ∃ before after,
        l.message = before ++ ", impossible to dispatch the following message" ++ after
  | .span _ => True
  | .call _ | .note _ => False

/-- Nothing written in the course of a dispatch tells how it ended: the texts of errands are
others, and too short. -/
theorem Entry.IsOfCourse.not_isEnding {e : Entry} (h : e.IsOfCourse) : ¬ e.IsEnding := by
  have short : ∀ t ∈ errandTexts, t.length ≤ 31 := by decide
  cases e with
  | log l =>
      rintro (hl | ⟨before, after, hl⟩)
      · have hm := h.2
        rw [hl] at hm
        revert hm
        decide
      · -- A text with the one in it is longer than all of theirs.
        have hle := short _ h.2
        have hlen : ", impossible to dispatch the following message".length = 46 := rfl
        rw [hl, String.length_append, String.length_append, hlen] at hle
        omega
  | call c => exact id
  | note n => exact id
  | span s => exact h.elim

section

variable {d : Dispatching σ} {c : Connector σ} {r : Returned} {w w' : World σ} {s : Held}
  {xs : List (Slot σ)} {cs : List Call} {out : Except Halt Held}

theorem Course.keeps (h : Course d c r w s xs cs out w') : Keeps w w' :=
  h.lift (fun _ => .of_eq rfl) (fun h₁ h₂ => h₁.trans h₂) (fun _ _ _ _ => .of_eq rfl)
    fun h => h.keeps

theorem Course.wrote (h : Course d c r w s xs cs out w') : Wrote Entry.IsOfCourse w w' :=
  h.lift (fun _ => .of_eq rfl) (fun h₁ h₂ => h₁.trans h₂)
    (fun w _ _ reply => wrote_writeCall w _ reply trivial fun _ => trivial)
    fun h => h.wrote.mono fun _ he => he.isOfCourse

end

/-! ### How a dispatch ends -/

/-- What a call without a result is told as: a failure as it is, and a panic, wherever it came up,
as the failure of a processor, with the panic's text or, where it has none, a text for all such. -/
inductive Halt.ToldAs : Halt → Failure → Prop where
  | failure (f : Failure) : ToldAs (.failure f) f
  | text (s : String) : ToldAs (.panic (.text s)) (.processor s)
  | wordless : ToldAs (.panic .other) (.processor "processor panicked")

theorem Halt.toldAs_iff {h : Halt} {f : Failure} : h.ToldAs f ↔ f = h.toFailure := by
  constructor
  · intro hf
    cases hf <;> rfl
  · rintro rfl
    match h with
    | .failure f => exact .failure f
    | .panic (.text s) => exact .text s
    | .panic .other => exact .wordless

/-- How a dispatch that starts in a world ends: with its first failure, or with none. -/
inductive Dispatching.Ends (d : Dispatching σ) (r : Returned) (s : Held) (w : World σ) :
    Option Failure → World σ → Prop where
  | unbound (hc : d.connector = none) : Ends d r s w (some .unboundListener) w
  | whole {c : Connector σ} {calls : List Call} {s' : Held} {w' : World σ}
      (hc : d.connector = some c) (h : Course d c r w s (d.schedule c) calls (.ok s') w') :
      Ends d r s w none w'
  | cut {c : Connector σ} {done rest : List (Slot σ)} {x : Slot σ} {calls : List Call}
      {s' : Held} {w' w'' : World σ} {h : Halt} {f : Failure} (hc : d.connector = some c)
      (hs : d.schedule c = done ++ x :: rest) (hdone : Course d c r w s done calls (.ok s') w')
      (hx : x.make d c r s' w' = (.error h, w'')) (hf : h.ToldAs f) : Ends d r s w (some f) w''

namespace Dispatching.Ends

variable {d : Dispatching σ} {r : Returned} {s : Held} {w w' w'' : World σ}
  {f f' : Option Failure}

/-- With a connector, a dispatch ends as the course of its schedule does. -/
theorem course {c : Connector σ} (hc : d.connector = some c) (h : d.Ends r s w f w') :
    ∃ calls out, Course d c r w s (d.schedule c) calls out w' ∧
      f = (match out with
        | .ok _ => none
        | .error h => some h.toFailure) := by
  cases h with
  | unbound hn => rw [hc] at hn; cases hn
  | whole hc' h =>
      obtain rfl := Option.some.inj (hc.symm.trans hc')
      exact ⟨_, _, h, rfl⟩
  | @cut _ _ rest _ _ _ _ _ _ _ hc' hs hdone hx hf =>
      obtain rfl := Option.some.inj (hc.symm.trans hc')
      obtain rfl := Halt.toldAs_iff.mp hf
      have h := hdone.append (.halt rest hx)
      rw [← hs] at h
      exact ⟨_, _, h, rfl⟩

/-- Without one, it ends where it starts. -/
theorem of_unbound (hc : d.connector = none) (h : d.Ends r s w f w') :
    f = some .unboundListener ∧ w' = w := by
  cases h with
  | unbound _ => exact ⟨rfl, rfl⟩
  | whole hc' _ => rw [hc] at hc'; cases hc'
  | cut hc' _ _ _ _ => rw [hc] at hc'; cases hc'

/-- A dispatch ends in one way. -/
theorem unique (h : d.Ends r s w f w') (h' : d.Ends r s w f' w'') : f' = f ∧ w'' = w' := by
  cases hc : d.connector with
  | none =>
      obtain ⟨rfl, rfl⟩ := h.of_unbound hc
      exact h'.of_unbound hc
  | some c =>
      obtain ⟨_, out, hcourse, rfl⟩ := h.course hc
      obtain ⟨_, out', hcourse', rfl⟩ := h'.course hc
      obtain ⟨-, rfl, rfl⟩ := hcourse.unique hcourse'
      exact ⟨rfl, rfl⟩

/-- What holds of nothing done and of the course of the schedule holds of a dispatch. -/
theorem lift {R : World σ → World σ → Prop} (refl : R w w)
    (course : ∀ {c calls out}, Course d c r w s (d.schedule c) calls out w' → R w w')
    (h : d.Ends r s w f w') : R w w' := by
  cases hc : d.connector with
  | none =>
      obtain ⟨-, rfl⟩ := h.of_unbound hc
      exact refl
  | some c =>
      obtain ⟨_, _, hcourse, -⟩ := h.course hc
      exact course hcourse

theorem keeps (h : d.Ends r s w f w') : Keeps w w' :=
  h.lift (.of_eq rfl) fun hcourse => hcourse.keeps

theorem wrote (h : d.Ends r s w f w') : Wrote Entry.IsOfCourse w w' :=
  h.lift (.of_eq rfl) fun hcourse => hcourse.wrote

end Dispatching.Ends

/-- A dispatch does end, and tells of its first failure, or logs that there was none. -/
theorem Dispatching.dispatch_ends (d : Dispatching σ) (r : Returned) (s : Held) (w : World σ) :
    ∃ f w', d.Ends r s w f w' ∧
      ((f = none ∧ d.dispatch r w = (.ok (), w'.log .debug "returned message dispatched"
          [("processors", .number d.chain.processors.length)])) ∨
        ∃ h : Halt, f = some h.toFailure ∧ d.dispatch r w = (.error h, w')) := by
  cases hc : d.connector with
  | none =>
      refine ⟨_, w, .unbound hc, .inr ⟨.failure .unboundListener, rfl, ?_⟩⟩
      simp only [dispatch, hc]
      rfl
  | some c =>
      obtain ⟨calls, out, w', hcourse, hd⟩ := dispatch_course hc w s
      rcases out with h | s'
      · obtain ⟨done, x, rest, calls, s₁, w₁, hs, hdone, hx, -⟩ := hcourse.split
        exact ⟨_, w', .cut hc hs hdone hx (Halt.toldAs_iff.mpr rfl), .inr ⟨h, rfl, hd⟩⟩
      · exact ⟨none, w', .whole hc hcourse, .inl ⟨rfl, hd⟩⟩

/-- What a listener writes when a dispatch has ended: of one without failure the length of the
chain, of another the first failure and its text.  There is one log and one span each time. -/
def Dispatching.closing (d : Dispatching σ) (reason : String) (r : Returned)
    (parent : TraceParent) : Option Failure → List Entry
  | none =>
    [.log ⟨.debug, "returned message dispatched",
        [("processors", .number d.chain.processors.length)]⟩,
      .span
        { name := "amqp return"
          tracer := "amqp return listener"
          parent
          events := []
          status := .ok }]
  | some f =>
    [.log ⟨.error,
        reason ++ ", impossible to dispatch the following message to the configured " ++
          "processor(s): " ++ r.summary,
        [("error", .text f.message)]⟩,
      .span
        { name := "amqp return"
          tracer := "amqp return listener"
          parent
          events := [("exception", [("exception.message", f.message)])]
          status := .error "failure to dispatch returned message" }]

theorem Dispatching.onReturn_ends (d : Dispatching σ) (reason : String) (r : Returned)
    (s : Held) (w : World σ) :
    ∃ f w', d.Ends r s (w.extracted r) f w' ∧ d.onReturn reason r w =
      { w' with
        record := w'.record ++ d.closing reason r (w.extract r.properties.headerTable).1 f } := by
  obtain ⟨f, w', hends, hd⟩ := d.dispatch_ends r s (w.extracted r)
  refine ⟨f, w', hends, ?_⟩
  rw [onReturn_eq]
  rcases hd with ⟨rfl, hd⟩ | ⟨h, rfl, hd⟩
  · rw [hd]
    simp only [log, write, span, closing, List.append_assoc, List.singleton_append]
  · rw [hd]
    simp only [log, write, span, closing, List.append_assoc, List.singleton_append]

theorem keeps_extracted (w : World σ) (r : Returned) : Keeps w (w.extracted r) := by
  obtain ⟨es, he, -⟩ := extracted_eq w r
  exact .of_eq (by rw [he])

/-- **Failures stay with the listener.**  A dispatch ends in exactly one way, listeners stay
what they are, and nothing that was written up to then tells how it ended.  The listener comes
to an end, and what it writes is what agrees with how the dispatch ended. -/
theorem onReturn_contained (d : Dispatching σ) (reason : String) (r : Returned) (w : World σ)
    (s : Held) :
    ∃ f w', d.Ends r s (w.extracted r) f w' ∧
      (∀ f' w'', d.Ends r s (w.extracted r) f' w'' → f' = f ∧ w'' = w') ∧
      Wrote (fun e => e.IsOfCourse ∧ ¬ e.IsEnding) (w.extracted r) w' ∧ Keeps w w' ∧
      d.onReturn reason r w =
        { w' with
          record := w'.record ++
            d.closing reason r (w.extract r.properties.headerTable).1 f } := by
  obtain ⟨f, w', hends, hw⟩ := d.onReturn_ends reason r s w
  have hes := hends.wrote.mono fun e (he : e.IsOfCourse) => And.intro he he.not_isEnding
  have hk : Keeps w w' := (keeps_extracted w r).trans hends.keeps
  exact ⟨f, w', hends, fun _ _ h' => hends.unique h', hes, hk, hw⟩

/-- A connector with one transformer, which lets every event pass. -/
def lenient : Connector Nat :=
  { name := "amqp", context := ⟨"utf-8"⟩
    transformers := [⟨"pass", fun e n => (e, ⟨.ok (), n + 1, []⟩)⟩] }

/-- A listener with one processor, which replies as given. -/
def heedless (name : Except Halt (Option Endpoint)) (process : Except Halt Event) :
    Dispatching Nat :=
  { chain := ⟨0, [.service
      { name := "heedless"
        process := fun _ n => ⟨process, n + 1, []⟩
        endpoint := some fun n => ⟨name, n + 1, []⟩ }]⟩
    connector := some lenient }

/-- A processor that panics with a text when it is handed its event, and one that panics without a
text when it is asked for its endpoint: both dispatches end with the failure of a processor, the
first behind three calls and the second behind one, and this is all that the listener tells. -/
theorem onReturn_contained_panicking :
    let w : World Nat := { outside := 0 }
    let s : Held := ⟨default, default⟩
    let d := heedless (.ok none) (.error (.panic (.text "boom")))
    let d' := heedless (.error (.panic .other)) (.ok default)
    (∃ v, v.outside = 3 ∧ d.Ends default s w (some (.processor "boom")) v ∧
      d.onReturn "lost" default w =
        { v with
          record := v.record ++
            [.log ⟨.error,
                "lost, impossible to dispatch the following message to the configured " ++
                  "processor(s): " ++ (default : Returned).summary,
                [("error", .text "failure to process message `boom`")]⟩,
              .span
                { name := "amqp return"
                  tracer := "amqp return listener"
                  parent := ⟨[], []⟩
                  events :=
                    [("exception", [("exception.message", "failure to process message `boom`")])]
                  status := .error "failure to dispatch returned message" }] }) ∧
    ∃ v, v.outside = 1 ∧ d'.Ends default s w (some (.processor "processor panicked")) v ∧
      d'.onReturn "lost" default w =
        { v with
          record := v.record ++
            d'.closing "lost" default ⟨[], []⟩ (some (.processor "processor panicked")) } := by
  intro w s d d'
  obtain ⟨f, v, hends, hunique, -, -, hw⟩ := onReturn_contained d "lost" default w s
  obtain ⟨f', v', hends', hunique', -, -, hw'⟩ := onReturn_contained d' "lost" default w s
  have hthree : d.schedule lenient = [.create, .endpoint _, .transform _] ++ .process _ :: [] := rfl
  have hone : d'.schedule lenient = [.create] ++ .endpoint _ :: [.transform _, .process _] := rfl
  have hboom : d.Ends default s w (some (.processor "boom")) _ :=
    .cut rfl hthree (.next rfl (.next rfl (.next rfl (.done _ _)))) rfl (.text "boom")
  have hwordless : d'.Ends default s w (some (.processor "processor panicked")) _ :=
    .cut rfl hone (.next rfl (.done _ _)) rfl .wordless
  obtain ⟨rfl, rfl⟩ := hunique _ _ hboom
  obtain ⟨rfl, rfl⟩ := hunique' _ _ hwordless
  exact ⟨⟨_, rfl, hboom, hw⟩, _, rfl, hwordless, hw'⟩

end AmqpReturns
