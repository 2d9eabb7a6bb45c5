import AmqpReturns.Proofs.Nesting

/-!
# Proofs — the tally of returned messages

Logging listeners count the returned messages that nobody handles.  Over any turns three things
are kept account of:

* `World.told`: whom was told of what, through a confirmation or directly (`heard_past`).
* `World.warnings`: the warnings on record, which are those of logging listeners that were told,
  and one for each negative confirmation (`warned_past`).
* `World.brought`: what came up to be told to a listener that was there.  What a handler sends,
  or a dispatch, is brought to new listeners only (`lifts_fresh`), so this is what was told it
  directly, and what came of the publishes that named it.  What a listener was told, together with
  what it still has to be told, is what it had to be told at first and what was brought to it
  (`conserved_past`).
-/

namespace AmqpReturns

open World
open scoped List

variable {σ : Type}

/-! ### Telling -/

/-- A listener, a message to tell it of, and the reason to be given for it. -/
structure Telling where
  listener : ListenerRef
  reason : String
  message : Returned

namespace Telling

/-- Who is told of what. -/
def notice (t : Telling) : Notice :=
  (t.listener, t.message)

/-- The telling of a notice, with the reason that the message gives. -/
def ofNotice (n : Notice) : Telling :=
  ⟨n.1, n.2.reason, n.2⟩

/-- The warning of a logging listener: the reason and the message itself in one line, and the
reply code beside it. -/
def warning (t : Telling) : Log :=
  ⟨.warn, t.reason ++ ": " ++ t.message.summary,
    [("reply_code", .number t.message.replyCode.toNat)]⟩

theorem map_notice_ofNotice (ns : List Notice) : (ns.map ofNotice).map notice = ns := by
  rw [List.map_map]
  exact List.map_id ns

end Telling

/-- What a turn tells listeners. -/
def Turn.tellings (w : World σ) : Turn σ → List Telling
  | .deed (.move m) => (m.gives w).map .ofNotice
  | .deed (.tell ref reason r) => [⟨ref, reason, r⟩]
  | .deed (.attach _ _) | .deed (.slot _ _ _ _ _) | .set _ _ | .look _ | .add => []

namespace World

/-- What a list of turns tells listeners, in order. -/
def tellings (w : World σ) : List (Turn σ) → List Telling
  | [] => []
  | t :: ts => t.tellings w ++ (t.run w).tellings ts

/-- The notices that are given over a list of turns. -/
def told (w : World σ) (ts : List (Turn σ)) : List Notice :=
  (w.tellings ts).map Telling.notice

theorem told_cons (w : World σ) (t : Turn σ) (ts : List (Turn σ)) :
    w.told (t :: ts) = (t.tellings w).map Telling.notice ++ (t.run w).told ts :=
  List.map_append

end World

/-! ### Turns that tell nobody -/

/-- Turns that tell listeners directly or handle a confirmation. -/
def Turn.Tells : Turn σ → Prop
  | .deed (.tell _ _ _) | .deed (.move (.complete _)) => True
  | _ => False

theorem Turn.tellings_eq_nil {t : Turn σ} (ht : ¬ t.Tells) (w : World σ) : t.tellings w = [] := by
  cases t with
  | set h ps => rfl
  | look h => rfl
  | add => rfl
  | deed m =>
      cases m with
      | tell ref reason r => exact absurd trivial ht
      | attach h e => rfl
      | slot x d c r s => rfl
      | move m =>
          cases m with
          | complete i => exact absurd trivial ht
          | _ => rfl

theorem Turn.tells_cases (t : Turn σ) : (∃ ref reason r, t = .deed (.tell ref reason r)) ∨
    (∃ i, t = .deed (.move (.complete i))) ∨ ¬ t.Tells := by
  by_cases ht : t.Tells
  · unfold Tells at ht
    split at ht
    · exact .inl ⟨_, _, _, rfl⟩
    · exact .inr (.inl ⟨_, rfl⟩)
    · exact ht.elim
  · exact .inr (.inr ht)

/-- A turn is a deed, but for the handlers, or a change of chains and nothing else. -/
theorem Turn.run_cases (t : Turn σ) (w : World σ) :
    (∃ m, t = .deed m ∧ ∃ ks, t.run w = { m.run w with handlers := ks }) ∨
      ∃ ks n, t.run w = { w with handlers := ks, chains := n } := by
  cases t with
  | set h ps => exact .inr (setProcessors_eq w h ps)
  | look h => exact .inr (useChain_eq w h)
  | add => exact .inr ⟨_, _, rfl⟩
  | deed m =>
      refine .inl ⟨m, rfl, ?_⟩
      cases m with
      | move m =>
          cases m with
          | around a => exact ⟨_, rfl⟩
          | _ => exact ⟨_, rfl⟩
      | _ => exact ⟨_, rfl⟩

/-- What is done while listeners hear of nothing: they stay, and nothing is written but what is
written in the course of a dispatch. -/
structure World.Works (w w' : World σ) : Prop where
  keeps : Keeps w w'
  wrote : Wrote Entry.IsOfCourse w w'

namespace World.Works

variable {w w₁ w' : World σ}

theorem of_eq (hl : w'.listeners = w.listeners) (hr : w'.record = w.record) : Works w w' :=
  ⟨.of_eq hl, .of_eq hr⟩

theorem trans (h₁ : Works w w₁) (h₂ : Works w₁ w') : Works w w' :=
  ⟨h₁.keeps.trans h₂.keeps, h₁.wrote.trans h₂.wrote⟩

theorem quiet (h : Works w w') : Quiet w w' :=
  ⟨h.keeps, h.wrote.mono fun _ he => he.not_isHearing⟩

end World.Works

theorem works_writeCall {α : Type} (w : World σ) (c : Call) (r : Reply σ α) :
    Works w (w.writeCall c r) :=
  ⟨.of_eq rfl, wrote_writeCall w c r trivial fun _ => trivial⟩

theorem Errands.works {w w' : World σ} (h : Errands w w') : Works w w' :=
  h.lift (fun _ => .of_eq rfl rfl) (fun h₁ h₂ => h₁.trans h₂)
    fun h => ⟨h.keeps, h.wrote.mono fun _ he => he.isOfCourse⟩

theorem works_ensureConnector (w : World σ) (ref : ListenerRef) (c : Connector σ) :
    Works w (w.ensureConnector ref c) := by
  obtain ⟨ls, hl⟩ := ensureConnector_eq w ref c
  exact ⟨keeps_ensureConnector w ref c, .of_eq (by rw [hl])⟩

/-- **A deed that tells nobody.** -/
theorem works_deed {m : Deed σ} (hm : ¬ (Turn.deed m).Tells) (w : World σ) :
    Works w (m.run w) := by
  cases m with
  | tell ref reason r => exact absurd trivial hm
  | attach h e => exact Errands.works (.single (.attach h e w))
  | slot x d c r s =>
      obtain ⟨α, reply, he⟩ := make_errands (d := d) (c := c) (r := r) x s w
      exact (works_writeCall w _ reply).trans he.works
  | move m =>
      cases m with
      | send out e o => exact (errands_send out e o w).works
      | process p e =>
          obtain ⟨α, reply, he⟩ := errands_process p e w
          exact (works_writeCall w _ reply).trans he.works
      | complete i => exact absurd trivial hm
      | addListener l => exact ⟨keeps_addListener w l, .of_eq rfl⟩
      | bind ref c =>
          simp only [Deed.run, Move.run, Move.snd_bindConnector]
          exact works_ensureConnector w ref c
      | ensure ref c => exact works_ensureConnector w ref c
      | around a => exact .of_eq rfl rfl

/-- **A turn that tells nobody.** -/
theorem works_turn {t : Turn σ} (ht : ¬ t.Tells) (w : World σ) : Works w (t.run w) := by
  rcases t.run_cases w with ⟨m, rfl, ks, he⟩ | ⟨ks, n, he⟩
  · rw [he]
    exact (works_deed ht w).trans (.of_eq rfl rfl)
  · rw [he]
    exact .of_eq rfl rfl

/-! ### Hits -/

/-- **One turn**: listeners hear what it tells them. -/
theorem heard_turn (t : Turn σ) (w : World σ) :
    Heard ((t.tellings w).map Telling.notice) w (t.run w) := by
  rcases t.tells_cases with ⟨ref, reason, r, rfl⟩ | ⟨i, rfl⟩ | ht
  · exact heard_onReturnFor w ref reason r
  · obtain ⟨ps, h⟩ := (Move.complete i).does w
    have hm := h.heard
    rwa [← Telling.map_notice_ofNotice ((Move.complete i).gives w)] at hm
  · rw [t.tellings_eq_nil ht]
    exact (works_turn ht w).quiet.heard

/-- Any turns. -/
theorem heard_past (ts : List (Turn σ)) (w : World σ) : Heard (w.told ts) w (w.past ts) := by
  induction ts generalizing w with
  | nil => exact (Quiet.of_eq rfl rfl).heard
  | cons t ts ih =>
      rw [told_cons]
      exact (heard_turn t w).trans (ih (t.run w))

/-- A logging listener has counted what it was told. -/
theorem World.Heard.logging {ns : List Notice} {w w' : World σ} (h : Heard ns w w')
    {ref : ListenerRef} {hits : UInt64} (hl : w.listener? ref = some (.logging hits)) :
    w'.listener? ref = some (.logging (hits + UInt64.ofNat (ns.countP (·.1 = ref)))) := by
  obtain ⟨l', hl', g⟩ := h ref _ hl
  cases g with
  | count _ => exact hl'

/-! ### Warnings -/

/-- The warning that an entry is. -/
def Entry.warning? : Entry → Option Log
  | .log l => if l.level = .warn then some l else none
  | .span _ | .call _ | .note _ => none

theorem Entry.IsOfCourse.warning?_eq {e : Entry} (h : e.IsOfCourse) : e.warning? = none := by
  cases e with
  | log l => exact if_neg h.1
  | call c => rfl
  | note n => rfl
  | span s => rfl

namespace World

/-- The warning that telling a listener brings about: one of a logging listener, and else none. -/
def warned (w : World σ) (t : Telling) : List Log :=
  match w.listener? t.listener with
  | some (.logging _) => [t.warning]
  | some (.dispatching _) | none => []

theorem warned_congr {w w' : World σ} (h : w'.listeners = w.listeners) :
    w'.warned = w.warned := by
  funext t
  simp only [warned, listener?, h]

end World

theorem Dispatching.closing_warning (d : Dispatching σ) (reason : String) (r : Returned)
    (parent : TraceParent) (f : Option Failure) :
    (d.closing reason r parent f).filterMap Entry.warning? = [] := by
  cases f <;> rfl

/-- A dispatching listener warns of nothing, whatever becomes of its dispatch. -/
theorem Dispatching.onReturn_warned (d : Dispatching σ) (reason : String) (r : Returned)
    (w : World σ) : Adds Entry.warning? [] w (d.onReturn reason r w) := by
  obtain ⟨f, w', hends, he⟩ := d.onReturn_ends reason r ⟨default, default⟩ w
  obtain ⟨es, hx, hes⟩ := extracted_eq w r
  have hread : Wrote Entry.IsFault w (w.extracted r) := ⟨es, by rw [hx], hes⟩
  have hbefore := (hread.adds fun e ⟨_, he⟩ => by rw [he]; rfl).trans
    (hends.wrote.adds fun e he => he.warning?_eq)
  rw [he]
  exact hbefore.trans ⟨_, rfl, d.closing_warning reason r _ f⟩

/-- **Telling a listener** brings about the one warning, if that. -/
theorem warned_onReturnFor (w : World σ) (t : Telling) :
    Adds Entry.warning? (w.warned t) w (w.onReturnFor t.listener t.reason t.message) := by
  unfold onReturnFor warned
  cases w.listener? t.listener with
  | none => exact .of_eq rfl
  | some l =>
      cases l with
      | logging hits => exact adds_write (w.setListener t.listener _) (.log t.warning)
      | dispatching d => exact d.onReturn_warned t.reason t.message w

/-- The warning that a negative confirmation brings about by itself. -/
def Confirmation.warnings : Confirmation → List Log
  | .nack _ => [⟨.warn, "publisher confirm NACK", []⟩]
  | .ack _ | .notRequested | .failed => []

theorem warned_complete (w : World σ) (p : Pending) :
    Adds Entry.warning?
      (p.confirmation.warnings ++ (p.notice?.toList.map Telling.ofNotice).flatMap w.warned)
      w (w.complete p) := by
  obtain ⟨l, confirmation⟩ := p
  have nack : Adds Entry.warning? [⟨.warn, "publisher confirm NACK", []⟩] w
      (w.log .warn "publisher confirm NACK") := adds_write w _
  have failed : Adds Entry.warning? [] w (w.log .error "failure awaiting publisher confirm"
      [("error", .text brokerText)]) := adds_write w _
  have tell (v : World σ) (hv : v.listeners = w.listeners) (r : Returned) :
      Adds Entry.warning? (([(l, r)].map Telling.ofNotice).flatMap w.warned) v
        (v.onReturn l r) := by
    rw [List.map_singleton, List.flatMap_singleton, ← warned_congr hv]
    exact warned_onReturnFor v (.ofNotice (l, r))
  cases confirmation with
  | ack r =>
      cases r with
      | none => exact .of_eq rfl
      | some r => exact tell w rfl r
  | nack r =>
      cases r with
      | none => exact nack
      | some r => exact nack.trans (tell (w.log .warn "publisher confirm NACK") rfl r)
  | notRequested => exact .of_eq rfl
  | failed => exact failed

/-- The warnings of a turn that do not come from listeners: that of a negative confirmation. -/
def Turn.nacks (w : World σ) : Turn σ → List Log
  | .deed (.move (.complete i)) => (w.pending[i]?).toList.flatMap (·.confirmation.warnings)
  | _ => []

/-- The warnings of a turn. -/
def Turn.warnings (w : World σ) (t : Turn σ) : List Log :=
  t.nacks w ++ (t.tellings w).flatMap w.warned

/-- The warnings of a list of turns, in order. -/
def World.warnings (w : World σ) : List (Turn σ) → List Log
  | [] => []
  | t :: ts => t.warnings w ++ (t.run w).warnings ts

theorem Turn.nacks_eq_nil {t : Turn σ} (ht : ¬ t.Tells) (w : World σ) : t.nacks w = [] := by
  unfold nacks
  split
  · exact absurd trivial ht
  · rfl

/-- **One turn** leaves its warnings on record, and no others. -/
theorem warned_turn (t : Turn σ) (w : World σ) :
    Adds Entry.warning? (t.warnings w) w (t.run w) := by
  rcases t.tells_cases with ⟨ref, reason, r, rfl⟩ | ⟨i, rfl⟩ | ht
  · have h := warned_onReturnFor w ⟨ref, reason, r⟩
    rwa [← List.append_nil (w.warned _)] at h
  · simp only [Turn.warnings, Turn.nacks, Turn.tellings, Move.gives, Turn.run, Deed.run,
      Move.run, completeAt]
    cases w.pending[i]? with
    | none => exact .of_eq rfl
    | some p =>
        have hw : ({ w with pending := w.pending.eraseIdx i } : World σ).warned = w.warned :=
          warned_congr rfl
        have h := warned_complete { w with pending := w.pending.eraseIdx i } p
        rw [hw] at h
        simp only [Option.toList_some, List.flatMap_singleton, Option.bind_some]
        exact h
  · rw [Turn.warnings, t.nacks_eq_nil ht, t.tellings_eq_nil ht]
    exact (works_turn ht w).wrote.adds fun _ he => he.warning?_eq

/-- Any turns. -/
theorem warned_past (ts : List (Turn σ)) (w : World σ) :
    Adds Entry.warning? (w.warnings ts) w (w.past ts) := by
  induction ts generalizing w with
  | nil => exact .of_eq rfl
  | cons t ts ih => exact (warned_turn t w).trans (ih (t.run w))

/-- **A logging listener that is told** warns, and that is all that is written, but for the
warning of the confirmation if that is negative. -/
theorem record_of_told_logging {t : Turn σ} {w : World σ} {tl : Telling}
    (ht : tl ∈ t.tellings w) {hits : UInt64}
    (hl : w.listener? tl.listener = some (.logging hits)) :
    (t.run w).record = w.record ++ (t.nacks w ++ [tl.warning]).map Entry.log := by
  rcases t.tells_cases with ⟨ref, reason, r, rfl⟩ | ⟨i, rfl⟩ | hn
  · obtain rfl := List.mem_singleton.mp ht
    simp only [Turn.run, Deed.run, onReturnFor, hl]
    rfl
  · simp only [Turn.tellings, Move.gives] at ht
    simp only [Turn.nacks, Turn.run, Deed.run, Move.run, completeAt]
    rcases hi : w.pending[i]? with _ | ⟨ref, confirmation⟩
    · rw [hi] at ht
      exact absurd ht List.not_mem_nil
    · simp only [hi, Option.bind_some, List.mem_map, Option.mem_toList] at ht
      obtain ⟨n, hn, rfl⟩ := ht
      obtain ⟨r, hr, rfl⟩ := Option.map_eq_some_iff.mp hn
      have tell (v : World σ) (hv : v.listeners = w.listeners) : (v.onReturn ref r).record =
          v.record ++ [.log (Telling.ofNotice (ref, r)).warning] := by
        have hlv : v.listener? ref = some (.logging hits) := by
          rw [listener?, hv]
          exact hl
        rw [onReturn_logging hlv]
        rfl
      cases confirmation with
      | ack r' =>
          obtain rfl : r' = some r := hr
          exact tell { w with pending := w.pending.eraseIdx i } rfl
      | nack r' =>
          obtain rfl : r' = some r := hr
          have h := tell (({ w with pending := w.pending.eraseIdx i } : World σ).log .warn
            "publisher confirm NACK") rfl
          exact h.trans (List.append_assoc ..)
      | notRequested => cases hr
      | failed => cases hr
  · rw [t.tellings_eq_nil hn] at ht
    exact absurd ht List.not_mem_nil

/-! ### What is brought to a listener -/

/-- The notices for one listener. -/
def noticesFor (ref : ListenerRef) (ns : List Notice) : List Notice :=
  ns.filter (·.1 = ref)

theorem noticesFor_append (ref : ListenerRef) (ns ms : List Notice) :
    noticesFor ref (ns ++ ms) = noticesFor ref ns ++ noticesFor ref ms :=
  List.filter_append ..

/-- The notice of a confirmation is for the listener that it stands with. -/
theorem listener_of_mem_notices {ps : List Pending} {n : Notice} (hn : n ∈ notices ps) :
    ∃ p ∈ ps, n.1 = p.listener := by
  obtain ⟨p, hp, hpn⟩ := List.mem_filterMap.mp hn
  exact ⟨p, hp, fst_of_mem_notice (Option.mem_toList.mpr hpn)⟩

/-- Confirmations that stand with other listeners bring a listener no notices. -/
theorem noticesFor_eq_nil {ps : List Pending} {ref : ListenerRef}
    (h : ∀ p ∈ ps, p.listener ≠ ref) : noticesFor ref (notices ps) = [] := by
  refine List.filter_eq_nil_iff.mpr fun n hn => ?_
  obtain ⟨p, hp, hto⟩ := listener_of_mem_notices hn
  simpa [hto] using h p hp

/-- Confirmations that all stand with one listener bring notices for it only. -/
theorem noticesFor_notices {ps : List Pending} {told : ListenerRef}
    (h : ∀ p ∈ ps, p.listener = told) (ref : ListenerRef) :
    noticesFor ref (notices ps) = if told = ref then notices ps else [] := by
  split
  · rename_i e
    refine List.filter_eq_self.mpr fun n hn => decide_eq_true ?_
    obtain ⟨p, hp, hto⟩ := listener_of_mem_notices hn
    exact (hto.trans (h p hp)).trans e
  · rename_i hne
    exact noticesFor_eq_nil fun p hp => (h p hp).symm ▸ hne

namespace World

/-- Listeners are still there, and what is left pending stands with new ones. -/
structure Fresh (w w' : World σ) : Prop where
  keeps : ∀ ref l, w.listener? ref = some l → ∃ l', w'.listener? ref = some l'
  pending : ∃ ps, w'.pending = w.pending ++ ps ∧ ∀ p ∈ ps, w.listener? p.listener = none

theorem Fresh.of_keeps {w w' : World σ} (h : Keeps w w') (hp : w'.pending = w.pending) :
    Fresh w w' where
  keeps ref l hl := by
    obtain ⟨l', hl', -⟩ := h ref l hl
    exact ⟨l', hl'⟩
  pending := ⟨[], by rw [hp, List.append_nil], fun _ hm => absurd hm List.not_mem_nil⟩

/-- Nothing is brought to the listeners that are there. -/
theorem Fresh.noticesFor_pending {w w' : World σ} (h : Fresh w w') {ref : ListenerRef}
    {l : Listener σ} (hl : w.listener? ref = some l) :
    noticesFor ref (notices w'.pending) = noticesFor ref (notices w.pending) := by
  obtain ⟨ps, hps, hnew⟩ := h.pending
  rw [hps, notices_append, noticesFor_append]
  refine (congrArg _ (noticesFor_eq_nil fun p hp => ?_)).trans (List.append_nil _)
  rintro rfl
  rw [hnew p hp] at hl
  cases hl

end World

/-- What a handler sends on is left pending for the listener that it attaches. -/
theorem fresh_send_handler (h : HandlerRef) (next : Outbound σ) (e : Event) (o : PublishOptions)
    (w : World σ) : Fresh w ((Outbound.handler h next).send e o w).2 where
  keeps ref l hl := by
    obtain ⟨l', hl', -⟩ := binds_send (.handler h next) e o w ref l hl
    exact ⟨l', hl'⟩
  pending := by
    -- The listener of the options makes no difference, so let it be the new one.
    have ho : (Outbound.handler h next).send e o w =
        (Outbound.handler h next).send e { o with listener := some w.nextRef } w := by
      rw [send_handler, send_handler]
    obtain ⟨ps, hps, hp⟩ := pending_send (.handler h next) e { o with listener := some w.nextRef } w
    refine ⟨ps, ho ▸ hps, fun p hm => ?_⟩
    rcases hp p hm with hr | hn
    · rw [hr]
      exact List.getElem?_eq_none (Nat.le_refl _)
    · exact hn

/-- **What a returned message brings about** is brought to new listeners. -/
theorem lifts_fresh : Lifts (Fresh (σ := σ)) where
  frame hl hp := .of_keeps (.of_eq hl) hp
  trans := by
    intro w w₁ w' h₁ h₂
    obtain ⟨ps, hps, hnew⟩ := h₁.pending
    obtain ⟨qs, hqs, hnew'⟩ := h₂.pending
    refine ⟨fun ref l hl => ?_, ps ++ qs, by rw [hqs, hps, List.append_assoc], fun p hm => ?_⟩
    · obtain ⟨l₁, hl₁⟩ := h₁.keeps ref l hl
      exact h₂.keeps ref l₁ hl₁
    · rcases List.mem_append.mp hm with hm | hm
      · exact hnew p hm
      · cases hl : w.listener? p.listener with
        | none => rfl
        | some l =>
            obtain ⟨l₁, hl₁⟩ := h₁.keeps _ l hl
            cases (hnew' p hm).symm.trans hl₁
  count := by
    intro w ref hits h hits'
    refine ⟨fun ref' l hl => ?_, [], (List.append_nil _).symm,
      fun _ hm => absurd hm List.not_mem_nil⟩
    obtain ⟨l', hl', -⟩ := binds_count h hits' ref' l hl
    exact ⟨l', hl'⟩
  handler h next e w := fresh_send_handler h next e {} w

/-- Whether an outbound is a handler. -/
def Outbound.IsHandler : Outbound σ → Prop
  | .handler _ _ => True
  | .custom _ _ | .echo _ _ _ _ _ | .publisher _ _ => False

/-- What is sent straight to a publisher, or to what stands in for one, is left pending for the
listener of its options. -/
theorem pending_send_straight {out : Outbound σ} (hout : ¬ out.IsHandler) (e : Event)
    (o : PublishOptions) (w : World σ) :
    ∃ ps, (out.send e o w).2.pending = w.pending ++ ps ∧ ∀ p ∈ ps, p.listener = o.resolved := by
  cases out with
  | handler h next => exact absurd trivial hout
  | custom name f => exact ⟨[], (List.append_nil _).symm, fun _ hm => absurd hm List.not_mem_nil⟩
  | publisher channel c =>
      exact ⟨_, pending_publish channel c e o w, fun p hm => (listener_of_mem_posting hm).1⟩
  | echo name f c code text =>
      rcases snd_send_echo name f c code text e o w with he | ⟨e₁, he⟩
      · exact ⟨[], (congrArg World.pending he).trans (List.append_nil _).symm,
          fun _ hm => absurd hm List.not_mem_nil⟩
      · rw [he, giveBack_eq]
        refine ⟨(callOutbound name f e o w).2.echoing code text e₁ o, rfl, fun p hm => ?_⟩
        obtain ⟨ep, -, rfl⟩ := List.mem_map.mp hm
        rfl

/-- The notices that a turn brings up for a listener: one, if it tells it directly, and those of
what it leaves pending, if it sends an event with that listener in the options, and no handler puts
another in its place. -/
def Turn.brings (ref : ListenerRef) (w : World σ) : Turn σ → List Notice
  | .deed (.tell told _ r) => if told = ref then [(told, r)] else []
  | .deed (.move (.send (.handler _ _) _ _)) => []
  | .deed (.move (.send out e o)) =>
    if o.resolved = ref then notices ((out.send e o w).2.pending.drop w.pending.length) else []
  | _ => []

/-- The notices that a list of turns brings up for a listener. -/
def World.brought (w : World σ) (ref : ListenerRef) : List (Turn σ) → List Notice
  | [] => []
  | t :: ts => t.brings ref w ++ (t.run w).brought ref ts

theorem brings_send_straight {out : Outbound σ} (hout : ¬ out.IsHandler) (e : Event)
    (o : PublishOptions) (ref : ListenerRef) (w : World σ) :
    Turn.brings ref w (.deed (.move (.send out e o))) =
      if o.resolved = ref then notices ((out.send e o w).2.pending.drop w.pending.length)
      else [] := by
  cases out with
  | handler h next => exact absurd trivial hout
  | _ => rfl

/-- Turns that send an event straight to a publisher or to what stands in for one. -/
def Turn.Sends : Turn σ → Prop
  | .deed (.move (.send out _ _)) => ¬ out.IsHandler
  | _ => False

theorem Turn.exists_of_sends {t : Turn σ} (h : t.Sends) :
    ∃ out e o, t = .deed (.move (.send out e o)) ∧ ¬ out.IsHandler := by
  unfold Sends at h
  split at h
  · exact ⟨_, _, _, rfl, h⟩
  · exact h.elim

/-- Other turns, as long as they tell nobody, bring nothing up. -/
theorem Turn.brings_eq_nil {t : Turn σ} (ht : ¬ t.Tells) (hs : ¬ t.Sends) (ref : ListenerRef)
    (w : World σ) : t.brings ref w = [] := by
  unfold brings
  split
  · exact absurd trivial ht
  · rfl
  · rename_i out e o hout
    cases out with
    | handler h next => exact absurd rfl (hout h next)
    | _ => exact absurd id hs
  · rfl

/-- Such a deed leaves nothing pending for those who are there. -/
theorem fresh_deed {m : Deed σ} (hm : ¬ (Turn.deed m).Tells) (hs : ¬ (Turn.deed m).Sends)
    (w : World σ) : Fresh w (m.run w) := by
  have hkeeps := (works_deed hm w).keeps
  cases m with
  | tell ref reason r => exact absurd trivial hm
  | attach h e => exact .of_keeps hkeeps (attach_adds h e w).2
  | slot x d c r s => exact lifts_fresh.make x d c r s w
  | move m =>
      cases m with
      | send out e o =>
          cases out with
          | handler h next => exact fresh_send_handler h next e o w
          | _ => exact absurd id hs
      | process p e => exact lifts_fresh.process p e w
      | complete i => exact absurd trivial hm
      | addListener l => exact .of_keeps hkeeps rfl
      | bind ref c =>
          obtain ⟨ls, hl⟩ := ensureConnector_eq w ref c
          refine .of_keeps hkeeps ?_
          simp only [Deed.run, Move.run, Move.snd_bindConnector, hl]
      | ensure ref c =>
          obtain ⟨ls, hl⟩ := ensureConnector_eq w ref c
          refine .of_keeps hkeeps ?_
          simp only [Deed.run, Move.run, hl]
      | around a => exact .of_keeps hkeeps rfl

/-- Nor does such a turn. -/
theorem fresh_turn {t : Turn σ} (ht : ¬ t.Tells) (hs : ¬ t.Sends) (w : World σ) :
    Fresh w (t.run w) := by
  rcases t.run_cases w with ⟨m, rfl, ks, he⟩ | ⟨ks, n, he⟩
  · rw [he]
    exact lifts_fresh.trans (fresh_deed ht hs w) (lifts_fresh.frame rfl rfl)
  · rw [he]
    exact lifts_fresh.frame rfl rfl

/-- **One turn.**  For a listener that is there, what it is told and what is then pending for it
is what was pending for it and what the turn brings. -/
theorem conserved_turn (t : Turn σ) {w : World σ} {ref : ListenerRef} {l : Listener σ}
    (hl : w.listener? ref = some l) :
    noticesFor ref ((t.tellings w).map Telling.notice ++ notices (t.run w).pending) ~
      noticesFor ref (notices w.pending) ++ t.brings ref w := by
  rcases t.tells_cases with ⟨told, reason, r, rfl⟩ | ⟨i, rfl⟩ | ht
  · have hp := (lifts_fresh.onReturnFor told reason r w).noticesFor_pending hl
    have hb : noticesFor ref [(told, r)] = Turn.brings ref w (.deed (.tell told reason r)) := by
      simp only [noticesFor, Turn.brings, List.filter_cons, List.filter_nil, decide_eq_true_eq]
    rw [noticesFor_append]
    exact (List.Perm.of_eq (congrArg₂ _ hb hp)).trans List.perm_append_comm
  · simp only [Turn.tellings, Telling.map_notice_ofNotice, Move.gives, Turn.run, Deed.run,
      Move.run, completeAt]
    rcases hi : w.pending[i]? with _ | p
    · exact List.Perm.of_eq (List.append_nil _).symm
    · have hl' : ({ w with pending := w.pending.eraseIdx i } : World σ).listener? ref = some l :=
        hl
      have hp := (lifts_fresh.complete p _).noticesFor_pending hl'
      have hbefore := (notices_perm hi).filter (·.1 = ref)
      rw [List.filter_append] at hbefore
      rw [noticesFor_append]
      exact ((List.Perm.of_eq (congrArg _ hp)).trans hbefore).trans
        (List.Perm.of_eq (List.append_nil _).symm)
  · by_cases hs : t.Sends
    · obtain ⟨out, e, o, rfl, hout⟩ := t.exists_of_sends hs
      obtain ⟨ps, hps, hto⟩ := pending_send_straight hout e o w
      have hrun : ((Turn.deed (.move (.send out e o))).run w).pending = w.pending ++ ps := hps
      rw [Turn.tellings_eq_nil ht, hrun, brings_send_straight hout, hps, List.drop_left,
        ← noticesFor_notices hto, ← noticesFor_append, ← notices_append]
      exact .refl _
    · rw [t.tellings_eq_nil ht, t.brings_eq_nil ht hs, List.map_nil, List.nil_append,
        List.append_nil, (fresh_turn ht hs w).noticesFor_pending hl]

/-- **Any turns.** -/
theorem conserved_past (ts : List (Turn σ)) {w : World σ} {ref : ListenerRef} {l : Listener σ}
    (hl : w.listener? ref = some l) :
    noticesFor ref (w.told ts ++ notices (w.past ts).pending) ~
      noticesFor ref (notices w.pending) ++ w.brought ref ts := by
  induction ts generalizing w l with
  | nil => exact List.Perm.of_eq (List.append_nil _).symm
  | cons t ts ih =>
      obtain ⟨l', hl', -⟩ := heard_turn t w ref l hl
      have hrest := ih hl'
      have hturn := conserved_turn t hl
      simp only [noticesFor_append] at hrest hturn ⊢
      rw [told_cons, noticesFor_append]
      calc noticesFor ref ((t.tellings w).map Telling.notice) ++
              noticesFor ref ((t.run w).told ts) ++
              noticesFor ref (notices ((t.run w).past ts).pending)
          = noticesFor ref ((t.tellings w).map Telling.notice) ++
              (noticesFor ref ((t.run w).told ts) ++
                noticesFor ref (notices ((t.run w).past ts).pending)) := List.append_assoc ..
        _ ~ noticesFor ref ((t.tellings w).map Telling.notice) ++
              (noticesFor ref (notices (t.run w).pending) ++ (t.run w).brought ref ts) :=
            hrest.append_left _
        _ = noticesFor ref ((t.tellings w).map Telling.notice) ++
              noticesFor ref (notices (t.run w).pending) ++ (t.run w).brought ref ts :=
            (List.append_assoc ..).symm
        _ ~ noticesFor ref (notices w.pending) ++ t.brings ref w ++ (t.run w).brought ref ts :=
            hturn.append_right _
        _ = noticesFor ref (notices w.pending) ++ w.brought ref (t :: ts) :=
            List.append_assoc ..

/-! ### The listener of the process -/

/-- Options resolve to the listener of the process when they name none, or name it. -/
theorem PublishOptions.resolved_eq_shared_iff (o : PublishOptions) :
    o.resolved = .shared ↔ o.listener = none ∨ o.listener = some .shared := by
  unfold resolved
  cases o.listener with
  | none => simp
  | some ref => simp

/-- What is brought to the listener of the process. -/
theorem brings_shared {t : Turn σ} {w : World σ} (h : t.brings .shared w ≠ []) :
    (∃ reason r, t = .deed (.tell .shared reason r)) ∨
      ∃ out e o, t = .deed (.move (.send out e o)) ∧ ¬ out.IsHandler ∧
        (o.listener = none ∨ o.listener = some .shared) := by
  by_cases hs : t.Sends
  · obtain ⟨out, e, o, rfl, hout⟩ := t.exists_of_sends hs
    rw [brings_send_straight hout] at h
    split at h
    · rename_i ho
      exact .inr ⟨out, e, o, rfl, hout, o.resolved_eq_shared_iff.mp ho⟩
    · exact absurd rfl h
  · rcases t.tells_cases with ⟨told, reason, r, rfl⟩ | ⟨i, rfl⟩ | ht
    · simp only [Turn.brings] at h
      split at h
      · rename_i e
        exact .inl ⟨reason, r, by rw [e]⟩
      · exact absurd rfl h
    · exact absurd rfl h
    · exact absurd (t.brings_eq_nil ht hs _ w) h

/-- **Logging listeners count the returned messages that nobody handles.**  Over any turns, each
counts just what it is told, modulo 2^64; and what it is told, together with what is still pending
for it, is what was pending for it and what the turns brought.  To the listener of the process
they bring what it is told directly, and what comes of the publishes that reached a publisher
without a listener or with this one.  The warnings on record are one for each message that a
logging listener was told, and one for each negative confirmation, which nobody counts.  A turn
that tells a logging listener writes nothing but its warnings; a dispatching one warns of nothing,
and leaves the counts alone, bound or not and whatever its dispatch comes to. -/
theorem unhandled_returns_counted (w : World σ) (ts : List (Turn σ)) :
    let v := w.past ts
    (∀ ref hits, w.listener? ref = some (.logging hits) → v.listener? ref =
      some (.logging (hits + UInt64.ofNat ((noticesFor ref (w.told ts)).length)))) ∧
    (∀ ref l, w.listener? ref = some l →
      noticesFor ref (w.told ts ++ notices v.pending) ~
        noticesFor ref (notices w.pending) ++ w.brought ref ts) ∧
    (∀ t : Turn σ, t.brings .shared v ≠ [] → (∃ reason r, t = .deed (.tell .shared reason r)) ∨
      ∃ out e o, t = .deed (.move (.send out e o)) ∧ ¬ out.IsHandler ∧
        (o.listener = none ∨ o.listener = some .shared)) ∧
    Adds Entry.warning? (w.warnings ts) w v ∧
    (∀ t : Turn σ, ∀ tl ∈ t.tellings v, ∀ hits,
      v.listener? tl.listener = some (.logging hits) →
        (t.run v).record = v.record ++ (t.nacks v ++ [tl.warning]).map Entry.log) ∧
    ∀ ref d reason r, v.listener? ref = some (.dispatching d) →
      Adds Entry.warning? [] v (v.onReturnFor ref reason r) ∧
        ∀ ref' hits, v.listener? ref' = some (.logging hits) →
          (v.onReturnFor ref reason r).listener? ref' = some (.logging hits) := by
  intro v
  refine ⟨fun ref hits hl => ?_, fun ref l hl => conserved_past ts hl,
    fun t ht => brings_shared ht, warned_past ts w,
    fun t tl ht hits hl => record_of_told_logging ht hl, fun ref d reason r hl => ⟨?_, ?_⟩⟩
  · rw [noticesFor, ← List.countP_eq_length_filter]
    exact (heard_past ts w).logging hl
  · have h := warned_onReturnFor v ⟨ref, reason, r⟩
    simpa only [warned, hl] using h
  · intro ref' hits hl'
    have hne : ref ≠ ref' := by
      rintro rfl
      cases hl.symm.trans hl'
    have h := (heard_onReturnFor v ref reason r).logging hl'
    rw [List.countP_singleton, if_neg (by simpa using hne)] at h
    rw [h]
    simp

/-- A logging listener of the application that has counted as far as it can, one for returned
messages without a connector, and a broker that gives the next three messages back. -/
def crowded : World Unit :=
  { returning with
    listeners := [.logging 0, .logging 0xFFFFFFFFFFFFFFFF, .dispatching { chain := ⟨1, []⟩ }]
    brokers := [{ replies := [.returnAck {}, .returnNack {}, .returnAck {}] }] }

/-- Three publishes, without a listener, with the application's own, and behind a handler; then
the listener without a connector is told of a message, and the confirmations come in, the last
one first.  The listener of the process has counted one, and the other begins again at zero. -/
theorem unhandled_returns_counted_crowded :
    let out : Outbound Unit := .publisher ⟨0, 1⟩ plain
    let ts : List (Turn Unit) :=
      [.deed (.move (.send out laden {})),
        .deed (.move (.send out laden { listener := some ⟨1⟩ })),
        .deed (.move (.send (.handler ⟨0⟩ out) laden {})), .deed (.tell ⟨2⟩ "direct" default),
        .deed (.move (.complete 2)), .deed (.move (.complete 1)), .deed (.move (.complete 0))]
    let v := crowded.past ts
    v.listener? .shared = some (.logging 1) ∧ v.listener? ⟨1⟩ = some (.logging 0) ∧
      (crowded.brought .shared ts).length = 1 ∧
      Adds Entry.warning? (crowded.warnings ts) crowded v ∧
      (crowded.warnings ts).map (·.fields) =
        [[], [("reply_code", .number 312)], [("reply_code", .number 312)]] := by
  intro out ts v
  obtain ⟨hhits, -, -, hwarned, -, -⟩ := unhandled_returns_counted crowded ts
  have hshared : (noticesFor .shared (crowded.told ts)).length = 1 := by decide +kernel
  have hown : (noticesFor ⟨1⟩ (crowded.told ts)).length = 1 := by decide +kernel
  have hs := hhits .shared 0 rfl
  have ho := hhits ⟨1⟩ 0xFFFFFFFFFFFFFFFF rfl
  rw [hshared] at hs
  rw [hown] at ho
  exact ⟨hs, ho, by decide +kernel, hwarned, by decide +kernel⟩

end AmqpReturns
