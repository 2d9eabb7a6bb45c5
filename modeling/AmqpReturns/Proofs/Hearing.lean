import AmqpReturns.Proofs.Containment

/-!
# Proofs — who hears, and what is left pending

Three things follow the world through a change of it:

* `World.Quiet`: no listener was told of a returned message.  None counts one more, and none has
  left its warning or its span on the record.
* `World.Heard`: how many times each listener was told.
* `World.Posts`: which confirmations were left pending, each by the publish it belongs to.

Errands are quiet and so is a dispatch, up to the log and the span at its end; what they leave
pending is what their publishes leave.
-/

namespace AmqpReturns

open World

variable {σ : Type}

/-- Entries that only a listener writes, when it is told of a returned message. -/
def Entry.IsHearing : Entry → Prop
  | .log l => l.level = .warn ∧ l.fields ≠ []
  | .span _ => True
  | .call _ | .note _ => False

theorem Entry.IsOfCourse.not_isHearing {e : Entry} (h : e.IsOfCourse) : ¬ e.IsHearing := by
  cases e with
  | log l => exact fun hl => h.1 hl.1
  | call c => exact id
  | note n => exact id
  | span s => exact h.elim

/-- What becomes of a listener that is told `n` times: a logging one counts them, and a
dispatching one has at most got its first connector. -/
inductive Listener.Hears (n : Nat) : Listener σ → Listener σ → Prop where
  | count (hits : UInt64) : Hears n (.logging hits) (.logging (hits + UInt64.ofNat n))
  | grow {d : Dispatching σ} {l : Listener σ} (h : (Listener.dispatching d).Grows l) :
      Hears n (.dispatching d) l

theorem Listener.Grows.hears {l l' : Listener σ} (h : l.Grows l') : l.Hears 0 l' := by
  cases h with
  | refl =>
      cases l with
      | logging hits => simpa using Listener.Hears.count (σ := σ) (n := 0) hits
      | dispatching d => exact .grow (.refl _)
  | bind h c => exact .grow (.bind h c)

theorem Listener.Hears.trans {n m : Nat} {l l₁ l' : Listener σ} (h₁ : l.Hears n l₁)
    (h₂ : l₁.Hears m l') : l.Hears (n + m) l' := by
  cases h₁ with
  | count hits =>
      cases h₂ with
      | count _ =>
          -- Hits are counted modulo 2^64, and so is their sum.
          rw [UInt64.add_assoc, ← UInt64.ofNat_add]
          exact .count hits
  | grow g =>
      cases g with
      | refl =>
          cases h₂ with
          | grow g' => exact .grow g'
      | bind h c =>
          cases h₂ with
          | grow g' => exact .grow ((Listener.Grows.bind h c).trans g')

/-- A listener and a message to tell it of. -/
abbrev Notice := ListenerRef × Returned

namespace World

/-! ### Quiet -/

/-- No listener was told of anything. -/
structure Quiet (w w' : World σ) : Prop where
  keeps : Keeps w w'
  wrote : Wrote (fun e => ¬ e.IsHearing) w w'

theorem Quiet.of_eq {w w' : World σ} (hl : w'.listeners = w.listeners)
    (hr : w'.record = w.record) : Quiet w w' :=
  ⟨.of_eq hl, .of_eq hr⟩

theorem Quiet.trans {w w₁ w' : World σ} (h₁ : Quiet w w₁) (h₂ : Quiet w₁ w') : Quiet w w' :=
  ⟨h₁.keeps.trans h₂.keeps, h₁.wrote.trans h₂.wrote⟩

theorem quiet_log (w : World σ) (level : Level) (message : String)
    (fields : List (String × LogValue)) (h : ¬ (level = .warn ∧ fields ≠ [])) :
    Quiet w (w.log level message fields) :=
  ⟨.of_eq rfl, wrote_write w h⟩

theorem quiet_writeCall {α : Type} (w : World σ) (c : Call) (r : Reply σ α) :
    Quiet w (w.writeCall c r) :=
  ⟨.of_eq rfl, wrote_writeCall w c r id fun _ => id⟩

/-! ### Heard -/

/-- Each listener is in its place and was told the messages that stand beside its name. -/
def Heard (told : List Notice) (w w' : World σ) : Prop :=
  ∀ ref l, w.listener? ref = some l →
    ∃ l', w'.listener? ref = some l' ∧ l.Hears (told.countP (·.1 = ref)) l'

theorem Quiet.heard {w w' : World σ} (h : Quiet w w') : Heard [] w w' := by
  intro ref l hl
  obtain ⟨l', hl', g⟩ := h.keeps ref l hl
  exact ⟨l', hl', g.hears⟩

theorem Heard.trans {ts us : List Notice} {w w₁ w' : World σ} (h₁ : Heard ts w w₁)
    (h₂ : Heard us w₁ w') : Heard (ts ++ us) w w' := by
  intro ref l hl
  obtain ⟨l₁, hl₁, g₁⟩ := h₁ ref l hl
  obtain ⟨l', hl', g₂⟩ := h₂ ref l₁ hl₁
  refine ⟨l', hl', ?_⟩
  rw [List.countP_append]
  exact g₁.trans g₂

/-! ### Posts -/

/-- The confirmations left pending from `w` to `w'`, in the order of the publishes.  Each stands
with the listener that its publish resolved. -/
inductive Posts : World σ → List Pending → World σ → Prop where
  | none {w w' : World σ} (h : w'.pending = w.pending) : Posts w [] w'
  | publish (channel : ChannelRef) (c : Connector σ) (e : Event) (o : PublishOptions)
      (w : World σ) : Posts w (w.posting channel e o) (publish channel c e o w).2
  | giveBack (c : Connector σ) (code : UInt16) (text : String) (e : Event) (o : PublishOptions)
      (w : World σ) : Posts w (w.echoing code text e o) (giveBack c code text e o w).2
  | trans {w w₁ w' : World σ} {ps qs : List Pending} (h₁ : Posts w ps w₁)
      (h₂ : Posts w₁ qs w') : Posts w (ps ++ qs) w'

/-- What is left pending stands behind what was. -/
theorem Posts.pending {w w' : World σ} {ps : List Pending} (h : Posts w ps w') :
    w'.pending = w.pending ++ ps := by
  induction h with
  | none h => rw [h, List.append_nil]
  | publish channel c e o w => exact pending_publish channel c e o w
  | giveBack c code text e o w => rw [giveBack_eq]
  | trans _ _ ih₁ ih₂ => rw [ih₂, ih₁, List.append_assoc]

end World

/-! ### Errands and dispatches -/

theorem Errand.quiet {w w' : World σ} (h : Errand w w') : Quiet w w' :=
  ⟨h.keeps, h.wrote.mono fun _ he => he.isOfCourse.not_isHearing⟩

theorem Errand.posts {w w' : World σ} (h : Errand w w') : ∃ ps, Posts w ps w' := by
  cases h with
  | draw w => exact ⟨[], .none rfl⟩
  | attach h e w =>
      obtain ⟨hs, n, hu⟩ := useChain_eq w h
      rw [attach_eq, hu]
      exact ⟨[], .none rfl⟩
  | call name f e o w => exact ⟨[], .none rfl⟩
  | publish channel c e o w => exact ⟨_, .publish channel c e o w⟩
  | giveBack c code text e o w => exact ⟨_, .giveBack c code text e o w⟩
  | reject e requeue w =>
      obtain ⟨bs, rs, es, he, -⟩ := reject_eq e requeue w
      rw [he]
      exact ⟨[], .none rfl⟩

theorem Errands.quiet {w w' : World σ} (h : Errands w w') : Quiet w w' :=
  h.lift (fun _ => .of_eq rfl rfl) (fun h₁ h₂ => h₁.trans h₂) fun h => h.quiet

theorem Errands.posts {w w' : World σ} (h : Errands w w') : ∃ ps, Posts w ps w' :=
  h.lift (fun _ => ⟨[], .none rfl⟩) (fun ⟨_, h₁⟩ ⟨_, h₂⟩ => ⟨_, h₁.trans h₂⟩) fun h => h.posts

section

variable {d : Dispatching σ} {c : Connector σ} {r : Returned} {w w' : World σ} {s : Held}
  {xs : List (Slot σ)} {cs : List Call} {out : Except Halt Held} {f : Option Failure}

theorem Course.posts (h : Course d c r w s xs cs out w') : ∃ ps, Posts w ps w' :=
  h.lift (fun _ => ⟨[], .none rfl⟩) (fun ⟨_, h₁⟩ ⟨_, h₂⟩ => ⟨_, h₁.trans h₂⟩)
    (fun _ _ _ _ => ⟨[], .none rfl⟩) fun h => h.posts

theorem Dispatching.Ends.posts (h : d.Ends r s w f w') : ∃ ps, Posts w ps w' :=
  h.lift (R := fun w w' => ∃ ps, Posts w ps w') ⟨[], .none rfl⟩ fun hcourse => hcourse.posts

end

/-! ### Telling a listener -/

namespace World

section

variable {w : World σ} {ref : ListenerRef}

theorem onReturn_nobody (h : w.listener? ref = none) (r : Returned) : w.onReturn ref r = w := by
  rw [onReturn, onReturnFor, h]

theorem onReturn_logging {hits : UInt64} (h : w.listener? ref = some (.logging hits))
    (r : Returned) :
    w.onReturn ref r = (w.setListener ref (.logging (hits + 1))).log .warn
      (r.reason ++ ": " ++ r.summary) [("reply_code", .number r.replyCode.toNat)] := by
  rw [onReturn, onReturnFor, h]

theorem onReturn_dispatching {d : Dispatching σ} (h : w.listener? ref = some (.dispatching d))
    (r : Returned) : w.onReturn ref r = d.onReturn r.reason r w := by
  rw [onReturn, onReturnFor, h]

end

/-- Telling a dispatching listener changes listeners as errands do, itself included. -/
theorem keeps_dispatching (d : Dispatching σ) (reason : String) (r : Returned) (w : World σ) :
    Keeps w (d.onReturn reason r w) := by
  obtain ⟨f, w', hends, he⟩ := d.onReturn_ends reason r ⟨default, default⟩ w
  rw [he]
  exact ((keeps_extracted w r).trans hends.keeps).trans (.of_eq rfl)

theorem posts_dispatching (d : Dispatching σ) (r : Returned) (w : World σ) :
    ∃ ps, Posts w ps (d.onReturn r.reason r w) := by
  obtain ⟨f, w', hends, he⟩ := d.onReturn_ends r.reason r ⟨default, default⟩ w
  obtain ⟨es, hx, -⟩ := extracted_eq w r
  obtain ⟨ps, hps⟩ := hends.posts
  have hread : Posts w [] (w.extracted r) := .none (by rw [hx])
  rw [he]
  exact ⟨_, (hread.trans hps).trans (.none rfl)⟩

/-- **Telling a listener once**, with whatever reason. -/
theorem heard_onReturnFor (w : World σ) (told : ListenerRef) (reason : String) (r : Returned) :
    Heard [(told, r)] w (w.onReturnFor told reason r) := by
  intro ref l hl
  have other (hne : told ≠ ref) : [(told, r)].countP (·.1 = ref) = 0 := by
    rw [List.countP_singleton, if_neg (by simpa using hne)]
  have same (he : told = ref) : [(told, r)].countP (·.1 = ref) = 1 := by
    rw [List.countP_singleton, if_pos (by simpa using he)]
  cases ht : w.listener? told with
  | none =>
      have hne : told ≠ ref := fun e => by rw [e, hl] at ht; cases ht
      rw [onReturnFor, ht, other hne]
      exact ⟨l, hl, (Listener.Grows.refl l).hears⟩
  | some lt =>
      cases lt with
      | logging hits =>
          have hset : (w.onReturnFor told reason r).listener? ref =
              (w.setListener told (.logging (hits + 1))).listener? ref := by
            rw [onReturnFor, ht]
            rfl
          rw [hset, listener?_setListener]
          by_cases e : told = ref
          · -- It is the one that was told, and it counts one more.
            rw [same e]
            subst e
            obtain rfl := Option.some.inj (ht.symm.trans hl)
            rw [if_pos rfl, ht]
            exact ⟨_, rfl, .count hits⟩
          · rw [other e, if_neg (Ne.symm e)]
            exact ⟨l, hl, (Listener.Grows.refl l).hears⟩
      | dispatching d =>
          obtain ⟨l', hl', g⟩ := keeps_dispatching d reason r w ref l hl
          rw [onReturnFor, ht]
          refine ⟨l', hl', ?_⟩
          by_cases e : told = ref
          · subst e
            obtain rfl := Option.some.inj (ht.symm.trans hl)
            exact .grow g
          · rw [other e]
            exact g.hears

theorem heard_onReturn (w : World σ) (t : Notice) : Heard [t] w (w.onReturn t.1 t.2) :=
  heard_onReturnFor w t.1 t.2.reason t.2

theorem posts_onReturn (w : World σ) (t : Notice) : ∃ ps, Posts w ps (w.onReturn t.1 t.2) := by
  obtain ⟨ref, r⟩ := t
  cases hl : w.listener? ref with
  | none =>
      rw [onReturn_nobody hl]
      exact ⟨[], .none rfl⟩
  | some l =>
      cases l with
      | logging hits =>
          rw [onReturn_logging hl]
          exact ⟨[], .none rfl⟩
      | dispatching d =>
          rw [onReturn_dispatching hl]
          exact posts_dispatching d r w

/-- Tells listeners of messages, one after the other. -/
def tellAll (w : World σ) (told : List Notice) : World σ :=
  told.foldl (fun w t => w.onReturn t.1 t.2) w

theorem heard_tellAll (told : List Notice) (w : World σ) : Heard told w (w.tellAll told) := by
  induction told generalizing w with
  | nil => exact (Quiet.of_eq rfl rfl).heard
  | cons t ts ih => exact (heard_onReturn w t).trans (ih (w.onReturn t.1 t.2))

theorem posts_tellAll (told : List Notice) (w : World σ) :
    ∃ ps, Posts w ps (w.tellAll told) := by
  induction told generalizing w with
  | nil => exact ⟨[], .none rfl⟩
  | cons t ts ih =>
      obtain ⟨ps, hps⟩ := posts_onReturn w t
      obtain ⟨qs, hqs⟩ := ih (w.onReturn t.1 t.2)
      exact ⟨_, hps.trans hqs⟩

end World

end AmqpReturns
