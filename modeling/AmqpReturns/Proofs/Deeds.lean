import AmqpReturns.Proofs.RoundTrip

/-!
# Proofs — deeds, and what a returned message brings about

A `Deed` is a move, or a piece of work that may come up between two moves: a listener is told
directly, a handler gives an event its listener, a dispatch that is under way makes one more call.
Deeds come in any order (`World.following`), so a dispatch may be left between any two of its
calls while other deeds are done.

Of the listeners and confirmations that were there, a returned message changes next to nothing.
A relation between worlds that holds where these stay as they are, where a logging listener
counts, where a handler sends an event on, and of one such thing after another (`World.Lifts`)
holds of all that a returned message brings about (`Lifts.onReturnFor`, `Lifts.complete`).
-/

namespace AmqpReturns

open World

variable {σ : Type}

/-! ### What a returned message brings about -/

/-- `R` holds wherever listeners and waiting confirmations stay as they are, where a logging
listener counts, where a handler sends an event on, and of one such thing after another. -/
structure World.Lifts (R : World σ → World σ → Prop) : Prop where
  frame {w w' : World σ} (hl : w'.listeners = w.listeners) (hp : w'.pending = w.pending) : R w w'
  trans {w w₁ w' : World σ} (h₁ : R w w₁) (h₂ : R w₁ w') : R w w'
  count {w : World σ} {ref : ListenerRef} {hits : UInt64}
    (h : w.listener? ref = some (.logging hits)) (hits' : UInt64) :
    R w (w.setListener ref (.logging hits'))
  handler (h : HandlerRef) (next : Outbound σ) (e : Event) (w : World σ) :
    R w ((Outbound.handler h next).send e {} w).2

namespace World.Lifts

variable {R : World σ → World σ → Prop} (hR : Lifts R)

include hR

theorem process (p : Processor σ) (e : Event) (w : World σ) : R w (p.process e w).2 := by
  cases p with
  | service s => exact hR.frame rfl rfl
  | rejecter requeue =>
      obtain ⟨bs, rs, es, he, -⟩ :=
        reject_eq e requeue (w.write (.call (.process (.rejecter requeue) e)))
      rw [process_rejecter, he]
      exact hR.frame rfl rfl
  | handler h next =>
      have hcall : R w (w.write (.call (.process (.handler h) e))) := hR.frame rfl rfl
      rw [process_handler]
      exact hR.trans hcall (hR.handler h next e _)

theorem make (x : Slot σ) (d : Dispatching σ) (c : Connector σ) (r : Returned) (s : Held)
    (w : World σ) : R w (x.make d c r s w).2 := by
  by_cases hx : ∃ p, x = .process p
  · obtain ⟨p, rfl⟩ := hx
    rw [process_make]
    exact hR.process p s.event w
  · obtain ⟨outside, es, n, hw⟩ := make_frame (d := d) (c := c) (r := r) (not_exists.mp hx) s w
    rw [hw]
    exact hR.frame rfl rfl

theorem course {d : Dispatching σ} {c : Connector σ} {r : Returned} {w w' : World σ} {s : Held}
    {xs : List (Slot σ)} {cs : List Call} {out : Except Halt Held}
    (h : Course d c r w s xs cs out w') : R w w' := by
  induction h with
  | done w => exact hR.frame rfl rfl
  | @next w _ _ s _ x _ _ _ h _ ih =>
      have hx := hR.make x d c r s w
      rw [h] at hx
      exact hR.trans hx ih
  | @halt w _ s x _ _ h =>
      have hx := hR.make x d c r s w
      rw [h] at hx
      exact hx

theorem dispatching (d : Dispatching σ) (reason : String) (r : Returned) (w : World σ) :
    R w (d.onReturn reason r w) := by
  obtain ⟨f, w', hends, he⟩ := d.onReturn_ends reason r ⟨default, default⟩ w
  obtain ⟨es, hx, -⟩ := extracted_eq w r
  have hread : R w (w.extracted r) := by
    rw [hx]
    exact hR.frame rfl rfl
  have hdispatch : R (w.extracted r) w' :=
    hends.lift (hR.frame rfl rfl) fun hcourse => hR.course hcourse
  rw [he]
  exact hR.trans (hR.trans hread hdispatch) (hR.frame rfl rfl)

/-- Telling a listener, with a reason. -/
theorem onReturnFor (ref : ListenerRef) (reason : String) (r : Returned) (w : World σ) :
    R w (w.onReturnFor ref reason r) := by
  unfold World.onReturnFor
  split
  · exact hR.frame rfl rfl
  · rename_i hits h
    exact hR.trans (hR.count h (hits + 1)) (hR.frame rfl rfl)
  · exact hR.dispatching _ reason r w

/-- Handling a confirmation that no longer waits. -/
theorem complete (p : Pending) (w : World σ) : R w (w.complete p) := by
  have tell (w : World σ) (r : Option Returned) : R w (World.complete.tell p w r) := by
    cases r with
    | none => exact hR.frame rfl rfl
    | some r => exact hR.onReturnFor p.listener r.reason r w
  unfold World.complete
  split
  · exact hR.frame rfl rfl
  · exact hR.frame rfl rfl
  · exact tell w _
  · rename_i r _
    have nack : R w (w.log .warn "publisher confirm NACK") := hR.frame rfl rfl
    exact hR.trans nack (tell _ r)

end World.Lifts

/-! ### Deeds -/

/-- A move, or a piece of work that may come up between two moves. -/
inductive Deed (σ : Type) where
  | move (m : Move σ)
  /-- A listener is told directly, with a reason. -/
  | tell (ref : ListenerRef) (reason : String) (r : Returned)
  /-- A handler gives an event its listener, and has not sent it on yet. -/
  | attach (h : HandlerRef) (e : Event)
  /-- A dispatch that is under way makes a call, with what it has in hand. -/
  | slot (x : Slot σ) (d : Dispatching σ) (c : Connector σ) (r : Returned) (s : Held)

/-- The world after a deed. -/
def Deed.run : Deed σ → World σ → World σ
  | .move m, w => m.run w
  | .tell ref reason r, w => w.onReturnFor ref reason r
  | .attach h e, w => (AmqpReturns.attach h e w).2
  | .slot x d c r s, w => (x.make d c r s w).2

/-- The world after a list of deeds. -/
def World.following (w : World σ) : List (Deed σ) → World σ
  | [] => w
  | m :: ms => (m.run w).following ms

/-- The world after an attachment has the new listener behind all others, and the same
confirmations wait. -/
theorem attach_adds (h : HandlerRef) (e : Event) (w : World σ) :
    (attach h e w).2.listeners = (w.addListener (.dispatching (w.attached h e))).2.listeners ∧
      (attach h e w).2.pending = w.pending := by
  obtain ⟨hs, n, hu⟩ := useChain_eq w h
  have hl : (w.useChain h).2.listeners = w.listeners := by rw [hu]
  have hp : (w.useChain h).2.pending = w.pending := by rw [hu]
  rw [attach_eq]
  exact ⟨by simp only [log, write, addListener, hl, attached], hp⟩

end AmqpReturns
