import AmqpReturns.Proofs.Chains
import AmqpReturns.Proofs.Readiness

/-!
# Proofs — handlers behind handlers

An event may pass several handlers before it comes to the outbound behind them all.  Each gives it
a listener of its own, over the one it came with, so what goes through is the listener of the
innermost handler, and all else is passed on as it was (`send_behind`).  A listener that was given
up is out of the game: the publish leaves it as it is (`listener?_send_of_ne`), no confirmation
stands with it (`pending_send`), and those that stand with another are no affair of its
(`listener?_complete_of_ne`).
-/

namespace AmqpReturns

open World

variable {σ : Type}

/-! ### Passing several handlers -/

/-- An outbound behind handlers, of which the first is the outermost. -/
def Outbound.behind (next : Outbound σ) (hs : List HandlerRef) : Outbound σ :=
  hs.foldr .handler next

/-- What is logged for each listener that an event is given. -/
def Event.attachedLog (e : Event) : Entry :=
  .log ⟨.debug, "return listener attached", [("event", .text e.id.text)]⟩

namespace World

/-- Attaching adds a listener and a log; of the rest, only the handlers' chains may change. -/
theorem attach_frame (h : HandlerRef) (e : Event) (w : World σ) :
    ∃ l ks n, (attach h e w).2 =
      { w with
        listeners := w.listeners ++ [l]
        handlers := ks
        chains := n
        record := w.record ++ [e.attachedLog] } := by
  obtain ⟨ks, n, hu⟩ := useChain_eq w h
  refine ⟨.dispatching ((Dispatching.ofChain (w.useChain h).1).forEvent e), ks, n, ?_⟩
  rw [attach_eq, hu]
  rfl

end World

/-- What sending leaves pending stands with the listener of the options, or with one that is
new. -/
theorem pending_send (out : Outbound σ) (e : Event) (o : PublishOptions) (w : World σ) :
    ∃ ps, (out.send e o w).2.pending = w.pending ++ ps ∧
      ∀ p ∈ ps, p.listener = o.resolved ∨ w.listener? p.listener = none := by
  have none_left : ∀ p ∈ ([] : List Pending),
      p.listener = o.resolved ∨ w.listener? p.listener = none :=
    fun _ hm => absurd hm List.not_mem_nil
  induction out generalizing o w with
  | custom name f => exact ⟨[], (List.append_nil _).symm, none_left⟩
  | publisher channel c =>
      exact ⟨_, pending_publish channel c e o w, fun p hm => .inl (listener_of_mem_posting hm).1⟩
  | echo name f c code text =>
      rcases snd_send_echo name f c code text e o w with he | ⟨e₁, he⟩
      · exact ⟨[], (congrArg World.pending he).trans (List.append_nil _).symm, none_left⟩
      · rw [he, giveBack_eq]
        refine ⟨(callOutbound name f e o w).2.echoing code text e₁ o, rfl, fun p hm => .inl ?_⟩
        obtain ⟨ep, -, rfl⟩ := List.mem_map.mp hm
        rfl
  | handler h next ih =>
      obtain ⟨ps, hps, hp⟩ := ih { o with listener := some w.nextRef } (attach h e w).2
        fun _ hm => absurd hm List.not_mem_nil
      rw [send_handler]
      refine ⟨ps, hps.trans (congrArg (· ++ _) (attach_adds h e w).2), fun p hm => .inr ?_⟩
      cases hl : w.listener? p.listener with
      | none => rfl
      | some l =>
          -- A listener that was there is neither the new one nor missing behind it.
          rcases hp p hm with hr | hn
          · exact absurd hr (nextRef_ne hl)
          · obtain ⟨l', hl', -⟩ := binds_attach h e w p.listener l hl
            cases hn.symm.trans hl'

/-- A confirmation brings a notice for the listener it stands with. -/
theorem fst_of_mem_notice {p : Pending} {t : Notice} (h : t ∈ p.notice?.toList) :
    t.1 = p.listener := by
  obtain ⟨r, -, rfl⟩ := Option.map_eq_some_iff.mp (Option.mem_toList.mp h)
  rfl

end AmqpReturns
