import Mathlib.Data.List.Perm.Basic
import AmqpReturns.Proofs.Hearing

/-!
# Proofs — the way of a returned message to its listener

Publishes and the handling of confirmations come in any order, in any world.  `Move` is one of
them, or a change in the surroundings; `Move.Does` is what a move does, and `History` what a list
of moves does.

* `complete_tells`: handling a confirmation tells the listener that stands with it of the message
  that it carries, once, and no other listener of anything.
* `returns_reach_their_listeners`: over a history, the notices given, together with those still
  to be given, are the notices of the confirmations that were left pending, each as often.
-/

namespace AmqpReturns

open World
open scoped List

variable {σ : Type}

/-! ### Notices -/

/-- The notice that a waiting confirmation brings when it is handled. -/
def Pending.notice? (p : Pending) : Option Notice :=
  p.confirmation.returned?.map (p.listener, ·)

/-- The notices of waiting confirmations. -/
def notices (ps : List Pending) : List Notice :=
  ps.filterMap Pending.notice?

theorem notices_append (ps qs : List Pending) : notices (ps ++ qs) = notices ps ++ notices qs :=
  List.filterMap_append

/-- A waiting confirmation apart from the others: no notice is lost and none comes up. -/
theorem notices_perm {ps : List Pending} {i : Nat} {p : Pending} (h : ps[i]? = some p) :
    (p.notice?.toList ++ notices (ps.eraseIdx i)).Perm (notices ps) := by
  obtain ⟨hi, rfl⟩ := List.getElem?_eq_some_iff.mp h
  have hp := (List.getElem_cons_eraseIdx_perm hi).filterMap Pending.notice?
  rw [List.filterMap_cons] at hp
  cases hn : ps[i].notice? with
  | none => rw [hn] at hp; exact hp
  | some t => rw [hn] at hp; exact hp

/-- **Handling a confirmation** tells its listener of the message it carries, and is quiet
otherwise. -/
theorem complete_tells (w : World σ) (p : Pending) :
    ∃ w₁, Quiet w w₁ ∧ w₁.pending = w.pending ∧ w.complete p = w₁.tellAll p.notice?.toList := by
  obtain ⟨l, confirmation⟩ := p
  have nack := quiet_log w .warn "publisher confirm NACK" [] fun h => h.2 rfl
  have failed := quiet_log w .error "failure awaiting publisher confirm"
    [("error", .text brokerText)] nofun
  cases confirmation with
  | ack r =>
      cases r with
      | none => exact ⟨w, .of_eq rfl rfl, rfl, rfl⟩
      | some r => exact ⟨w, .of_eq rfl rfl, rfl, rfl⟩
  | nack r =>
      cases r with
      | none => exact ⟨_, nack, rfl, rfl⟩
      | some r => exact ⟨_, nack, rfl, rfl⟩
  | notRequested => exact ⟨w, .of_eq rfl rfl, rfl, rfl⟩
  | failed => exact ⟨_, failed, rfl, rfl⟩

/-! ### Moves -/

/-- A move of the application, of the broker or of the surroundings. -/
inductive Move (σ : Type) where
  /-- An event is sent through an outbound, a publisher above all. -/
  | send (out : Outbound σ) (e : Event) (o : PublishOptions)
  | process (p : Processor σ) (e : Event)
  /-- The confirmation at a place of the waiting ones arrives. -/
  | complete (i : Nat)
  | addListener (l : Listener σ)
  | bind (ref : ListenerRef) (c : Connector σ)
  | ensure (ref : ListenerRef) (c : Connector σ)
  /-- All but listeners, waiting confirmations and the record becomes what it is in `a`. -/
  | around (a : World σ)

namespace Move

/-- The world after a move. -/
def run : Move σ → World σ → World σ
  | .send out e o, w => (out.send e o w).2
  | .process p e, w => (p.process e w).2
  | .complete i, w => w.completeAt i
  | .addListener l, w => (w.addListener l).2
  | .bind ref c, w => (w.bindConnector ref c).2
  | .ensure ref c, w => w.ensureConnector ref c
  | .around a, w =>
    { a with listeners := w.listeners, pending := w.pending, record := w.record }

/-- The world without the confirmation that a move is about to handle. -/
def taken : Move σ → World σ → World σ
  | .complete i, w => { w with pending := w.pending.eraseIdx i }
  | _, w => w

/-- The notices that a move is to give: those of the confirmation it handles. -/
def gives : Move σ → World σ → List Notice
  | .complete i, w => (w.pending[i]?.bind Pending.notice?).toList
  | _, _ => []

/-- What a move does.  It tells listeners of what it is to give and of nothing else, and leaves
confirmations pending for its publishes. -/
structure Does (m : Move σ) (w : World σ) (posted : List Pending) : Prop where
  tells : ∃ w₁, Quiet (m.taken w) w₁ ∧ m.run w = w₁.tellAll (m.gives w)
  posts : Posts (m.taken w) posted (m.run w)
  /-- A publish leaves pending the broker's answer, for the listener of its own options, and
  nothing when it fails. -/
  own : ∀ channel c e o, m = .send (.publisher channel c) e o →
    posted = w.posting channel e o ∧
      ∀ h w', publish channel c e o w = (.error h, w') → posted = []

/-- A quiet move, which handles no confirmation. -/
theorem Does.of_quiet {m : Move σ} {w : World σ} {ps : List Pending} (ht : m.taken w = w)
    (hg : m.gives w = []) (hq : Quiet w (m.run w)) (hp : Posts w ps (m.run w)) :
    m.Does w ps where
  tells := ⟨m.run w, by rw [ht]; exact hq, by rw [hg]; rfl⟩
  posts := by rw [ht]; exact hp
  own := by
    rintro channel c e o rfl
    -- What is pending after the publish leaves no choice.
    have hpend : w.pending ++ ps = w.pending ++ w.posting channel e o :=
      hp.pending.symm.trans (pending_publish channel c e o w)
    have hps := List.append_cancel_left hpend
    exact ⟨hps, fun h w' he => hps.trans (posting_of_error he)⟩

theorem snd_bindConnector (w : World σ) (ref : ListenerRef) (c : Connector σ) :
    (w.bindConnector ref c).2 = w.ensureConnector ref c := by
  unfold bindConnector ensureConnector
  split
  · split
    · rename_i hc
      rw [hc]
    · rename_i hc
      rw [hc]
  · rfl

theorem quiet_ensureConnector (w : World σ) (ref : ListenerRef) (c : Connector σ) :
    Quiet w (w.ensureConnector ref c) ∧ Posts w [] (w.ensureConnector ref c) := by
  obtain ⟨ls, hl⟩ := ensureConnector_eq w ref c
  exact ⟨⟨keeps_ensureConnector w ref c, .of_eq (by rw [hl])⟩, .none (by rw [hl])⟩

/-- **One move.** -/
theorem does (m : Move σ) (w : World σ) : ∃ posted, m.Does w posted := by
  cases m with
  | send out e o =>
      have h := errands_send out e o w
      obtain ⟨ps, hps⟩ := h.posts
      exact ⟨ps, .of_quiet rfl rfl h.quiet hps⟩
  | process p e =>
      obtain ⟨α, reply, h⟩ := errands_process p e w
      obtain ⟨ps, hps⟩ := h.posts
      have hcall : Posts w [] (w.writeCall (.process p.party e) reply) := .none rfl
      exact ⟨[] ++ ps, .of_quiet rfl rfl ((quiet_writeCall w _ reply).trans h.quiet)
        (hcall.trans hps)⟩
  | complete i =>
      cases hi : w.pending[i]? with
      | none =>
          -- Nothing waits at that place, and nothing happens.
          have ht : (complete i).taken w = w := by
            have hlen := List.getElem?_eq_none_iff.mp hi
            simp only [taken, List.eraseIdx_of_length_le hlen]
          have hr : (complete i).run w = w := by simp only [run, completeAt, hi]
          have hg : (complete i).gives w = [] := by simp only [gives, hi]; rfl
          refine ⟨[], .of_quiet ht hg ?_ ?_⟩
          · rw [hr]
            exact .of_eq rfl rfl
          · rw [hr]
            exact .none rfl
      | some p =>
          obtain ⟨w₁, hq, hp, hc⟩ := complete_tells { w with pending := w.pending.eraseIdx i } p
          have hr : (complete i).run w = w₁.tellAll ((complete i).gives w) := by
            simp only [run, completeAt, gives, hi]
            exact hc
          obtain ⟨ps, hps⟩ := posts_tellAll ((complete i).gives w) w₁
          have h₁ : Posts ((complete i).taken w) [] w₁ := .none hp
          refine ⟨[] ++ ps, ⟨w₁, hq, hr⟩, ?_, nofun⟩
          rw [hr]
          exact h₁.trans hps
  | addListener l =>
      exact ⟨[], .of_quiet rfl rfl ⟨keeps_addListener w l, .of_eq rfl⟩ (.none rfl)⟩
  | bind ref c =>
      obtain ⟨hq, hp⟩ := quiet_ensureConnector w ref c
      rw [← snd_bindConnector] at hq hp
      exact ⟨[], .of_quiet rfl rfl hq hp⟩
  | ensure ref c =>
      obtain ⟨hq, hp⟩ := quiet_ensureConnector w ref c
      exact ⟨[], .of_quiet rfl rfl hq hp⟩
  | around a => exact ⟨[], .of_quiet rfl rfl (.of_eq rfl rfl) (.none rfl)⟩

/-- Listeners hear what a move gives. -/
theorem Does.heard {m : Move σ} {w : World σ} {ps : List Pending} (h : m.Does w ps) :
    Heard (m.gives w) w (m.run w) := by
  obtain ⟨w₁, hq, hr⟩ := h.tells
  have ht : Heard [] w (m.taken w) := by
    cases m with
    | complete i => exact (Quiet.of_eq rfl rfl).heard
    | _ => exact (Quiet.of_eq rfl rfl).heard
  rw [hr]
  exact (ht.trans hq.heard).trans (heard_tellAll _ w₁)

/-- What a move gives is missing afterwards from what is to be given, and what it posts is new
there. -/
theorem Does.perm {m : Move σ} {w : World σ} {ps : List Pending} (h : m.Does w ps) :
    (m.gives w ++ notices (m.run w).pending).Perm (notices (w.pending ++ ps)) := by
  have ht : (m.gives w ++ notices (m.taken w).pending).Perm (notices w.pending) := by
    cases m with
    | complete i =>
        cases hi : w.pending[i]? with
        | none =>
            have hlen := List.getElem?_eq_none_iff.mp hi
            simp only [gives, taken, hi, List.eraseIdx_of_length_le hlen]
            exact .refl _
        | some p =>
            simp only [gives, taken, hi]
            exact notices_perm hi
    | _ => exact .refl _
  -- What was posted meanwhile stands behind what was left.
  rw [h.posts.pending, notices_append, notices_append, ← List.append_assoc]
  exact ht.append_right _

end Move

/-! ### Histories -/

/-- The world after a list of moves. -/
def World.after (w : World σ) : List (Move σ) → World σ
  | [] => w
  | m :: ms => (m.run w).after ms

/-- The notices given over a list of moves. -/
def World.given (w : World σ) : List (Move σ) → List Notice
  | [] => []
  | m :: ms => m.gives w ++ (m.run w).given ms

/-- What the moves of a list do, one after the other, and what they leave pending in all. -/
inductive History : World σ → List (Move σ) → List Pending → Prop where
  | nil (w : World σ) : History w [] []
  | cons {m : Move σ} {ms : List (Move σ)} {w : World σ} {ps qs : List Pending}
      (h : m.Does w ps) (t : History (m.run w) ms qs) : History w (m :: ms) (ps ++ qs)

namespace History

theorem exists_posted (ms : List (Move σ)) (w : World σ) : ∃ posted, History w ms posted := by
  induction ms generalizing w with
  | nil => exact ⟨[], .nil w⟩
  | cons m ms ih =>
      obtain ⟨ps, h⟩ := m.does w
      obtain ⟨qs, t⟩ := ih (m.run w)
      exact ⟨ps ++ qs, .cons h t⟩

variable {w : World σ} {ms : List (Move σ)} {posted : List Pending}

theorem heard (h : History w ms posted) : Heard (w.given ms) w (w.after ms) := by
  induction h with
  | nil w => exact (Quiet.of_eq rfl rfl).heard
  | cons h _ ih => exact h.heard.trans ih

theorem perm (h : History w ms posted) :
    (w.given ms ++ notices (w.after ms).pending).Perm (notices (w.pending ++ posted)) := by
  induction h with
  | nil w => rw [List.append_nil]; exact .refl _
  | @cons m ms w ps qs h _ ih =>
      -- The notices of the later moves are among those that are to be given after the first.
      calc (m.gives w ++ (m.run w).given ms) ++ notices ((m.run w).after ms).pending
          = m.gives w ++ ((m.run w).given ms ++ notices ((m.run w).after ms).pending) :=
            List.append_assoc ..
        _ ~ m.gives w ++ notices ((m.run w).pending ++ qs) := ih.append_left _
        _ = (m.gives w ++ notices (m.run w).pending) ++ notices qs := by
            rw [notices_append, List.append_assoc]
        _ ~ notices (w.pending ++ ps) ++ notices qs := h.perm.append_right _
        _ = notices (w.pending ++ (ps ++ qs)) := by
            rw [← notices_append, List.append_assoc]

end History

/-- **Every returned message reaches the listener of its own publish, once.**  Whatever comes in
whatever order, each move tells listeners of what the confirmation that it handles carries, and
of nothing else; what is given and what is still to be given are the notices of the confirmations
that were left pending, each as often; and each listener has heard what was given to it. -/
theorem returns_reach_their_listeners (ms : List (Move σ)) (w : World σ) :
    ∃ posted, History w ms posted ∧
      (w.given ms ++ notices (w.after ms).pending).Perm (notices (w.pending ++ posted)) ∧
      Heard (w.given ms) w (w.after ms) := by
  obtain ⟨posted, h⟩ := History.exists_posted ms w
  exact ⟨posted, h, h.perm, h.heard⟩

end AmqpReturns
