import AmqpReturns.Proofs.Containment
import Mathlib.Data.List.Nodup

/-!
# Proofs — which failure it was

A failure that stays with the listener leaves its text: in the log of the dispatch it cut short,
and on the span of that.  The text up to its first backquote tells the cause, since no two causes
open alike (`nodup_openings`), and what a failure says of its own stands between the same words for
each cause.  So the text is that of one failure only (`message_injective`), whatever is quoted in
it, and who reads the record knows which failure it was (`failure_known_by_text`).
-/

namespace AmqpReturns

open World

variable {σ : Type}

namespace Failure

/-! ### What a text tells -/

/-- A text up to its first backquote. -/
def opening (text : String) : List Char :=
  text.toList.takeWhile (· ≠ '`')

theorem opening_append {lead : String} (h : '`' ∈ lead.toList) (rest : String) :
    opening (lead ++ rest) = opening lead := by
  rw [opening, opening, String.toList_append]
  generalize lead.toList = cs at h
  induction cs with
  | nil => exact absurd h List.not_mem_nil
  | cons c cs ih =>
      rw [List.cons_append, List.takeWhile_cons, List.takeWhile_cons]
      by_cases hc : c = '`'
      · simp [hc]
      · rw [ih ((List.mem_cons.mp h).resolve_left (Ne.symm hc))]

/-- The failure of the same cause that says nothing of its own. -/
def bare : Failure → Failure
  | .configuration _ => .configuration ""
  | .conversion _ => .conversion ""
  | .transformer _ => .transformer ""
  | .processor _ => .processor ""
  | .missingDeliveryTag _ => .missingDeliveryTag ""
  | .missingChannel _ => .missingChannel ""
  | .rejectMessage _ => .rejectMessage 0
  | f => f

/-- One failure of each cause. -/
def bares : List Failure :=
  [.internal, .connection, .channel, .confirmSelect, .publishing, .missingEndpoint,
    .configuration "", .unboundListener, .listenerAlreadyBound, .processorsAlreadyConfigured,
    .conversion "", .transformer "", .processor "", .missingDeliveryTag "", .missingChannel "",
    .rejectMessage 0]

theorem bare_mem (f : Failure) : f.bare ∈ bares := by
  cases f <;> simp [bare, bares]

/-- What a failure says of its own is no part of the opening. -/
theorem opening_bare (f : Failure) : opening f.bare.message = opening f.message := by
  have quoted {lead : String} (h : '`' ∈ lead.toList) (a b rest : String) :
      opening (lead ++ a ++ rest) = opening (lead ++ b ++ rest) := by
    rw [String.append_assoc, String.append_assoc, opening_append h, opening_append h]
  cases f with
  | configuration | conversion | transformer | processor | missingDeliveryTag | missingChannel
  | rejectMessage => exact quoted (by decide) _ _ _
  | _ => rfl

theorem nodup_openings : (bares.map fun f => opening f.message).Nodup := by
  decide +kernel

/-- The cause can be told from the text. -/
theorem bare_eq_of_message_eq {f g : Failure} (h : f.message = g.message) : f.bare = g.bare := by
  refine List.inj_on_of_nodup_map nodup_openings f.bare_mem g.bare_mem ?_
  rw [opening_bare, opening_bare, h]

theorem quoted_inj {lead rest a b : String} (h : lead ++ a ++ rest = lead ++ b ++ rest) : a = b :=
  (String.append_right_inj lead).mp ((String.append_left_inj rest).mp h)

/-- **A text is that of one failure.** -/
theorem message_injective : Function.Injective message := by
  intro f g h
  have hb := bare_eq_of_message_eq h
  cases f with
  | configuration | conversion | transformer | processor | missingDeliveryTag | missingChannel =>
      cases g <;> simp only [bare, reduceCtorEq] at hb
      exact congrArg _ (quoted_inj h)
  | rejectMessage tag =>
      cases g with
      | rejectMessage tag' =>
          have hr : tag.toNat.repr = tag'.toNat.repr := quoted_inj h
          have hd : Nat.toDigits 10 tag.toNat = Nat.toDigits 10 tag'.toNat := by
            simpa only [Nat.toList_repr] using congrArg String.toList hr
          have ht : tag.toNat = tag'.toNat := by
            simpa only [Nat.ofDigitChars_ten_toDigits] using congrArg (Nat.ofDigitChars 10 · 0) hd
          rw [UInt64.toNat_inj.mp ht]
      | _ => simp only [bare, reduceCtorEq] at hb
  | _ =>
      cases g <;> simp only [bare, reduceCtorEq] at hb
      rfl

end Failure

/-! ### What the record tells -/

/-- The log of a dispatch that was cut short, with that text for the failure. -/
def Entry.LogsFailure (text : String) : Entry → Prop
  | .log l => l.level = .error ∧ l.fields = [("error", .text text)] ∧
      ∃ before after,
        l.message = before ++ ", impossible to dispatch the following message" ++ after
  | .span _ | .call _ | .note _ => False

/-- The span of a dispatch that was cut short, with that text for the failure. -/
def Entry.NotesFailure (text : String) : Entry → Prop
  | .span s => s.events = [("exception", [("exception.message", text)])]
  | .log _ | .call _ | .note _ => False

section

variable {e : Entry} {text : String}

/-- An entry from before the end of a dispatch: what its course wrote, or a header that could not
be read. -/
def Entry.IsEarlier (e : Entry) : Prop :=
  e.IsFault ∨ e.IsOfCourse

theorem Entry.IsEarlier.not_logsFailure (h : e.IsEarlier) : ¬ e.LogsFailure text := by
  intro hl
  cases e with
  | log l =>
      rcases h with ⟨_, hf⟩ | h
      · cases hf
        exact absurd hl.2.1 (List.cons_ne_nil _ _).symm
      · exact h.not_isEnding (.inr hl.2.2)
  | _ => exact hl.elim

theorem Entry.IsEarlier.not_notesFailure (h : e.IsEarlier) : ¬ e.NotesFailure text := by
  intro hn
  cases e with
  | span s =>
      rcases h with ⟨_, hf⟩ | h
      · cases hf
      · exact h.elim
  | _ => exact hn.elim

end

section

variable (d : Dispatching σ) (reason : String) (r : Returned)

/-- What a listener writes of a returned message: its end behind what came earlier. -/
theorem Dispatching.onReturn_record (w : World σ) (s : Held) :
    ∃ es f w', d.Ends r s (w.extracted r) f w' ∧
      d.onReturn reason r w =
        { w' with
          record := w.record ++
            (es ++ d.closing reason r (w.extract r.properties.headerTable).1 f) } ∧
      ∀ e ∈ es, e.IsEarlier := by
  obtain ⟨f, w', hends, hw⟩ := d.onReturn_ends reason r s w
  obtain ⟨fs, hx, hfs⟩ := extracted_eq w r
  obtain ⟨cs, hc, hcs⟩ := hends.wrote
  refine ⟨fs ++ cs, f, w', hends, ?_, fun e he => ?_⟩
  · have hrecord : w'.record = w.record ++ (fs ++ cs) := by
      rw [hc, hx, List.append_assoc]
    rw [hw, hrecord, List.append_assoc]
  · rcases List.mem_append.mp he with he | he
    · exact .inl (hfs e he)
    · exact .inr (hcs e he)

theorem Dispatching.closing_logs (parent : TraceParent) (f : Option Failure) (text : String) :
    (∃ e ∈ d.closing reason r parent f, e.LogsFailure text) ↔
      f.map Failure.message = some text := by
  have hmessage : ∃ before after,
      reason ++ ", impossible to dispatch the following message to the configured " ++
          "processor(s): " ++ r.summary =
        before ++ ", impossible to dispatch the following message" ++ after := by
    refine ⟨reason, " to the configured " ++ ("processor(s): " ++ r.summary), ?_⟩
    have hwords : ", impossible to dispatch the following message to the configured " =
        ", impossible to dispatch the following message" ++ " to the configured " := by decide
    simp only [hwords, String.append_assoc]
  cases f with
  | none => simp [closing, Entry.LogsFailure]
  | some f => simp [closing, Entry.LogsFailure, hmessage]

theorem Dispatching.closing_notes (parent : TraceParent) (f : Option Failure) (text : String) :
    (∃ e ∈ d.closing reason r parent f, e.NotesFailure text) ↔
      f.map Failure.message = some text := by
  cases f with
  | none => simp [closing, Entry.NotesFailure]
  | some f => simp [closing, Entry.NotesFailure]

end

/-- What the first entries do not tell, the others do. -/
theorem exists_mem_append_of_not {α : Type} {Q : α → Prop} {xs ys : List α}
    (h : ∀ x ∈ xs, ¬ Q x) : (∃ x ∈ xs ++ ys, Q x) ↔ ∃ x ∈ ys, Q x := by
  simp only [List.mem_append, or_and_right, exists_or]
  exact or_iff_right fun ⟨x, hx, hq⟩ => h x hx hq

/-- **Which failure it was.**  No two failures have the same text.  Of a dispatch, whatever its
collaborators do, the record tells the text of the failure that ended it, in the log and on the
span, and of no other. -/
theorem failure_known_by_text :
    Function.Injective Failure.message ∧
      ∀ {σ : Type} (d : Dispatching σ) (reason : String) (r : Returned) (w : World σ) (s : Held),
        ∃ es f w', d.Ends r s (w.extracted r) f w' ∧
          d.onReturn reason r w = { w' with record := w.record ++ es } ∧
          (∀ g, (∃ e ∈ es, e.LogsFailure (Failure.message g)) ↔ f = some g) ∧
          (∀ g, (∃ e ∈ es, e.NotesFailure (Failure.message g)) ↔ f = some g) ∧
          ∀ text, (∃ e ∈ es, e.LogsFailure text ∨ e.NotesFailure text) →
            ∃ g, f = some g ∧ text = g.message := by
  refine ⟨Failure.message_injective, fun d reason r w s => ?_⟩
  obtain ⟨es, f, w', hends, hw, hes⟩ := d.onReturn_record reason r w s
  have hlogs (text : String) := (exists_mem_append_of_not
    fun e he => (hes e he).not_logsFailure).trans
      (d.closing_logs reason r (w.extract r.properties.headerTable).1 f text)
  have hnotes (text : String) := (exists_mem_append_of_not
    fun e he => (hes e he).not_notesFailure).trans
      (d.closing_notes reason r (w.extract r.properties.headerTable).1 f text)
  have hinj (g : Failure) : f.map Failure.message = some g.message ↔ f = some g :=
    (Option.map_injective Failure.message_injective).eq_iff (a := f) (b := some g)
  refine ⟨_, f, w', hends, hw, fun g => (hlogs _).trans (hinj g),
    fun g => (hnotes _).trans (hinj g), fun text ⟨e, he, htold⟩ => ?_⟩
  have hf : f.map Failure.message = some text := by
    rcases htold with hl | hn
    · exact (hlogs text).mp ⟨e, he, hl⟩
    · exact (hnotes text).mp ⟨e, he, hn⟩
  obtain ⟨g, hg, rfl⟩ := Option.map_eq_some_iff.mp hf
  exact ⟨g, hg, rfl⟩

end AmqpReturns
