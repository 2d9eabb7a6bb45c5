import AmqpReturns.Proofs.Sight
import AmqpReturns.Settings.Basic

/-!
# Proofs — who decides that a message is mandatory

An endpoint says that its messages are mandatory until it is told otherwise, and the options of a
publish may overrule it.  The settings have a say of their own on the matter, which is meant for
endpoints that are told nothing; but the context of the bus, which is all that publishers and
listeners get of the settings, leaves it out.  So a message for which neither the options nor the
endpoint was told anything is mandatory, whatever the settings say (`mandatory_precedence`).
-/

namespace AmqpReturns

open World

variable {σ : Type}

/-- An endpoint holds what it was told last. -/
theorem Endpoint.mandatory_foldl (flags : List Bool) (ep : Endpoint) :
    (flags.foldl withMandatory ep).mandatory = flags.getLast?.getD ep.mandatory := by
  induction flags generalizing ep with
  | nil => rfl
  | cons flag flags ih => rw [List.foldl_cons, ih, List.getLast?_cons]; rfl

/-- What stands where nobody said anything matters just then. -/
theorem getD_eq_getD_iff {α : Type} (o : Option α) (a b : α) :
    o.getD a = o.getD b ↔ a = b ∨ o ≠ none := by
  cases o with
  | none => simp
  | some x => simp

/-- **Who decides that a message is mandatory.**  An event for an endpoint that was told `flags`,
one after the other, is published behind any handlers, with the connector of a bus made of
settings `s`.  One broker at most sees the message, and it sees one message.  Whether that is
mandatory is for the options to say, else for the last of what the endpoint was told; and where
neither says anything, it is.  The settings would say the same if they hold messages to be
mandatory, or when they are not asked; and otherwise they would not. -/
theorem mandatory_precedence (s : Settings) (c : Connector σ) (channel : ChannelRef)
    (hs : List HandlerRef) (name exchange routingKey : String) (flags : List Bool) (e : Event)
    (o : PublishOptions) (w : World σ) :
    let out := (Outbound.publisher channel { c with context := s.busContext }).behind hs
    let ep : Endpoint := flags.foldl .withMandatory (.ofRoute name exchange routingKey)
    ∃ p : Publication,
      Sees (sight (w.receiver? channel) (.publish channel.number p)) w
        (out.send { e with endpoint := some ep } o w).2 ∧
      p.mandatory = (o.mandatory.or flags.getLast?).getD true ∧
      (p.mandatory = (o.mandatory.or flags.getLast?).getD s.mandatory ↔
        s.mandatory = true ∨ o.mandatory ≠ none ∨ flags ≠ []) := by
  intro out ep
  have hp : (w.publication { e with endpoint := some ep } ep o).mandatory =
      (o.mandatory.or flags.getLast?).getD true := by
    have hep : ep.mandatory = flags.getLast?.getD true := Endpoint.mandatory_foldl flags _
    simp only [publication, hep]
    cases o.mandatory with
    | none => rfl
    | some flag => rfl
  refine ⟨w.publication { e with endpoint := some ep } ep o, sees_behind hs rfl, hp, ?_⟩
  rw [hp, getD_eq_getD_iff, eq_comm, ne_eq, Option.or_eq_none_iff, List.getLast?_eq_none_iff,
    Classical.not_and_iff_not_or_not]

/-- Settings by which messages are not mandatory, an endpoint that was told nothing, and a
publish without a word about it: the message that the broker sees is mandatory. -/
theorem mandatory_setting_unheard :
    let s : Settings := { Settings.default with mandatory := false }
    let e : Event := { laden with endpoint := some (.ofRoute "out" "x" "k") }
    ∃ p : Publication,
      (publish ⟨0, 1⟩ { plain with context := s.busContext } e {} returning).2.seenBy 0 =
        [.publish 1 p] ∧ p.mandatory ≠ s.mandatory :=
  ⟨_, rfl, by decide⟩

end AmqpReturns
