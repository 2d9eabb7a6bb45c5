import AmqpReturns.Proofs.Nesting

/-!
# Proofs — what brokers see

`World.Sees` relates a world to one in which each broker has seen certain methods more.  A publish
asks one thing of one channel (`requests_publish`), which shows the message to the broker at the
other end, and nothing to any other (`sees_publish`); handlers in front of the publisher make no
difference to what is seen (`sees_behind`).  A message that comes back was seen
(`receiver?_of_returned`).
-/

namespace AmqpReturns

open World

variable {σ : Type}

namespace World

/-- What a broker has seen. -/
def seenBy (w : World σ) (b : Nat) : List Broker.Method :=
  ((w.brokers[b]?).map (·.seen)).getD []

/-- Each broker has seen just these methods more. -/
def Sees (ms : Nat → List Broker.Method) (w w' : World σ) : Prop :=
  ∀ b, w'.seenBy b = w.seenBy b ++ ms b

/-- One method, which one broker sees, or none. -/
def sight (receiver : Option Nat) (m : Broker.Method) (b : Nat) : List Broker.Method :=
  if receiver = some b then [m] else []

/-- The broker that sees what is sent on a channel: the one at the other end, as long as the
channel is open. -/
def receiver? (w : World σ) (ref : ChannelRef) : Option Nat :=
  ((w.openChannel? ref).map (·.broker)).filter (· < w.brokers.length)

theorem Sees.of_eq {w w' : World σ} (h : w'.brokers = w.brokers) : Sees (fun _ => []) w w' :=
  fun b => by rw [seenBy, h, List.append_nil, seenBy]

theorem Sees.trans {ms ns : Nat → List Broker.Method} {w w₁ w' : World σ} (h₁ : Sees ms w w₁)
    (h₂ : Sees ns w₁ w') : Sees (fun b => ms b ++ ns b) w w' :=
  fun b => by rw [h₂ b, h₁ b, List.append_assoc]

section

variable {ms : Nat → List Broker.Method} {w w₁ w' : World σ}

/-- What is done unseen makes no difference, before something is seen or after. -/
theorem Sees.after (h₁ : Sees (fun _ => []) w w₁) (h₂ : Sees ms w₁ w') : Sees ms w w' :=
  h₁.trans h₂

theorem Sees.before (h₁ : Sees ms w w₁) (h₂ : Sees (fun _ => []) w₁ w') : Sees ms w w' :=
  fun b => by rw [h₂ b, h₁ b, List.append_nil]

end

theorem receiver?_congr {w w' : World σ} (hb : w'.brokers = w.brokers)
    (hc : w'.channels = w.channels) (ref : ChannelRef) : w'.receiver? ref = w.receiver? ref := by
  simp only [receiver?, openChannel?, hb, hc]

/-! ### Sending a message -/

/-- A broker that is there sees the method. -/
theorem sees_modifyBroker (w : World σ) (i : Nat) (m : Broker.Method) :
    Sees (sight ((some i).filter (· < w.brokers.length)) m) w
      (w.modifyBroker i fun b => { b with seen := b.seen ++ [m] }) := by
  intro b
  by_cases hb : i = b
  · subst hb
    by_cases hi : i < w.brokers.length <;> simp [seenBy, modifyBroker, sight, hi]
  · by_cases hi : i < w.brokers.length <;> simp [seenBy, modifyBroker, sight, hb]

/-- Taking a reply shows a broker nothing. -/
theorem sees_takeReply (w : World σ) (i : Nat) : Sees (fun _ => []) w (w.takeReply i).2 := by
  intro b
  unfold takeReply
  split
  · rename_i seen reply rest h
    by_cases hb : i = b
    · subst hb
      simp [seenBy, modifyBroker, h]
    · simp [seenBy, modifyBroker, hb]
  · rw [List.append_nil]

theorem brokers_settleChannels (w : World σ) (ref : ChannelRef) (c : Channel)
    (r : Broker.Reply) : (w.settleChannels ref c r).brokers = w.brokers := by
  obtain ⟨cs, h⟩ := settleChannels_eq w ref c r
  rw [h]

/-- **Sending a message** shows it to the broker at the other end of the channel. -/
theorem sees_basicPublish (w : World σ) (ref : ChannelRef) (p : Publication) :
    Sees (sight (w.receiver? ref) (.publish ref.number p)) w (w.basicPublish ref p).2 := by
  unfold basicPublish receiver?
  cases w.openChannel? ref with
  | none => exact .of_eq rfl
  | some c =>
      have hasked : Sees (fun _ => []) w (w.request ref (.publish ref.number p)) := .of_eq rfl
      have hsee := hasked.after (sees_modifyBroker _ c.broker (.publish ref.number p))
      have htaken := hsee.before (sees_takeReply _ c.broker)
      exact htaken.before (.of_eq (brokers_settleChannels _ ref c _))

end World

/-! ### Publishing -/

section

variable {channel : ChannelRef} {c : Connector σ} {e : Event} {o : PublishOptions}
  {ep : Endpoint} {w : World σ}

/-- **A publish** shows its message to the broker at the other end of the channel, whether it is
taken or not. -/
theorem sees_publish (h : e.endpoint = some ep) :
    Sees (sight (w.receiver? channel) (.publish channel.number (w.publication e ep o))) w
      (publish channel c e o w).2 := by
  have hb : (w.readied c o).brokers = w.brokers := by rw [readied_eq]
  have hc : (w.readied c o).channels = w.channels := by rw [readied_eq]
  have hsees := sees_basicPublish (w.readied c o) channel (w.publication e ep o)
  rw [receiver?_congr hb hc] at hsees
  refine ((Sees.of_eq hb).after hsees).before ?_
  cases ha : w.answer channel (w.publication e ep o) with
  | none => rw [publish_refused h ha]; exact .of_eq rfl
  | some conf => rw [publish_taken h ha]; exact .of_eq rfl

/-- It is asked of the channel once, whether it is taken or not. -/
theorem requests_publish (h : e.endpoint = some ep) :
    (publish channel c e o w).2.requests =
      w.requests ++ [(channel, .publish channel.number (w.publication e ep o))] := by
  obtain ⟨bs, cs, hb⟩ := basicPublish_eq (w.readied c o) channel (w.publication e ep o)
  have hr : (w.readied c o).requests = w.requests := by rw [readied_eq]
  cases ha : w.answer channel (w.publication e ep o) with
  | none =>
      rw [publish_refused h ha, hb, ← hr]
      rfl
  | some conf =>
      rw [publish_taken h ha, hb, ← hr]
      rfl

/-- Attaching a listener changes nothing that a message is made of, and nothing in how it is
sent. -/
theorem attach_publication (h : HandlerRef) (e : Event) (w : World σ) (e' : Event)
    (ep : Endpoint) (o o' : PublishOptions) (hm : o'.mandatory = o.mandatory) :
    (attach h e w).2.publication e' ep o' = w.publication e' ep o ∧
      (attach h e w).2.brokers = w.brokers ∧ (attach h e w).2.channels = w.channels := by
  obtain ⟨l, ks, n, ha⟩ := attach_frame h e w
  rw [ha]
  simp only [publication, draw, hm, and_self]

/-- **Behind handlers**, of which there may be none, a publisher publishes the same message. -/
theorem sees_behind (hs : List HandlerRef) (h : e.endpoint = some ep) :
    Sees (sight (w.receiver? channel) (.publish channel.number (w.publication e ep o))) w
      (((Outbound.publisher channel c).behind hs).send e o w).2 := by
  induction hs generalizing o w with
  | nil => exact sees_publish h
  | cons k hs ih =>
      have hsend : ((Outbound.publisher channel c).behind (k :: hs)).send e o w =
          ((Outbound.publisher channel c).behind hs).send e
            { o with listener := some ⟨w.listeners.length⟩ } (attach k e w).2 :=
        send_handler k ((Outbound.publisher channel c).behind hs) e o w
      obtain ⟨hp, hb, hc⟩ := attach_publication k e w e ep o
        { o with listener := some ⟨w.listeners.length⟩ } rfl
      have hrest := ih (o := { o with listener := some ⟨w.listeners.length⟩ })
        (w := (attach k e w).2)
      rw [receiver?_congr hb hc, hp] at hrest
      rw [hsend]
      exact (Sees.of_eq hb).after hrest

/-- A message that comes back was seen by a broker. -/
theorem receiver?_of_returned {p : Publication} {conf : Confirmation} {r : Returned}
    (ha : w.answer channel p = some conf) (hr : conf.returned? = some r) :
    ∃ b, w.receiver? channel = some b := by
  unfold answer basicPublish at ha
  cases ho : w.openChannel? channel with
  | none =>
      rw [ho] at ha
      cases ha
  | some ch =>
      rw [ho] at ha
      by_cases hi : ch.broker < w.brokers.length
      · exact ⟨ch.broker, by simp [receiver?, ho, hi]⟩
      · -- Nobody is at the other end, and nothing but an acknowledgement is made up for it.
        have hnone : ((w.request channel (.publish channel.number p)).modifyBroker ch.broker
            fun b => { b with seen := b.seen ++ [.publish channel.number p] }).brokers[ch.broker]? =
            none := by
          simpa [modifyBroker, request] using hi
        simp only [takeReply, hnone, Option.some.injEq] at ha
        subst ha
        cases hc : ch.confirms with
        | true => simp [hc, Broker.Reply.confirmation, Confirmation.returned?] at hr
        | false => simp [hc, Confirmation.returned?] at hr

end

end AmqpReturns
