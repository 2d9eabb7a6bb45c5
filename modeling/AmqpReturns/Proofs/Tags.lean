import AmqpReturns.Proofs.Rejection
import AmqpReturns.Proofs.Values

/-!
# Proofs — rejecting a delivery by its tag

A rejecter asks the channel of an event's session, once, to reject the delivery that the event's
message came with.  It needs the tag of the delivery and the channel, and looks for the tag first:
without the one or the other nothing is asked of any channel (`reject_unnamed`,
`reject_unchanneled`), and with both the answer of the channel decides (`reject_accepted`,
`reject_refused`).

The tag is a number, and how the number is kept makes no difference (`reject_withTag_congr`).  So a
tag that has been through a header is the same tag, also where it has become a signed number there.
-/

namespace AmqpReturns

open World

variable {σ : Type}

/-! ### The tag of a message -/

namespace Message

/-- The message came with the delivery of that tag: the property for tags is this number, unsigned
or signed. -/
def TaggedBy (m : Message) (tag : UInt64) : Prop :=
  m.inbound.get? "amqp.delivery-tag" = some (.uint tag) ∨
    ∃ n : Int64, m.inbound.get? "amqp.delivery-tag" = some (.int n) ∧ n.toInt = tag.toNat

/-- Only the number counts. -/
theorem taggedBy_iff_number {m : Message} {tag : UInt64} :
    m.TaggedBy tag ↔
      (m.inbound.get? "amqp.delivery-tag").bind Property.number? = some (tag.toNat : Int) := by
  rw [Option.bind_eq_some_iff]
  constructor
  · rintro (h | ⟨n, h, hn⟩)
    · exact ⟨_, h, rfl⟩
    · exact ⟨_, h, congrArg some hn⟩
  · rintro ⟨p, h, hp⟩
    cases p with
    | uint n =>
        have hn : n.toNat = tag.toNat := Int.ofNat_inj.mp (Option.some.inj hp)
        exact .inl (UInt64.toNat_inj.mp hn ▸ h)
    | int n => exact .inr ⟨n, h, Option.some.inj hp⟩
    | bool b => cases hp
    | text s => cases hp
    | bytes b => cases hp

/-- A signed number that is not negative is the unsigned number of the same bits. -/
theorem toNat_toUInt64_of_nonneg {n : Int64} (h : 0 ≤ n.toInt) :
    (n.toUInt64.toNat : Int) = n.toInt := by
  have hn : n.toInt = if 2 * n.toUInt64.toNat < 2 ^ 64 then (n.toUInt64.toNat : Int)
      else (n.toUInt64.toNat : Int) - (2 ^ 64 : Nat) := BitVec.toInt_eq_toNat_cond n.toBitVec
  have hlt : n.toUInt64.toNat < 2 ^ 64 := n.toUInt64.toNat_lt
  split at hn
  · exact hn.symm
  · omega

/-- **The tag that is found** is the tag of the message. -/
theorem deliveryTag?_eq_some_iff {m : Message} {tag : UInt64} :
    m.deliveryTag? = some tag ↔ m.TaggedBy tag := by
  unfold deliveryTag? deliveryTagKey TaggedBy
  rcases m.inbound.get? "amqp.delivery-tag" with _ | p
  · simp
  · cases p with
    | int n =>
        by_cases hn : 0 ≤ n.toInt
        · have hnat := toNat_toUInt64_of_nonneg hn
          have hiff : n.toUInt64 = tag ↔ n.toInt = tag.toNat := by
            rw [← UInt64.toNat_inj]
            omega
          simpa [hn] using hiff
        · have hne : n.toInt ≠ tag.toNat := by omega
          simp [hn, hne]
    | _ => simp

theorem deliveryTag?_eq_none_iff {m : Message} :
    m.deliveryTag? = none ↔ ∀ tag, ¬ m.TaggedBy tag := by
  simp only [Option.eq_none_iff_forall_ne_some, ne_eq, deliveryTag?_eq_some_iff]

end Message

/-- The event, its message having come with `tag` for the property of its tag. -/
def Event.withTag (e : Event) (tag : Property) : Event :=
  { e with message := e.message.withInbound "amqp.delivery-tag" tag }

theorem Event.taggedBy_withTag {e : Event} {p : Property} {tag : UInt64} :
    (e.withTag p).message.TaggedBy tag ↔ p.number? = some (tag.toNat : Int) := by
  rw [Message.taggedBy_iff_number]
  simp only [withTag, Message.withInbound, Table.get?_insert_self, Option.bind_some]

/-- **Properties of one number** are one tag. -/
theorem reject_withTag_congr {p q : Property} (h : p.number? = q.number?) (e : Event)
    (requeue : Bool) :
    (reject (e.withTag p) requeue : Act σ Unit) = reject (e.withTag q) requeue := by
  have htag : (e.withTag p).message.deliveryTag? = (e.withTag q).message.deliveryTag? := by
    refine Option.ext fun tag => ?_
    rw [Message.deliveryTag?_eq_some_iff, Message.deliveryTag?_eq_some_iff,
      Event.taggedBy_withTag, Event.taggedBy_withTag, h]
  have hchannel : (e.withTag p).session.channel = (e.withTag q).session.channel := rfl
  simp only [reject, htag, hchannel]

/-! ### What is asked of a channel -/

namespace World

/-- A channel takes a rejection as long as it is open. -/
theorem fst_basicReject (w : World σ) (ref : ChannelRef) (tag : UInt64) (requeue : Bool) :
    (w.basicReject ref tag requeue).1 = (w.openChannel? ref).isSome := by
  unfold basicReject
  cases w.openChannel? ref with
  | none => rfl
  | some c => rfl

/-- **A rejection** is shown to the broker at the other end of the channel. -/
theorem sees_basicReject (w : World σ) (ref : ChannelRef) (tag : UInt64) (requeue : Bool) :
    Sees (sight (w.receiver? ref) (.reject ref.number tag requeue)) w
      (w.basicReject ref tag requeue).2 := by
  unfold basicReject receiver?
  cases w.openChannel? ref with
  | none => exact .of_eq rfl
  | some c =>
      have hasked : Sees (fun _ => []) w
          (w.request ref (.reject ref.number tag requeue)) := .of_eq rfl
      exact hasked.after (sees_modifyBroker _ c.broker _)

/-- The world in which a rejecter goes to work: its call is on record. -/
def asked (w : World σ) (requeue : Bool) (e : Event) : World σ :=
  w.writeCall (.process (.rejecter requeue) e) (⟨.ok (), w.outside, []⟩ : Reply σ Unit)

theorem write_eq_asked (w : World σ) (requeue : Bool) (e : Event) :
    w.write (.call (.process (.rejecter requeue) e)) = w.asked requeue e :=
  rfl

end World

section

variable {e : Event} {tag : UInt64} {channel : ChannelRef}

theorem reject_unnamed (h : ∀ tag, ¬ e.message.TaggedBy tag) (requeue : Bool) (w : World σ) :
    reject e requeue w = (.error (.failure (.missingDeliveryTag "reject")), w) := by
  simp only [reject, Message.deliveryTag?_eq_none_iff.mpr h, Act.fail_apply]

theorem reject_accepted (ht : e.message.TaggedBy tag) (hc : e.session.channel = some channel)
    {requeue : Bool} {w : World σ} (h : (w.basicReject channel tag requeue).1 = true) :
    reject e requeue w =
      (.ok (), (w.basicReject channel tag requeue).2.log .debug "manually rejected message"
        [("delivery_tag", .number tag.toNat), ("channel", .number channel.number)]) := by
  simp only [reject, Message.deliveryTag?_eq_some_iff.mpr ht, hc]
  rw [Act.bind_ok (Act.run_apply _ w), if_pos h]
  rfl

theorem reject_refused (ht : e.message.TaggedBy tag) (hc : e.session.channel = some channel)
    {requeue : Bool} {w : World σ} (h : (w.basicReject channel tag requeue).1 = false) :
    reject e requeue w =
      (.error (.failure (.rejectMessage tag)),
        (w.basicReject channel tag requeue).2.log .error "failure to reject message"
          [("error", .text brokerText), ("delivery_tag", .number tag.toNat),
            ("channel", .number channel.number)]) := by
  simp only [reject, Message.deliveryTag?_eq_some_iff.mpr ht, hc]
  rw [Act.bind_ok (Act.run_apply _ w), if_neg (by simp [h])]
  rfl

/-! ### The ways out of a rejecter -/

section

variable {requeue : Bool} {w : World σ}

theorem process_unnamed (h : ∀ tag, ¬ e.message.TaggedBy tag) :
    (Processor.rejecter requeue).process e w =
      (.error (.failure (.missingDeliveryTag "reject")), w.asked requeue e) := by
  rw [process_rejecter, write_eq_asked, reject_unnamed h]
  rfl

theorem process_unchanneled (ht : e.message.TaggedBy tag) (hc : e.session.channel = none) :
    (Processor.rejecter requeue).process e w =
      (.error (.failure (.missingChannel "reject")), w.asked requeue e) := by
  have hr : e.message.rejection = .missingChannel "reject" :=
    if_neg (by simp [Message.deliveryTag?_eq_some_iff.mpr ht])
  rw [process_rejecter, write_eq_asked, reject_unchanneled hc, hr]
  rfl

theorem process_accepted (ht : e.message.TaggedBy tag) (hc : e.session.channel = some channel)
    (h : ((w.asked requeue e).basicReject channel tag requeue).1 = true) :
    (Processor.rejecter requeue).process e w =
      (.ok e, ((w.asked requeue e).basicReject channel tag requeue).2.log .debug
        "manually rejected message"
        [("delivery_tag", .number tag.toNat), ("channel", .number channel.number)]) := by
  rw [process_rejecter, write_eq_asked, reject_accepted ht hc h]
  rfl

theorem process_refused (ht : e.message.TaggedBy tag) (hc : e.session.channel = some channel)
    (h : ((w.asked requeue e).basicReject channel tag requeue).1 = false) :
    (Processor.rejecter requeue).process e w =
      (.error (.failure (.rejectMessage tag)),
        ((w.asked requeue e).basicReject channel tag requeue).2.log .error
          "failure to reject message"
          [("error", .text brokerText), ("delivery_tag", .number tag.toNat),
            ("channel", .number channel.number)]) := by
  rw [process_rejecter, write_eq_asked, reject_refused ht hc h]
  rfl

/-- With a tag and a channel, one rejection is shown to one broker, if to any. -/
theorem sees_process_rejecter (ht : e.message.TaggedBy tag)
    (hc : e.session.channel = some channel) :
    Sees (sight (w.receiver? channel) (.reject channel.number tag requeue)) w
      ((Processor.rejecter requeue).process e w).2 := by
  have hsees : Sees (sight (w.receiver? channel) (.reject channel.number tag requeue)) w
      ((w.asked requeue e).basicReject channel tag requeue).2 :=
    sees_basicReject (w.asked requeue e) channel tag requeue
  refine hsees.before (.of_eq ?_)
  cases h : ((w.asked requeue e).basicReject channel tag requeue).1 with
  | true => rw [process_accepted ht hc h]; rfl
  | false => rw [process_refused ht hc h]; rfl

/-- The channel is asked once, whether it takes the rejection or not. -/
theorem requests_process_rejecter (ht : e.message.TaggedBy tag)
    (hc : e.session.channel = some channel) :
    ((Processor.rejecter requeue).process e w).2.requests =
      w.requests ++ [(channel, .reject channel.number tag requeue)] := by
  obtain ⟨bs, hb⟩ := basicReject_eq (w.asked requeue e) channel tag requeue
  cases h : ((w.asked requeue e).basicReject channel tag requeue).1 with
  | true =>
      rw [process_accepted ht hc h, hb]
      rfl
  | false =>
      rw [process_refused ht hc h, hb]
      rfl

/-- **The event comes back** only as it was, and only when the channel took the rejection. -/
theorem process_rejecter_ok_iff {e' : Event} :
    ((Processor.rejecter requeue).process e w).1 = .ok e' ↔
      e' = e ∧ ∃ tag channel, e.message.TaggedBy tag ∧ e.session.channel = some channel ∧
        ((w.asked requeue e).basicReject channel tag requeue).1 = true := by
  constructor
  · intro he
    cases htag : e.message.deliveryTag? with
    | none =>
        rw [process_unnamed (Message.deliveryTag?_eq_none_iff.mp htag)] at he
        cases he
    | some tag =>
        have ht := Message.deliveryTag?_eq_some_iff.mp htag
        cases hc : e.session.channel with
        | none =>
            rw [process_unchanneled ht hc] at he
            cases he
        | some channel =>
            cases h : ((w.asked requeue e).basicReject channel tag requeue).1 with
            | false =>
                rw [process_refused ht hc h] at he
                cases he
            | true =>
                rw [process_accepted ht hc h] at he
                exact ⟨(Except.ok.inj he).symm, tag, channel, ht, rfl, h⟩
  · rintro ⟨rfl, tag, channel, ht, hc, h⟩
    rw [process_accepted ht hc h]

end

end

/-- **All or nothing.**

A rejecter fails for want of a tag if its message has none, whether there is a channel or not, and
else for want of a channel if there is none; then it has asked no channel for anything, nor done
anything else.  With a tag and a channel it asks this channel, once, to reject the delivery of this
tag, and to put it back on its queue or not as the rejecter is made.  The broker at the other end
sees this and nothing else, and no other broker sees anything.  If the channel takes it, which it
does as long as it is open, the very event comes back; if not, the rejecter fails with the tag, and
logs one error.  So an event comes back only as it was, and only when it was asked for and the
channel took it.

A tag that has been through a header is the tag it was: with the property that comes back for a
number, just the same is done as with the number itself. -/
theorem rejecter_all_or_nothing (requeue : Bool) (e : Event) (w : World σ) :
    let out := (Processor.rejecter requeue).process e w
    let asked := w.asked requeue e
    ((∀ tag, ¬ e.message.TaggedBy tag) →
      out = (.error (.failure (.missingDeliveryTag "reject")), asked)) ∧
    (∀ tag, e.message.TaggedBy tag → e.session.channel = none →
      out = (.error (.failure (.missingChannel "reject")), asked)) ∧
    (∀ tag channel, e.message.TaggedBy tag → e.session.channel = some channel →
      let sent := asked.basicReject channel tag requeue
      sent.1 = (w.openChannel? channel).isSome ∧
      out.2.requests = w.requests ++ [(channel, .reject channel.number tag requeue)] ∧
      Sees (sight (w.receiver? channel) (.reject channel.number tag requeue)) w out.2 ∧
      (sent.1 = true →
        out = (.ok e, sent.2.log .debug "manually rejected message"
          [("delivery_tag", .number tag.toNat), ("channel", .number channel.number)])) ∧
      (sent.1 = false →
        out = (.error (.failure (.rejectMessage tag)),
          sent.2.log .error "failure to reject message"
            [("error", .text brokerText), ("delivery_tag", .number tag.toNat),
              ("channel", .number channel.number)]))) ∧
    (∀ e', out.1 = .ok e' ↔
      e' = e ∧ ∃ tag channel, e.message.TaggedBy tag ∧ e.session.channel = some channel ∧
        (asked.basicReject channel tag requeue).1 = true) ∧
    ∀ n : UInt64, ∃ p, (Wire.Value.ofProperty (.uint n)).toProperty? = some p ∧
      (e.withTag p).message.TaggedBy n ∧
      (reject (e.withTag p) requeue : Act σ Unit) = reject (e.withTag (.uint n)) requeue := by
  intro out asked
  refine ⟨process_unnamed, fun tag => process_unchanneled, fun tag channel ht hc => ?_,
    fun e' => process_rejecter_ok_iff, fun n => ?_⟩
  · exact ⟨fst_basicReject _ _ _ _, requests_process_rejecter ht hc, sees_process_rejecter ht hc,
      process_accepted ht hc, process_refused ht hc⟩
  · have hnumber : (Property.uint n).normalize.number? = some (n.toNat : Int) :=
      number?_normalize (.uint n)
    exact ⟨_, toProperty?_ofProperty (.uint n), Event.taggedBy_withTag.mpr hnumber,
      reject_withTag_congr hnumber e requeue⟩

/-- An event whose message came with delivery 4294967296, by a tag that has been through a
header. -/
def delivered : Event :=
  { laden with session := { laden.session with channel := some ⟨0, 1⟩ } }.withTag (.int 4294967296)

/-- On an open channel the broker is asked for the delivery, once, and the event comes back; on a
closed one the channel is asked only once, nothing is seen, and the tag is named.  Without a tag the
channel is not asked, and without a channel no broker is. -/
theorem rejecter_all_or_nothing_each_way :
    let shut : World Unit :=
      { returning with channels := [{ broker := 0, confirms := true, isOpen := false }] }
    let untagged : Event := { delivered with message := laden.message }
    let stray : Event := { delivered with session := laden.session }
    let rejecter : Processor Unit := .rejecter true
    (delivered.message.TaggedBy 4294967296 ∧ delivered.session.channel = some ⟨0, 1⟩) ∧
    ((rejecter.process delivered returning).1 = .ok delivered ∧
      (rejecter.process delivered returning).2.seenBy 0 = [.reject 1 4294967296 true]) ∧
    ((rejecter.process delivered shut).1 = .error (.failure (.rejectMessage 4294967296)) ∧
      (rejecter.process delivered shut).2.requests =
        [(⟨0, 1⟩, .reject 1 4294967296 true)] ∧
      (rejecter.process delivered shut).2.seenBy 0 = []) ∧
    ((rejecter.process untagged returning).1 =
        .error (.failure (.missingDeliveryTag "reject")) ∧
      (rejecter.process untagged returning).2.requests = []) ∧
    (rejecter.process stray returning).1 = .error (.failure (.missingChannel "reject")) ∧
    (reject delivered true : Act Unit Unit) =
      reject (delivered.withTag (.uint 4294967296)) true := by
  intro shut untagged stray rejecter
  have htag : delivered.message.TaggedBy 4294967296 := .inr ⟨4294967296, rfl, rfl⟩
  obtain ⟨-, -, hboth, -, htrip⟩ := rejecter_all_or_nothing true delivered returning
  obtain ⟨hopen, -, hsees, hok, -⟩ := hboth _ _ htag rfl
  obtain ⟨-, -, hboth', -, -⟩ := rejecter_all_or_nothing true delivered shut
  obtain ⟨hclosed, hasked', hsees', -, hfail⟩ := hboth' _ _ htag rfl
  obtain ⟨hnone, -⟩ := rejecter_all_or_nothing true untagged returning
  obtain ⟨-, hstray, -⟩ := rejecter_all_or_nothing true stray returning
  obtain ⟨p, hp, -, heq⟩ := htrip 4294967296
  have huntagged : ∀ tag, ¬ untagged.message.TaggedBy tag := by
    rintro tag (h | ⟨n, h, -⟩)
    · cases h
    · cases h
  have hout := hnone huntagged
  refine ⟨⟨htag, rfl⟩, ⟨congrArg Prod.fst (hok hopen), hsees 0⟩,
    ⟨congrArg Prod.fst (hfail hclosed), hasked', hsees' 0⟩,
    ⟨congrArg Prod.fst hout, congrArg (·.2.requests) hout⟩,
    congrArg Prod.fst (hstray _ htag rfl), ?_⟩
  · cases hp
    exact heq

end AmqpReturns
