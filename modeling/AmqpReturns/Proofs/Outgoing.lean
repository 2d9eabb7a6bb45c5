import Mathlib.Data.List.Nodup
import AmqpReturns.Proofs.Headers

/-!
# Proofs — what a message is published with

The headers of a published message hold its outbound properties over the headers of the trace
(`get?_withProperties`).  It makes no difference in which order the properties are written there
(`withProperties_perm`), nor in which order they were added to the message: all that counts is the
value that each was given last (`get?_addAll`).  Inbound properties stay behind, and so do they in
between.
-/

namespace AmqpReturns

/-! ### The order of writing -/

/-- Insertions under two keys may come in either order. -/
theorem Table.insert_comm {α : Type} (t : Table α) {k j : String} (v u : α) (h : k ≠ j) :
    (t.insert k v).insert j u = (t.insert j u).insert k v := by
  refine ext_get? fun i => ?_
  simp only [get?_insert]
  by_cases hj : i = j
  · subst hj
    simp only [if_true, if_neg (Ne.symm h)]
  · simp only [if_neg hj]

/-- Pairs with distinct keys may be inserted in any order. -/
theorem Table.insertMany_perm {α : Type} {pairs pairs' : List (String × α)}
    (h : pairs.Perm pairs') (hkeys : (pairs.map Prod.fst).Nodup) (t : Table α) :
    t.insertMany pairs = t.insertMany pairs' := by
  refine h.foldl_eq' (fun a ha b hb t => ?_) t
  by_cases hab : a = b
  · rw [hab]
  · exact t.insert_comm a.2 b.2 fun e => hab (List.inj_on_of_nodup_map hkeys ha hb e)

/-- Headers with entries of properties written over them, in the order given. -/
def Wire.Headers.withEntries (headers : Headers) (entries : List (String × Property)) : Headers :=
  entries.foldl (fun headers p => headers.insert p.1 (.ofProperty p.2)) headers

/-- **Properties may be written in any order.** -/
theorem withProperties_perm {entries : List (String × Property)} {ps : Properties}
    (h : entries.Perm ps.toList) (headers : Wire.Headers) :
    headers.withEntries entries = headers.withProperties ps := by
  have hkeys : ((ps.toList.map fun p => (p.1, Wire.Value.ofProperty p.2)).map Prod.fst).Nodup := by
    rw [List.map_map]
    exact ps.nodup_keys
  have hperm := h.map fun p => (p.1, Wire.Value.ofProperty p.2)
  rw [Wire.Headers.withProperties, Table.insertMany_perm hperm.symm hkeys, Table.insertMany,
    List.foldl_map, Wire.Headers.withEntries]

/-! ### The order of adding -/

/-- A property that is added to a message. -/
inductive Addition where
  | inbound (key : String) (value : Property)
  | outbound (key : String) (value : Property)

namespace Message

/-- The message with a property added. -/
def add (m : Message) : Addition → Message
  | .inbound key value => m.withInbound key value
  | .outbound key value => m.withOutbound key value

/-- The message with properties added in turn. -/
def addAll (m : Message) (as : List Addition) : Message :=
  as.foldl add m

end Message

/-- The value that an outbound property is given last. -/
def lastOutbound (k : String) : List Addition → Option Property
  | [] => none
  | .inbound _ _ :: as => lastOutbound k as
  | .outbound key value :: as => (lastOutbound k as).or (if k = key then some value else none)

/-- **What counts of additions** for an outbound property is the last. -/
theorem get?_addAll (as : List Addition) (m : Message) (k : String) :
    (m.addAll as).outbound.get? k = (lastOutbound k as).or (m.outbound.get? k) := by
  induction as generalizing m with
  | nil => rfl
  | cons a as ih =>
      rw [show m.addAll (a :: as) = (m.add a).addAll as from rfl, ih]
      cases a with
      | inbound key value => rfl
      | outbound key value =>
          rw [lastOutbound, Option.or_assoc, Message.add, Message.withOutbound, Table.get?_insert]
          by_cases hk : k = key
          · simp only [if_pos hk, Option.some_or]
          · simp only [if_neg hk, Option.none_or]

theorem encoding_addAll (as : List Addition) (m : Message) :
    (m.addAll as).encoding = m.encoding := by
  induction as generalizing m with
  | nil => rfl
  | cons a as ih =>
      rw [show m.addAll (a :: as) = (m.add a).addAll as from rfl, ih]
      cases a with
      | inbound key value => rfl
      | outbound key value => rfl

/-- Messages that are made anew have the same outbound properties if each was given the same
value last. -/
theorem outbound_addAll {as bs : List Addition}
    (h : ∀ k, lastOutbound k as = lastOutbound k bs) (payload payload' : List UInt8)
    (encoding encoding' : String) :
    ((Message.ofPayload payload encoding).addAll as).outbound =
      ((Message.ofPayload payload' encoding').addAll bs).outbound := by
  refine Table.ext_get? fun k => ?_
  rw [get?_addAll, get?_addAll, h k]
  rfl

/-- **What a message is published with.**  There are headers, with the outbound properties over
the trace, whatever the order in which they are written; the type of the content, its encoding and
the identity drawn for the message; and nothing else.  Payload and inbound properties are of no
account.  And of the way in which a message was made nothing counts but its encoding and the
values that its outbound properties were given last. -/
theorem published_properties (trace : Wire.Headers) :
    (∀ (m : Message) (id : Identity), ∃ headers : Wire.Headers,
      m.basicProperties trace id =
        { contentType := some "application/json"
          contentEncoding := some m.encoding
          messageId := some id.text
          headers := some headers } ∧
      (∀ k, headers.get? k =
        ((m.outbound.get? k).map Wire.Value.ofProperty).or (trace.get? k)) ∧
      ∀ entries, entries.Perm m.outbound.toList → trace.withEntries entries = headers) ∧
    (∀ (m : Message) (id : Identity) (payload : List UInt8) (inbound : Properties),
      { m with payload, inbound }.basicProperties trace id = m.basicProperties trace id) ∧
    ∀ as bs, (∀ k, lastOutbound k as = lastOutbound k bs) →
      ∀ (payload payload' : List UInt8) (encoding encoding' : String) (id id' : Identity),
        ((Message.ofPayload payload' encoding').addAll bs).basicProperties trace id' =
          { ((Message.ofPayload payload encoding).addAll as).basicProperties trace id with
            contentEncoding := some encoding'
            messageId := some id'.text } := by
  refine ⟨fun m id => ⟨trace.withProperties m.outbound, rfl, get?_withProperties trace m.outbound,
    fun entries h => withProperties_perm h trace⟩, fun m id payload inbound => rfl, ?_⟩
  intro as bs h payload payload' encoding encoding' id id'
  simp only [Message.basicProperties, outbound_addAll h payload payload' encoding encoding',
    encoding_addAll]
  rfl

/-- The headers of a trace. -/
def traced : Wire.Headers :=
  .ofList [("span", .longString [115]), ("trace", .longString [116])]

/-- One property stands over a header of the trace, and one is too large for an unsigned header; the
other header of the trace stays.  It does not matter which of the two properties is written first,
nor that the one message had its first property set twice and the other has a different inbound
one. -/
theorem published_properties_overwritten :
    let early : List Addition :=
      [.outbound "trace" (.bool false), .inbound "big" (.bool true),
        .outbound "big" (.uint 4294967296), .outbound "trace" (.bool true)]
    let late : List Addition :=
      [.outbound "trace" (.bool true), .inbound "span" (.text "in"),
        .outbound "big" (.uint 4294967296)]
    let m := (Message.ofPayload [1] "utf-8").addAll early
    ∃ headers : Wire.Headers,
      (m.basicProperties traced ⟨0⟩).headers = some headers ∧
      headers.get? "trace" = some (.boolean true) ∧
      headers.get? "span" = some (.longString [115]) ∧
      headers.get? "big" = some (.longLongInt 4294967296) ∧
      traced.withEntries [("trace", .bool true), ("big", .uint 4294967296)] = headers ∧
      ((Message.ofPayload [] "utf-16").addAll late).basicProperties traced ⟨1⟩ =
        { m.basicProperties traced ⟨0⟩ with
          contentEncoding := some "utf-16"
          messageId := some (Identity.text ⟨1⟩) } := by
  intro early late m
  have hlast : ∀ k, lastOutbound k early = lastOutbound k late := by
    intro k
    simp only [early, late, lastOutbound, Option.none_or]
    by_cases hbig : k = "big"
    · simp only [hbig, if_true, show ¬"big" = "trace" by decide, if_false,
        Option.none_or, Option.or_none]
    · by_cases htrace : k = "trace"
      · simp only [htrace, if_true, Option.some_or, show ¬"trace" = "big" by decide, if_false,
          Option.none_or]
      · simp only [if_neg hbig, if_neg htrace, Option.none_or]
  obtain ⟨hmessage, -, hmade⟩ := published_properties traced
  obtain ⟨headers, hm, hget, hentries⟩ := hmessage m ⟨0⟩
  refine ⟨headers, by rw [hm], ?_, ?_, ?_, hentries _ (.swap _ _ _),
    hmade early late hlast [1] [] "utf-8" "utf-16" ⟨0⟩ ⟨1⟩⟩
  · rw [hget]
    rfl
  · rw [hget]
    rfl
  · rw [hget]
    rfl

end AmqpReturns
