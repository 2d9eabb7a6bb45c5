import AmqpReturns.Flow.Propagation
import AmqpReturns.Proofs.Utf8
import AmqpReturns.Returned.Recovery
import AmqpReturns.Wire.Outgoing

/-!
# Proofs — properties through headers

A property written as a header value is read back as its normal form (`toProperty?_ofProperty`).
Reading headers as properties looks at each key for itself (`get?_ofHeaders`), so it goes along
with insertion (`ofHeaders_insertMany`), and the properties of a message that comes back are
known layer by layer (`inbound_basicProperties`).
-/

namespace AmqpReturns

/-! ### One value -/

/-- **A property comes back from its header value**, in normal form. -/
theorem toProperty?_ofProperty (v : Property) :
    (Wire.Value.ofProperty v).toProperty? = some v.normalize := by
  cases v with
  | bool v => rfl
  | int v => rfl
  | text v =>
      simp only [Wire.Value.ofProperty, Wire.Value.toProperty?, Property.normalize,
        Text.Utf8.decodeLossy_encode]
  | bytes v => rfl
  | uint v =>
      simp only [Wire.Value.ofProperty, Property.normalize]
      by_cases hs : v.toNat < UInt32.size
      · have hv : v.toUInt32.toUInt64 = v := by
          rw [← UInt64.toNat_inj, UInt32.toNat_toUInt64, UInt64.toNat_toUInt32]
          exact Nat.mod_eq_of_lt hs
        rw [if_pos hs, if_neg fun h => Nat.not_le.mpr hs h.1]
        simp only [Wire.Value.toProperty?, hv]
      · rw [if_neg hs]
        by_cases hm : v.toNat < 0x8000000000000000
        · rw [if_pos hm, if_pos ⟨Nat.not_lt.mp hs, hm⟩]
          rfl
        · rw [if_neg hm, if_neg fun h => hm h.2]
          rfl

/-! ### Whole tables -/

/-- The keys of a table are distinct. -/
theorem Table.nodup_keys {α : Type} (t : Table α) : t.keys.Nodup :=
  List.pairwise_map.mpr (t.sorted.imp String.ne_of_lt)

theorem Table.lookup_eq_none_of_not_mem {α : Type} {k : String} {entries : List (String × α)}
    (h : k ∉ entries.map Prod.fst) : lookup k entries = none := by
  induction entries with
  | nil => rfl
  | cons p rest ih =>
      rw [List.map_cons, List.mem_cons, not_or] at h
      rw [lookup, if_neg h.1, ih h.2]

/-- **What is read of entries with distinct keys** is found under each key for itself, over what
was there.  An entry that cannot be read makes no difference to any key. -/
theorem Table.get?_insertMany_filterMap {α β : Type} (f : α → Option β)
    {entries : List (String × α)} (h : (entries.map Prod.fst).Nodup) (t : Table β) (k : String) :
    (t.insertMany (entries.filterMap fun p => (f p.2).map (p.1, ·))).get? k =
      ((lookup k entries).bind f).or (t.get? k) := by
  induction entries generalizing t with
  | nil => rfl
  | cons p rest ih =>
      obtain ⟨key, v⟩ := p
      obtain ⟨hkey, hrest⟩ := List.nodup_cons.mp h
      cases hf : f v with
      | none =>
          rw [List.filterMap_cons_none (by rw [hf]; rfl), ih hrest]
          by_cases hk : k = key
          · -- The entry is left out, and no other has its key.
            subst hk
            rw [lookup_eq_none_of_not_mem hkey]
            simp only [lookup, if_true, Option.bind_none, Option.bind_some, hf]
          · simp only [lookup, hk, if_false]
      | some b =>
          rw [List.filterMap_cons_some (by rw [hf]; rfl)]
          rw [show t.insertMany ((key, b) :: _) = (t.insert key b).insertMany _ from rfl,
            ih hrest, get?_insert]
          by_cases hk : k = key
          · subst hk
            rw [lookup_eq_none_of_not_mem hkey]
            simp only [lookup, if_true, Option.bind_none, Option.bind_some, hf, Option.none_or,
              Option.some_or]
          · simp only [lookup, hk, if_false]

/-- Of entries with distinct keys each is found under its own. -/
theorem Table.get?_insertMany_of_mem {α : Type} {entries : List (String × α)}
    (h : (entries.map Prod.fst).Nodup) (t : Table α) {p : String × α} (hp : p ∈ entries) :
    (t.insertMany entries).get? p.1 = some p.2 := by
  induction entries generalizing t with
  | nil => cases hp
  | cons q rest ih =>
      obtain ⟨hkey, hrest⟩ := List.nodup_cons.mp h
      rcases List.mem_cons.mp hp with rfl | hp
      · have hover : ((t.insert p.1 p.2).insertMany rest).get? p.1 =
            (t.insert p.1 p.2).get? p.1 :=
          get?_insertMany_of_not_mem rest _ fun q hq e => hkey (e ▸ List.mem_map_of_mem hq)
        exact hover.trans (get?_insert_self t p.1 p.2)
      · exact ih hrest (t.insert q.1 q.2) hp

namespace Properties

/-- What headers hold at a key is read for itself. -/
theorem get?_ofHeaders (headers : Wire.Headers) (k : String) :
    (ofHeaders headers).get? k = (headers.get? k).bind Wire.Value.toProperty? := by
  rw [ofHeaders, Table.ofList, Table.get?_insertMany_filterMap _ headers.nodup_keys,
    Table.get?_empty, Option.or_none]
  rfl

theorem ofHeaders_empty : ofHeaders .empty = .empty := rfl

theorem ofHeaders_insert (headers : Wire.Headers) (k : String) {v : Wire.Value} {p : Property}
    (h : v.toProperty? = some p) :
    ofHeaders (headers.insert k v) = (ofHeaders headers).insert k p := by
  refine Table.ext_get? fun j => ?_
  rw [get?_ofHeaders, Table.get?_insert, Table.get?_insert, get?_ofHeaders]
  by_cases hj : j = k
  · rw [if_pos hj, if_pos hj, Option.bind_some, h]
  · rw [if_neg hj, if_neg hj]

/-- Reading goes along with insertion, where each value can be read. -/
theorem ofHeaders_insertMany {α : Type} (key : α → String) {value : α → Wire.Value}
    {read : α → Property} (h : ∀ a, (value a).toProperty? = some (read a)) (as : List α)
    (headers : Wire.Headers) :
    ofHeaders (headers.insertMany (as.map fun a => (key a, value a))) =
      (ofHeaders headers).insertMany (as.map fun a => (key a, read a)) := by
  induction as generalizing headers with
  | nil => rfl
  | cons a as ih =>
      have ih := ih (headers.insert (key a) (value a))
      rw [ofHeaders_insert headers (key a) (h a)] at ih
      exact ih

end Properties

/-- What properties leave in the headers that they are written over: each its value under its key,
and under the other keys what was there. -/
theorem get?_withProperties (headers : Wire.Headers) (ps : Properties) (k : String) :
    (headers.withProperties ps).get? k =
      ((ps.get? k).map Wire.Value.ofProperty).or (headers.get? k) := by
  have hsorted : (ps.toList.map fun p => (p.1, Wire.Value.ofProperty p.2)).Pairwise
      (fun a b => a.1 < b.1) := List.pairwise_map.mpr ps.sorted
  rw [Wire.Headers.withProperties, Table.get?_insertMany_sorted headers hsorted,
    Table.lookup_map]
  rfl

/-! ### A message that comes back -/

/-- The headers of a trace context, as properties. -/
def Propagator.texts (p : Propagator) (caller : Option String) : Properties :=
  .ofList ((p.inject ++ caller.toList.map (callerKey, ·)).map
    fun pair => (Text.Lower.lower pair.1, .text pair.2))

/-- The properties that come back when these are sent. -/
def Properties.normalized (ps : Properties) : List (String × Property) :=
  ps.toList.map fun p => (p.1, p.2.normalize)

theorem ofHeaders_injected (p : Propagator) (caller : Option String) :
    Properties.ofHeaders (p.injected caller) = p.texts caller := by
  have h (a : String × String) :
      (Wire.Value.longString (Text.Utf8.encode a.2)).toProperty? = some (.text a.2) := by
    rw [Wire.Value.toProperty?, Text.Utf8.decodeLossy_encode]
  have hm := Properties.ofHeaders_insertMany (fun a : String × String => Text.Lower.lower a.1) h
    (p.inject ++ caller.toList.map (callerKey, ·)) .empty
  rw [Properties.ofHeaders_empty, Table.insertMany, List.foldl_map] at hm
  exact hm

theorem ofHeaders_withProperties (headers : Wire.Headers) (ps : Properties) :
    Properties.ofHeaders (headers.withProperties ps) =
      (Properties.ofHeaders headers).insertMany ps.normalized :=
  Properties.ofHeaders_insertMany Prod.fst
    (fun p : String × Property => toProperty?_ofProperty p.2) ps.toList headers

/-- **The layers of what comes back**: the trace, the message's outbound properties over it, the
basic properties over them, and on top what the broker said. -/
theorem inbound_basicProperties (m : Message) (p : Propagator) (caller : Option String)
    (id : Identity) {r : Returned}
    (h : r.properties = m.basicProperties (p.injected caller) id) :
    r.inbound =
      (((p.texts caller).insertMany m.outbound.normalized).insertMany
        [("content-type", .text "application/json"), ("content-encoding", .text m.encoding),
          ("message-id", .text id.text)]).insertMany
        [("amqp.return.reply-code", .uint r.replyCode.toUInt64),
          ("amqp.return.reply-text", .text r.replyText),
          ("amqp.return.exchange", .text r.exchange),
          ("amqp.return.routing-key", .text r.routingKey)] := by
  have hh : r.properties.headerTable = (p.injected caller).withProperties m.outbound := by
    rw [h]
    rfl
  have hr : r.properties.reserved =
      [("content-type", .text "application/json"), ("content-encoding", .text m.encoding),
        ("message-id", .text id.text)] := by
    rw [h]
    rfl
  rw [Returned.inbound, hh, hr, ofHeaders_withProperties, ofHeaders_injected]
  rfl

end AmqpReturns
