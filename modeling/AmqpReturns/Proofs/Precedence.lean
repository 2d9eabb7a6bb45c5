import AmqpReturns.Proofs.Values

/-!
# Proofs — who has the say about a recovered property

The properties of a recovered message come from three sources.  The broker has the first say, under
four keys of its own (`Returned.said?`).  Then come the basic properties that are present, under
their reserved names (`Wire.BasicProperties.named?`), and last the headers that can be read
(`Wire.BasicProperties.header?`).  Under each key the first source that has something decides
(`get?_recovered`), so a header cannot pass for what the broker said, and a header that cannot be
read makes no difference to any other.
-/

namespace AmqpReturns

variable {σ : Type}

/-! ### The sources -/

/-- What the broker said about the return, each part under a key of its own. -/
def Returned.said? (r : Returned) : String → Option Property
  | "amqp.return.reply-code" => some (.uint r.replyCode.toUInt64)
  | "amqp.return.reply-text" => some (.text r.replyText)
  | "amqp.return.exchange" => some (.text r.exchange)
  | "amqp.return.routing-key" => some (.text r.routingKey)
  | _ => none

namespace Wire.BasicProperties

/-- The basic property that a key names, if it is present. -/
def named? (p : BasicProperties) : String → Option Property
  | "content-type" => p.contentType.map .text
  | "content-encoding" => p.contentEncoding.map .text
  | "correlation-id" => p.correlationId.map .text
  | "reply-to" => p.replyTo.map .text
  | "expiration" => p.expiration.map .text
  | "message-id" => p.messageId.map .text
  | "type" => p.kind.map .text
  | "app-id" => p.appId.map .text
  | "delivery-mode" => p.deliveryMode.map fun n => .uint n.toUInt64
  | "priority" => p.priority.map fun n => .uint n.toUInt64
  | "timestamp" => p.timestamp.map .uint
  | _ => none

/-- The property that the header at a key can be read as, if there is one. -/
def header? (p : BasicProperties) (k : String) : Option Property :=
  p.headers.bind fun headers => (headers.get? k).bind Value.toProperty?

end Wire.BasicProperties

/-- Header values that are no property: nested ones, those with a fraction, and void. -/
def Wire.Value.IsSkipped : Value → Prop
  | .float _ | .double _ | .decimal _ _ | .fieldArray _ | .fieldTable _ | .void => True
  | .boolean _ | .shortShortInt _ | .shortShortUInt _ | .shortInt _ | .shortUInt _ | .longInt _
  | .longUInt _ | .longLongInt _ | .shortString _ | .longString _ | .timestamp _
  | .byteArray _ => False

theorem toProperty?_eq_none_iff (v : Wire.Value) : v.toProperty? = none ↔ v.IsSkipped := by
  cases v <;> simp [Wire.Value.toProperty?, Wire.Value.IsSkipped]

/-! ### One layer after the other -/

theorem get?_ofHeaders_headerTable (p : Wire.BasicProperties) (k : String) :
    (Properties.ofHeaders p.headerTable).get? k = p.header? k := by
  rw [Properties.get?_ofHeaders, Wire.BasicProperties.headerTable, Wire.BasicProperties.header?]
  cases p.headers with
  | none => rfl
  | some headers => rfl

section

variable (p : Wire.BasicProperties) (k : String)

/-- The basic properties that are texts, by their reserved names. -/
def Wire.BasicProperties.texts : List (String × Option String) :=
  [("content-type", p.contentType), ("content-encoding", p.contentEncoding),
    ("correlation-id", p.correlationId), ("reply-to", p.replyTo), ("expiration", p.expiration),
    ("message-id", p.messageId), ("type", p.kind), ("app-id", p.appId)]

/-- The basic properties that are numbers, by their reserved names. -/
def Wire.BasicProperties.numbers : List (String × Option UInt64) :=
  [("delivery-mode", p.deliveryMode.map UInt8.toUInt64),
    ("priority", p.priority.map UInt8.toUInt64), ("timestamp", p.timestamp)]

theorem reserved_eq :
    p.reserved =
      p.texts.filterMap (fun q => (q.2.map Property.text).map (q.1, ·)) ++
        p.numbers.filterMap (fun q => (q.2.map Property.uint).map (q.1, ·)) := by
  simp only [Option.map_map]
  rfl

theorem named?_eq :
    p.named? k =
      ((Table.lookup k p.numbers).bind (Option.map Property.uint)).or
        ((Table.lookup k p.texts).bind (Option.map Property.text)) := by
  unfold Wire.BasicProperties.named?
  split
  case h_12 => simp_all [Wire.BasicProperties.numbers, Wire.BasicProperties.texts, Table.lookup]
  all_goals simp [Wire.BasicProperties.numbers, Wire.BasicProperties.texts, Table.lookup,
    Function.comp_def]

/-- The basic properties that are present lie over what was there. -/
theorem get?_reserved (t : Properties) :
    (t.insertMany p.reserved).get? k = (p.named? k).or (t.get? k) := by
  have texts : (p.texts.map Prod.fst).Nodup := by
    simp only [Wire.BasicProperties.texts, List.map_cons, List.map_nil]
    decide
  have numbers : (p.numbers.map Prod.fst).Nodup := by
    simp only [Wire.BasicProperties.numbers, List.map_cons, List.map_nil]
    decide
  rw [reserved_eq, Table.insertMany, List.foldl_append, ← Table.insertMany, ← Table.insertMany,
    Table.get?_insertMany_filterMap _ numbers, Table.get?_insertMany_filterMap _ texts, named?_eq,
    Option.or_assoc]

end

/-- What the broker said lies over everything. -/
theorem get?_verdict (r : Returned) (t : Properties) (k : String) :
    (t.insertMany r.verdict).get? k = (r.said? k).or (t.get? k) := by
  have keys : (r.verdict.map Prod.fst).Nodup := by
    simp only [Returned.verdict, List.map_cons, List.map_nil]
    decide
  have said : r.said? k = (Table.lookup k r.verdict).bind some := by
    unfold Returned.said?
    split
    case h_5 => simp_all [Returned.verdict, Table.lookup, Returned.replyCodeKey,
      Returned.replyTextKey, Returned.exchangeKey, Returned.routingKeyKey]
    all_goals simp [Returned.verdict, Table.lookup, Returned.replyCodeKey,
      Returned.replyTextKey, Returned.exchangeKey, Returned.routingKeyKey]
  rw [said, ← Table.get?_insertMany_filterMap some keys]
  rfl

/-- **The first source that has something decides.** -/
theorem get?_recovered (r : Returned) (k : String) :
    r.inbound.get? k =
      (r.said? k).or ((r.properties.named? k).or (r.properties.header? k)) := by
  rw [Returned.inbound, get?_verdict, get?_reserved, get?_ofHeaders_headerTable]

/-- **Who has the say.**  The standard factory recovers every returned message, with its body, the
encoding given and no outbound properties.  Each inbound property is what the broker said, else
the basic property that the key names, else what the header can be read as, else it is absent.
Headers that are nested, have a fraction or are void cannot be read, and the others keep their
number.  So where the broker or a basic property has the say, headers make no difference, and
elsewhere only the header at the key does. -/
theorem recovered_properties (c : Connector σ) (r : Returned) (encoding : String) (w : World σ) :
    (∃ w', ({ c with factory := .standard, context := ⟨encoding⟩ } : Connector σ).create r w =
      (.ok { payload := r.body, encoding, inbound := r.inbound, outbound := .empty }, w')) ∧
    (∀ k, r.inbound.get? k =
      (r.said? k).or ((r.properties.named? k).or (r.properties.header? k))) ∧
    (∀ v : Wire.Value, (v.toProperty? = none ↔ v.IsSkipped) ∧
      ∀ p, v.toProperty? = some p → p.number? = v.number?) ∧
    ∀ (headers : Option Wire.Headers) (k : String),
      let r' : Returned := { r with properties := { r.properties with headers } }
      ((r.said? k).or (r.properties.named? k)).isSome ∨
          r'.properties.header? k = r.properties.header? k →
        r'.inbound.get? k = r.inbound.get? k := by
  refine ⟨create_standard rfl w, get?_recovered r,
    fun v => ⟨toProperty?_eq_none_iff v, fun p => number?_of_toProperty?⟩, fun headers k => ?_⟩
  intro r' h
  -- What the broker said and the other basic properties are the same for both.
  have hr' : r'.inbound.get? k =
      ((r.said? k).or (r.properties.named? k)).or (r'.properties.header? k) := by
    rw [get?_recovered, ← Option.or_assoc]
    rfl
  rw [hr', get?_recovered, ← Option.or_assoc]
  rcases h with hsome | hheader
  · rw [Option.or_of_isSome hsome, Option.or_of_isSome hsome]
  · rw [hheader]

/-- A message whose headers claim a reply code, a type of content and a priority, and hold a nested
table. -/
def claiming : Returned where
  replyCode := 312
  replyText := "NO_ROUTE"
  exchange := "x"
  routingKey := "k"
  properties :=
    { contentType := some "application/json"
      headers := some (.ofList
        [("amqp.return.reply-code", .longUInt 200), ("content-type", .shortString "text/plain"),
          ("nested", .table [("priority", .longInt 1)]), ("priority", .shortInt 5)]) }
  body := [1]

/-- The claims come to nothing, but for the priority, which no basic property gives.  The nested
table is left out, and the headers are of no account for what the broker said. -/
theorem recovered_properties_claimed :
    (∃ w', plain.create claiming returning =
      (.ok { payload := [1], encoding := "utf-8", inbound := claiming.inbound,
             outbound := .empty }, w')) ∧
      claiming.inbound.get? "amqp.return.reply-code" = some (.uint 312) ∧
      claiming.inbound.get? "content-type" = some (.text "application/json") ∧
      claiming.inbound.get? "priority" = some (.int 5) ∧
      claiming.inbound.get? "nested" = none ∧
      ({ claiming with properties := { claiming.properties with headers := none } } :
        Returned).inbound.get? "content-type" = claiming.inbound.get? "content-type" ∧
      (Property.int 5).number? = (Wire.Value.shortInt 5).number? := by
  obtain ⟨hcreate, hsay, hread, hforge⟩ := recovered_properties plain claiming "utf-8" returning
  refine ⟨hcreate, ?_, ?_, ?_, ?_, hforge none "content-type" (.inl rfl), (hread _).2 _ rfl⟩
  · rw [hsay]
    rfl
  · rw [hsay]
    rfl
  · rw [hsay]
    rfl
  · rw [hsay]
    rfl

end AmqpReturns
