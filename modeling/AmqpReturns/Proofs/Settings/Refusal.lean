import AmqpReturns.Proofs.Settings.Documents

/-!
# Proofs — documents that give no settings

Reading settings gives settings and no log, or a failure and one log with the same text
(`ofJson_cases`).  What is wrong with a document (`Wrong`) is said of the one way in which its text
is cut into members or items, whatever the others are: a value that a field does not accept, a
field that comes twice, or more items than there are fields.  A wrong document gives no settings
(`read_of_wrong`).
-/

namespace AmqpReturns

open Json

namespace Settings

/-! ### What is wrong with a document -/

/-- The values that a field accepts: an integer that a port can have, a truth value, or a
string. -/
def Field.Accepts : Field → List Char → Prop
  | .port, w => IsInteger w ∧ Nat.ofDigitChars 10 w 0 ≤ 65535
  | .mandatory, w => w = "true".toList ∨ w = "false".toList
  | .appName, w | .host, w | .user, w | .password, w | .vhost, w | .defaultEncoding, w =>
    ∃ k, IsBody k ∧ w = quoted k

/-- The key is the name of the field, in some spelling. -/
def Names (m : Member) (f : Field) : Prop :=
  Spells m.1 f.name.toList

/-- What is wrong with a value that was meant to describe settings. -/
inductive WrongValue : List Char → Prop where
  | scalar {w : List Char} (hv : IsValue w) (hl : ∀ ws, ¬ IsList ws w)
      (ho : ∀ ms, ¬ IsObject ms w) : WrongValue w
  | twice {before between after : List Member} {m m' : Member} {f : Field} {w : List Char}
      (h : IsObject (before ++ m :: (between ++ m' :: after)) w)
      (hms : WellFormed (before ++ m :: (between ++ m' :: after))) (hm : Names m f)
      (hm' : Names m' f) : WrongValue w
  | mistyped {ms : List Member} {m : Member} {f : Field} {w : List Char} (h : IsObject ms w)
      (hms : WellFormed ms) (hm : m ∈ ms) (hf : Names m f) (hv : ¬ f.Accepts m.2) : WrongValue w
  | misplaced {ws : List (List Char)} {i : Nat} {v : List Char} {f : Field} {w : List Char}
      (h : IsList ws w) (hws : ∀ v ∈ ws, IsValue v) (hi : ws[i]? = some v)
      (hf : Field.all[i]? = some f) (hv : ¬ f.Accepts v) : WrongValue w
  | long {ws : List (List Char)} {w : List Char} (h : IsList ws w) (hws : ∀ v ∈ ws, IsValue v)
      (hlen : 8 < ws.length) : WrongValue w

/-- What is wrong with a text: it is not one well-formed value with blanks around it, or that value
is wrong. -/
inductive Wrong (text : List Char) : Prop where
  | malformed (h : ∀ w, Between w text → ¬ IsValue w)
  | value {w : List Char} (hb : Between w text) (h : WrongValue w)

theorem WrongValue.isValue {w : List Char} (h : WrongValue w) : IsValue w := by
  cases h with
  | scalar hv => exact hv
  | twice h hms | mistyped h hms => exact h.isValue hms
  | misplaced h hws | long h hws => exact .list h hws

/-! ### Why it cannot be read -/

theorem Field.Writes.accepts {f : Field} {v : f.Value} {w : List Char} (h : f.Writes v w) :
    f.Accepts w := by
  cases f with
  | port =>
    subst h
    refine ⟨isInteger_toDigits _, ?_⟩
    rw [Nat.ofDigitChars_ten_toDigits]
    exact Nat.le_of_lt_succ (UInt16.toNat_lt v)
  | mandatory =>
    cases v with
    | false => exact .inr h
    | true => exact .inl h
  | appName | host | user | password | vhost | defaultEncoding =>
    obtain ⟨k, hk, rfl⟩ := h
    exact ⟨k, hk.isBody, rfl⟩

theorem Field.name_injective {f f' : Field} (h : f.name = f'.name) : f = f' := by
  have hf := Field.ofName?_eq_some_iff.mpr h
  rw [Field.ofName?_eq_some_iff.mpr rfl] at hf
  exact Option.some.inj hf

/-- A member under a field's name is the first for that field, and the field accepts its value. -/
theorem Given.Takes.of_names {g g' : Given} {m : Member} {f : Field} (h : g.Takes m g')
    (hf : Names m f) : f ∉ g.fields ∧ f ∈ g'.fields ∧ f.Accepts m.2 := by
  cases h with
  | @field f' v k w hk hnew hv =>
    obtain rfl := Field.name_injective (String.toList_inj.mp (hk.unique hf))
    exact ⟨hnew, List.mem_cons_self, hv.accepts⟩
  | other hk hn hv =>
    have hname := String.toList_inj.mp (hk.unique hf)
    exact absurd hname (Field.ofName?_eq_none_iff.mp hn f)

theorem Given.Takes.mem_fields {g g' : Given} {m : Member} {f : Field} (h : g.Takes m g')
    (hf : f ∈ g.fields) : f ∈ g'.fields := by
  cases h with
  | field => exact List.mem_cons_of_mem _ hf
  | other => exact hf

theorem Given.TakesAll.mem_fields {g g' : Given} {ms : List Member} {f : Field}
    (h : g.TakesAll ms g') (hf : f ∈ g.fields) : f ∈ g'.fields := by
  induction h with
  | nil => exact hf
  | cons h _ ih => exact ih (h.mem_fields hf)

/-- What has been taken up to a member, and what is taken after it. -/
theorem Given.TakesAll.split {g g' : Given} {before after : List Member} {m : Member}
    (h : g.TakesAll (before ++ m :: after) g') :
    ∃ g₁ g₂, g.TakesAll before g₁ ∧ g₁.Takes m g₂ ∧ g₂.TakesAll after g' := by
  induction before generalizing g with
  | nil =>
    cases h with
    | cons h hms => exact ⟨g, _, .nil, h, hms⟩
  | cons m' before ih =>
    cases h with
    | cons h hms =>
      obtain ⟨g₁, g₂, hbefore, hm, hafter⟩ := ih hms
      exact ⟨g₁, g₂, .cons h hbefore, hm, hafter⟩

theorem Fills.accepts {s s' : Settings} {fs : List Field} {ws : List (List Char)}
    (h : Fills s fs ws s') {i : Nat} {v : List Char} {f : Field} (hi : ws[i]? = some v)
    (hf : fs[i]? = some f) : f.Accepts v := by
  induction h generalizing i with
  | nil => simp at hi
  | cons hv _ ih =>
    cases i with
    | zero =>
      cases hi
      cases hf
      exact hv.accepts
    | succ i => exact ih hi hf

theorem Fills.length_le {s s' : Settings} {fs : List Field} {ws : List (List Char)}
    (h : Fills s fs ws s') : ws.length ≤ fs.length := by
  induction h with
  | nil => exact Nat.zero_le _
  | cons _ _ ih => exact Nat.succ_le_succ ih

theorem Fills.isValue {s s' : Settings} {fs : List Field} {ws : List (List Char)}
    (h : Fills s fs ws s') : ∀ v ∈ ws, IsValue v := by
  induction h with
  | nil => exact fun _ hv => absurd hv List.not_mem_nil
  | cons hv _ ih => exact List.forall_mem_cons.mpr ⟨hv.isValue, ih⟩

theorem Describes.isValue {w : List Char} {s : Settings} (h : Describes w s) : IsValue w := by
  cases h with
  | list h hf => exact .list h hf.isValue
  | object h hg => exact h.isValue hg.wellFormed

theorem not_isObject_of_isList {ws : List (List Char)} {ms : List Member} {w : List Char}
    (h : IsList ws w) (h' : IsObject ms w) : False := by
  cases h
  cases h'

/-- A wrong value describes no settings: the settings would say how it is cut, and it is cut in one
way only. -/
theorem WrongValue.not_describes {w : List Char} {s : Settings} (h : WrongValue w) :
    ¬ Describes w s := by
  rintro (⟨hl, hf⟩ | ⟨ho, hg⟩)
  · cases h with
    | scalar _ hl' => exact hl' _ hl
    | twice h | mistyped h => exact not_isObject_of_isList hl h
    | misplaced h hws hi hfi hv =>
      obtain rfl := h.unique hl hws hf.isValue
      exact hv (hf.accepts hi hfi)
    | long h hws hlen =>
      obtain rfl := h.unique hl hws hf.isValue
      exact absurd hf.length_le (Nat.not_le_of_lt hlen)
  · cases h with
    | scalar _ _ ho' => exact ho' _ ho
    | twice h hms hm hm' =>
      obtain rfl := h.unique ho hms hg.wellFormed
      obtain ⟨_, g₁, -, htakes, hg⟩ := hg.split
      obtain ⟨g₂, _, hbetween, htakes', -⟩ := hg.split
      have hfirst := hbetween.mem_fields (htakes.of_names hm).2.1
      exact (htakes'.of_names hm').1 hfirst
    | mistyped h hms hm hfm hv =>
      obtain rfl := h.unique ho hms hg.wellFormed
      obtain ⟨before, after, rfl⟩ := List.append_of_mem hm
      obtain ⟨_, _, -, htakes, -⟩ := hg.split
      exact hv (htakes.of_names hfm).2.2
    | misplaced h | long h => exact not_isObject_of_isList h ho

/-- There is only one value between the blanks of a text. -/
theorem between_unique {w w' text : List Char} (hb : Between w text) (hb' : Between w' text)
    (h : IsValue w) (h' : IsValue w') : w = w' := by
  obtain ⟨bs, rest, hbs, hrest, rfl⟩ := hb
  obtain ⟨bs', rest', hbs', hrest', heq⟩ := hb'
  have heq := eq_of_blanks hbs hbs' h.passes.head h'.passes.head heq
  exact (h.unique h' hrest.ends hrest'.ends heq).1

theorem read_of_wrong {text : String} (h : Wrong text.toList) (s : Settings) :
    read text ≠ .ok s := by
  intro hread
  obtain ⟨w, hb, hw⟩ := read_eq_ok_iff.mp hread
  cases h with
  | malformed h => exact h w hb hw.isValue
  | value hb' h =>
    obtain rfl := between_unique hb hb' hw.isValue h.isValue
    exact h.not_describes hw

/-! ### Failures -/

/-- Reading fails with a text that is also logged, and logs nothing else. -/
def Refused (text : String) : Prop :=
  ∃ m, ofJson text = (.error (.configuration m),
    [⟨.error, "failure to parse amqp configs", [("error", .text m)]⟩])

theorem ofJson_cases (text : String) : (∃ s, ofJson text = (.ok s, [])) ∨ Refused text := by
  unfold Refused ofJson
  cases read text with
  | ok s => exact .inl ⟨s, rfl⟩
  | error e => exact .inr ⟨e.message, rfl⟩

theorem refused_of_read {text : String} (h : ∀ s, read text ≠ .ok s) : Refused text := by
  unfold Refused ofJson
  cases hr : read text with
  | ok s => exact absurd hr (h s)
  | error e => exact ⟨e.message, rfl⟩

/-- **No document is accepted in part.**  Every text gives settings and no log, or a failure that
is logged once; and it gives the failure if anything is wrong with the document. -/
theorem ofJson_all_or_nothing (text : String) :
    ((∃ s, ofJson text = (.ok s, [])) ∨ Refused text) ∧ (Wrong text.toList → Refused text) :=
  ⟨ofJson_cases text, fun h => refused_of_read (read_of_wrong h)⟩

/-- A port that comes again in another spelling, and a port that is minus zero behind a member that
is passed over. -/
theorem ofJson_all_or_nothing_ports :
    Refused "\x7b\"port\":1, \"p\\u006frt\":2\x7d" ∧ Refused "\x7b\"x\":null,\"port\":-0\x7d" := by
  have blank : Blanks [' '] := by decide
  have letter : IsHex ['0', '0', '6', 'f'] 'o'.toNat :=
    .four (x := 0) (y := 0) (z := 6) (u := 15) (by decide) (by decide) (by decide) (by decide)
  have plain : Spells "port".toList "port".toList := spells_self (by decide)
  have spelled : Spells (['p'] ++ ('\\' :: 'u' :: ['0', '0', '6', 'f'] ++ "rt".toList))
      "port".toList := .cons (.plain (by decide)) (.cons (.hex letter) (spells_self (by decide)))
  have other : Spells "x".toList "x".toList := spells_self (by decide)
  have one : IsValue "1".toList := .scalar (.number (IsInteger.isNumber (by decide)))
  have two : IsValue "2".toList := .scalar (.number (IsInteger.isNumber (by decide)))
  have zero : IsNumber (['-'] ++ (['0'] ++ ([] ++ []))) := .parts (by simp) (by decide) .none .none
  have pair {m m' : Member} (h : IsBody m.1 ∧ IsValue m.2) (h' : IsBody m'.1 ∧ IsValue m'.2) :
      WellFormed [m, m'] := List.forall_mem_cons.mpr ⟨h, List.forall_mem_singleton.mpr h'⟩
  have again : WrongValue _ :=
    @WrongValue.twice [] [] [] _ _ .port _
      (.mk (.head blanks_nil (.next blanks_nil blank (.done blanks_nil)))
        (.cons (.mk blanks_nil blanks_nil) (.cons (.mk blanks_nil blanks_nil) .nil)))
      (pair ⟨plain.isBody, one⟩ ⟨spelled.isBody, two⟩) plain spelled
  have negative : WrongValue _ :=
    .mistyped (f := .port)
      (.mk (.head blanks_nil (.next blanks_nil blanks_nil (.done blanks_nil)))
        (.cons (.mk blanks_nil blanks_nil) (.cons (.mk blanks_nil blanks_nil) .nil)))
      (pair ⟨other.isBody, .scalar .null⟩ ⟨plain.isBody, .scalar (.number zero)⟩)
      (List.mem_cons_of_mem _ List.mem_cons_self) plain (fun h => absurd h.1 (by decide))
  exact ⟨(ofJson_all_or_nothing _).2 (.value ⟨[], [], blanks_nil, blanks_nil, rfl⟩ again),
    (ofJson_all_or_nothing _).2 (.value ⟨[], [], blanks_nil, blanks_nil, rfl⟩ negative)⟩

end Settings

end AmqpReturns
