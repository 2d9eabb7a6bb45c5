import AmqpReturns.Proofs.Settings.Documents

/-!
# Proofs — settings are recovered from their documents

A document of settings `c` gives some of its fields (`Presents`): as an object with its members in
any order and members of other names among them, or as the list of its first fields.  Whatever way
it is written in, reading it gives the values of `c` for these fields and the defaults for the
others (`ofJson_of_presents`).
-/

namespace AmqpReturns

open Json

namespace Settings

/-- What a member of a document is for. -/
inductive Entry where
  | field (f : Field)
  /-- Something else, under a name of its own. -/
  | other (name : String)

/-- The field that an entry gives. -/
def Entry.field? : Entry → Option Field
  | .field f => some f
  | .other _ => none

/-- The ways to write an entry of a document of `c`. -/
def Entry.Writes (c : Settings) : Entry → Member → Prop
  | .field f, (k, w) => Spells k f.name.toList ∧ f.Writes (c.get f) w
  | .other name, (k, w) => (∀ f : Field, name ≠ f.name) ∧ Spells k name.toList ∧ IsValue w

/-- The value presents those fields of `c`, each once. -/
inductive Presents (c : Settings) : List Field → List Char → Prop where
  | object {entries : List Entry} {ms : List Member} {w : List Char} (h : IsObject ms w)
      (hms : List.Forall₂ (Entry.Writes c) entries ms)
      (hd : (entries.filterMap Entry.field?).Nodup) :
      Presents c (entries.filterMap Entry.field?) w
  | list {n : Nat} {ws : List (List Char)} {w : List Char} (h : IsList ws w)
      (hws : List.Forall₂ (fun f w => f.Writes (c.get f) w) (Field.all.take n) ws) :
      Presents c (Field.all.take n) w

/-- `s` has the values of `c` in the fields, and those of `s₀` elsewhere. -/
def Over (c s₀ : Settings) (fields : List Field) (s : Settings) : Prop :=
  ∀ f, s.get f = if f ∈ fields then c.get f else s₀.get f

theorem over_nil (c s : Settings) : Over c s [] s := fun _ => rfl

theorem Over.cons {c s s' : Settings} {f : Field} {fields : List Field}
    (h : Over c (s.set f (c.get f)) fields s') : Over c s (f :: fields) s' := by
  intro g
  rw [h g]
  by_cases hg : g = f
  · subst hg
    simp [get_set_self]
  · simp [hg, get_set_of_ne]

/-- Settings are what their fields are. -/
theorem eq_of_get_eq {s s' : Settings} (h : ∀ f, s.get f = s'.get f) : s = s' := by
  cases s
  cases s'
  rw [mk.injEq]
  exact ⟨h .appName, h .host, h .port, h .user, h .password, h .vhost, h .defaultEncoding,
    h .mandatory⟩

theorem takesAll_of_writes {c : Settings} {entries : List Entry} {ms : List Member}
    (h : List.Forall₂ (Entry.Writes c) entries ms) (g : Given)
    (hd : (entries.filterMap Entry.field?).Nodup)
    (hg : ∀ f ∈ entries.filterMap Entry.field?, f ∉ g.fields) :
    ∃ g', g.TakesAll ms g' ∧ Over c g.settings (entries.filterMap Entry.field?) g'.settings := by
  induction h generalizing g with
  | nil => exact ⟨g, .nil, over_nil c _⟩
  | @cons entry m entries ms hm _ ih =>
    obtain ⟨k, w⟩ := m
    cases entry with
    | field f =>
      obtain ⟨hk, hv⟩ := hm
      obtain ⟨hf, hd⟩ := List.nodup_cons.mp hd
      obtain ⟨g', hg', hover⟩ := ih ⟨g.settings.set f (c.get f), f :: g.fields⟩ hd fun f' hf' => by
        rw [List.mem_cons, not_or]
        exact ⟨fun heq => hf (heq ▸ hf'), hg f' (List.mem_cons_of_mem _ hf')⟩
      exact ⟨g', .cons (.field hk (hg f List.mem_cons_self) hv) hg', hover.cons⟩
    | other name =>
      obtain ⟨hname, hk, hv⟩ := hm
      obtain ⟨g', hg', hover⟩ := ih g hd hg
      exact ⟨g', .cons (.other hk (Field.ofName?_eq_none_iff.mpr hname) hv) hg', hover⟩

theorem fills_of_writes {c : Settings} {fs : List Field} {ws : List (List Char)}
    (h : List.Forall₂ (fun f w => f.Writes (c.get f) w) fs ws) (fs' : List Field) (s : Settings) :
    ∃ s', Fills s (fs ++ fs') ws s' ∧ Over c s fs s' := by
  induction h generalizing s with
  | nil => exact ⟨s, .nil, over_nil c s⟩
  | @cons f w fs ws hv _ ih =>
    obtain ⟨s', hf, hover⟩ := ih (s.set f (c.get f))
    exact ⟨s', .cons hv hf, hover.cons⟩

/-- **Settings are recovered from every document of theirs**, and nothing is logged. -/
theorem ofJson_of_presents (c : Settings) {fields : List Field} {text : String} {w : List Char}
    (hb : Between w text.toList) (h : Presents c fields w) :
    ∃ s, ofJson text = (.ok s, []) ∧
      ∀ f, s.get f = if f ∈ fields then c.get f else Settings.default.get f := by
  have ok {s : Settings} (hs : Describes w s) : ofJson text = (.ok s, []) := by
    rw [ofJson, read_eq_ok_iff.mpr ⟨w, hb, hs⟩]
  cases h with
  | object h hms hd =>
    obtain ⟨g, hg, hover⟩ := takesAll_of_writes hms {} hd (by simp)
    exact ⟨g.settings, ok (.object h hg), hover⟩
  | @list n ws _ h hws =>
    obtain ⟨s, hf, hover⟩ := fills_of_writes hws (Field.all.drop n) Settings.default
    rw [List.take_append_drop] at hf
    exact ⟨s, ok (.list h hf), hover⟩

/-- A port whose key is spelled with an escape, then a member of another name with a list in it,
and a user spelled as a surrogate pair.  The virtual host is not given. -/
theorem ofJson_of_presents_spelled :
    ofJson " \x7b\"p\\u006frt\" :65535,\n\"x\": [ null], \"user\":\"\\ud83d\\uDE00\"\x7d" =
      (.ok { Settings.default with port := 65535, user := "😀" }, []) := by
  generalize htext :
    " \x7b\"p\\u006frt\" :65535,\n\"x\": [ null], \"user\":\"\\ud83d\\uDE00\"\x7d" = text
  let c : Settings := { Settings.default with port := 65535, user := "😀", vhost := "elsewhere" }
  have blank : Blanks [' '] := by decide
  have line : Blanks ['\n'] := by decide
  have letter : IsHex ['0', '0', '6', 'f'] 'o'.toNat :=
    .four (x := 0) (y := 0) (z := 6) (u := 15) (by decide) (by decide) (by decide) (by decide)
  have high : IsHex ['d', '8', '3', 'd'] (0xD800 + 0x3D) :=
    .four (x := 13) (y := 8) (z := 3) (u := 13) (by decide) (by decide) (by decide) (by decide)
  have low : IsHex ['D', 'E', '0', '0'] (0xDC00 + 0x200) :=
    .four (x := 13) (y := 14) (z := 0) (u := 0) (by decide) (by decide) (by decide) (by decide)
  have name : Spells (['p'] ++ ('\\' :: 'u' :: ['0', '0', '6', 'f'] ++ "rt".toList))
      "port".toList := .cons (.plain (by decide)) (.cons (.hex letter) (spells_self (by decide)))
  have face : Spells
      ('\\' :: 'u' :: (['d', '8', '3', 'd'] ++ '\\' :: 'u' :: ['D', 'E', '0', '0']) ++ [])
      "😀".toList := .cons (.pair high low (by decide) (by decide) (by decide)) .nil
  have digits : "65535".toList = Nat.toDigits 10 65535 := by decide
  have port : Entry.Writes c (.field .port) (_, "65535".toList) := ⟨name, digits⟩
  have other : Entry.Writes c (.other "x")
      ("x".toList, '[' :: ([' '] ++ ("null".toList ++ ([] ++ [']'])))) :=
    ⟨fun f => by cases f <;> decide, spells_self (by decide),
      .list ⟨.head blank (.done blanks_nil)⟩ (by simpa using .scalar .null)⟩
  have user : Entry.Writes c (.field .user) ("user".toList, _) :=
    ⟨spells_self (by decide), _, face, rfl⟩
  have h : Presents c [.port, .user] _ :=
    .object
      (.mk (.head blanks_nil (.next blanks_nil line (.next blanks_nil blank (.done blanks_nil))))
        (.cons (.mk blank blanks_nil) (.cons (.mk blanks_nil blank)
          (.cons (.mk blanks_nil blanks_nil) .nil))))
      (.cons port (.cons other (.cons user .nil))) (by decide)
  have recovered (hb) := @ofJson_of_presents c _ text _ hb h
  obtain ⟨s, hs, hget⟩ := recovered ⟨[' '], [], blank, blanks_nil, by rw [← htext]; rfl⟩
  have heq : s = { Settings.default with port := 65535, user := "😀" } :=
    eq_of_get_eq fun f => (hget f).trans (by cases f <;> rfl)
  rw [hs, heq]

end Settings

end AmqpReturns
