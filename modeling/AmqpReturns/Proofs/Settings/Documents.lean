import AmqpReturns.Proofs.Json.Unique
import AmqpReturns.Settings.Reader

/-!
# Proofs — documents of settings

Which documents give settings, and which settings they give (`read_eq_ok_iff`).  A field has one
way to write a number or a truth value and many to write a text (`Field.Writes`).  A list gives its
values to the fields in order (`Fills`).  An object goes through its members (`Given.Takes` for
one, `Given.TakesAll` for all of them): a field is taken once, and other members are passed over.
-/

namespace AmqpReturns

open Json

namespace Settings

/-! ### Values -/

/-- The ways to write a value of a field. -/
def Field.Writes : (f : Field) → f.Value → List Char → Prop
  | .port, (n : UInt16), w => w = Nat.toDigits 10 n.toNat
  | .mandatory, (b : Bool), w => w = (toString b).toList
  | .appName, (s : String), w | .host, (s : String), w | .user, (s : String), w
  | .password, (s : String), w | .vhost, (s : String), w | .defaultEncoding, (s : String), w =>
    ∃ k, Spells k s.toList ∧ w = quoted k

theorem readTextValue_eq_ok_iff {cs rest : List Char} {s : String} :
    readTextValue cs = .ok (s, rest) ↔
      ∃ bs k, Blanks bs ∧ Spells k s.toList ∧ cs = bs ++ (quoted k ++ rest) := by
  constructor
  · intro h
    unfold readTextValue at h
    split at h
    · cases h
    · next c cs' heq =>
      split at h
      · next hc =>
        subst hc
        obtain ⟨bs, hbs, rfl⟩ := of_skipBlank heq
        obtain ⟨k, hk, rfl⟩ := readString_eq_ok_iff.mp h
        exact ⟨bs, k, hbs, hk, by simp [quoted]⟩
      · cases h
  · rintro ⟨bs, k, hbs, hk, rfl⟩
    rw [readTextValue, skipBlank_quoted hbs]
    exact readString_eq_ok_iff.mpr ⟨k, hk, rfl⟩

theorem readFlagValue_eq_ok_iff {cs rest : List Char} {b : Bool} :
    readFlagValue cs = .ok (b, rest) ↔
      ∃ bs, Blanks bs ∧ cs = bs ++ ((toString b).toList ++ rest) := by
  have hword (word cs : List Char) (b' : Bool) :
      (skipWord word cs).map (b', ·) = .ok (b, rest) ↔ b' = b ∧ cs = word ++ rest := by
    simp [map_eq_ok_iff, skipWord_eq_ok_iff, and_comm]
  constructor
  · intro h
    unfold readFlagValue at h
    split at h
    · cases h
    · next c cs' heq =>
      obtain ⟨bs, hbs, rfl⟩ := of_skipBlank heq
      split at h
      · next hc =>
        obtain ⟨rfl, rfl⟩ := (hword _ _ _).mp h
        exact ⟨bs, hbs, by rw [hc]; rfl⟩
      split at h
      · next hc =>
        obtain ⟨rfl, rfl⟩ := (hword _ _ _).mp h
        exact ⟨bs, hbs, by rw [hc]; rfl⟩
      · cases h
  · rintro ⟨bs, hbs, rfl⟩
    cases b with
    | false =>
      have hs : skipBlank (bs ++ ((toString false).toList ++ rest)) =
          'f' :: ("alse".toList ++ rest) := skipBlank_token hbs (by decide) _
      rw [readFlagValue, hs]
      exact (hword "alse".toList _ false).mpr ⟨rfl, rfl⟩
    | true =>
      have hs : skipBlank (bs ++ ((toString true).toList ++ rest)) =
          't' :: ("rue".toList ++ rest) := skipBlank_token hbs (by decide) _
      rw [readFlagValue, hs]
      exact (hword "rue".toList _ true).mpr ⟨rfl, rfl⟩

theorem of_readPortValue {cs rest : List Char} {n : UInt16}
    (h : readPortValue cs = .ok (n, rest)) :
    ∃ bs, Blanks bs ∧ cs = bs ++ (Nat.toDigits 10 n.toNat ++ rest) := by
  unfold readPortValue at h
  split at h
  · cases h
  · next c cs' heq =>
    obtain ⟨bs, hbs, rfl⟩ := of_skipBlank heq
    split at h
    · split at h
      · cases h
      · cases h
      · next v _ hn =>
        split at h
        · next hv =>
          simp only [Except.ok.injEq, Prod.mk.injEq] at h
          obtain ⟨rfl, rfl⟩ := h
          have hnat : v.toNat.toUInt16.toNat = v.toNat := UInt16.toNat_ofNat_of_lt' hv.2
          exact ⟨bs, hbs, by rw [hnat, of_readNumber hn hv.1]⟩
        · cases h
    · cases h

theorem readPortValue_append {bs rest : List Char} (n : UInt16) (hbs : Blanks bs)
    (hrest : Ends rest) :
    readPortValue (bs ++ (Nat.toDigits 10 n.toNat ++ rest)) = .ok (n, rest) := by
  have hlt : n.toNat < UInt16.size := n.toNat_lt
  have hr := readNumber_append (n := n.toNat) (Nat.lt_trans hlt (by decide)) hrest
  have hi := isInteger_toDigits n.toNat
  obtain ⟨d, ds, hds⟩ := List.exists_cons_of_ne_nil hi.1.1
  have hd : d.isDigit := hi.1.2 d (hds ▸ List.mem_cons_self)
  rw [hds, List.cons_append] at hr ⊢
  have hstarts : Starts d := .inl hd
  rw [readPortValue, skipBlank_token hbs hstarts.not_isBlank]
  simp only [isDigit_eq, hd, or_true, if_true, hr]
  rw [if_pos ⟨by omega, by simpa using hlt⟩]
  simp

theorem of_readValue {f : Field} {v : f.Value} {cs rest : List Char}
    (h : readValue f cs = .ok (v, rest)) :
    ∃ bs w, Blanks bs ∧ f.Writes v w ∧ cs = bs ++ (w ++ rest) := by
  cases f with
  | port =>
    obtain ⟨bs, hbs, hcs⟩ := of_readPortValue h
    exact ⟨bs, _, hbs, rfl, hcs⟩
  | mandatory =>
    obtain ⟨bs, hbs, hcs⟩ := readFlagValue_eq_ok_iff.mp h
    exact ⟨bs, _, hbs, rfl, hcs⟩
  | appName | host | user | password | vhost | defaultEncoding =>
    obtain ⟨bs, k, hbs, hk, hcs⟩ := readTextValue_eq_ok_iff.mp h
    exact ⟨bs, _, hbs, ⟨k, hk, rfl⟩, hcs⟩

theorem readValue_append {f : Field} {v : f.Value} {bs w rest : List Char} (hbs : Blanks bs)
    (h : f.Writes v w) (hrest : Ends rest) : readValue f (bs ++ (w ++ rest)) = .ok (v, rest) := by
  cases f with
  | port => exact h ▸ readPortValue_append v hbs hrest
  | mandatory => exact readFlagValue_eq_ok_iff.mpr ⟨bs, hbs, by rw [h]⟩
  | appName | host | user | password | vhost | defaultEncoding =>
    obtain ⟨k, hk, rfl⟩ := h
    exact readTextValue_eq_ok_iff.mpr ⟨bs, k, hbs, hk, rfl⟩

theorem Field.Writes.isValue {f : Field} {v : f.Value} {w : List Char} (h : f.Writes v w) :
    IsValue w := by
  cases f with
  | port =>
    subst h
    exact .scalar (.number (isInteger_toDigits _).isNumber)
  | mandatory => exact .scalar (h ▸ .flag v)
  | appName | host | user | password | vhost | defaultEncoding =>
    obtain ⟨k, hk, rfl⟩ := h
    exact .scalar (.text hk.isBody)

/-! ### Members -/

theorem Field.ofName?_eq_some_iff {name : String} {f : Field} :
    Field.ofName? name = some f ↔ name = f.name := by
  constructor
  · intro h
    simpa [eq_comm] using List.find?_some h
  · rintro rfl
    cases f <;> rfl

theorem Field.ofName?_eq_none_iff {name : String} :
    Field.ofName? name = none ↔ ∀ f : Field, name ≠ f.name := by
  rw [Option.eq_none_iff_forall_ne_some]
  exact forall_congr' fun f => not_congr Field.ofName?_eq_some_iff

/-- One member is taken: a field that was not given yet is set, and a member of another name leaves
everything as it is. -/
inductive Given.Takes (g : Given) : Member → Given → Prop where
  | field {f : Field} {v : f.Value} {k w : List Char} (hk : Spells k f.name.toList)
      (hf : f ∉ g.fields) (hv : f.Writes v w) :
      g.Takes (k, w) ⟨g.settings.set f v, f :: g.fields⟩
  | other {k w : List Char} {name : String} (hk : Spells k name.toList)
      (hn : Field.ofName? name = none) (hv : IsValue w) : g.Takes (k, w) g

theorem Given.Takes.wellFormed {g g' : Given} {m : Member} (h : g.Takes m g') :
    IsBody m.1 ∧ IsValue m.2 := by
  cases h with
  | field hk hf hv => exact ⟨hk.isBody, hv.isValue⟩
  | other hk hn hv => exact ⟨hk.isBody, hv⟩

theorem of_readMember {g g' : Given} {cs rest : List Char}
    (h : readMember g cs = .ok (g', rest)) :
    ∃ m w, IsMember m w ∧ g.Takes m g' ∧ '"' :: cs = w ++ rest := by
  unfold readMember at h
  split at h
  · cases h
  · next name cs' hkey =>
    obtain ⟨k, hk, rfl⟩ := readString_eq_ok_iff.mp hkey
    split at h
    · next hn =>
      obtain ⟨rest', hskip, heq⟩ := map_eq_ok_iff.mp h
      obtain ⟨rfl, rfl⟩ := Prod.mk.inj heq
      obtain ⟨cs'', hcol, hv⟩ := bind_eq_ok_iff.mp hskip
      obtain ⟨bs, hbs, rfl⟩ := skipColon_eq_ok_iff.mp hcol
      obtain ⟨bs', w, hbs', hw, rfl⟩ := of_skipValue hv
      exact ⟨(k, w), _, ⟨hbs, hbs'⟩, .other hk hn hw, by simp [quoted]⟩
    · next f hn =>
      obtain rfl := Field.ofName?_eq_some_iff.mp hn
      split at h
      · cases h
      · next hf =>
        split at h
        · cases h
        · next cs'' hcol =>
          obtain ⟨⟨v, rest'⟩, hv, heq⟩ := map_eq_ok_iff.mp h
          obtain ⟨rfl, rfl⟩ := Prod.mk.inj heq
          obtain ⟨bs, hbs, rfl⟩ := skipColon_eq_ok_iff.mp hcol
          obtain ⟨bs', w, hbs', hw, rfl⟩ := of_readValue hv
          exact ⟨(k, w), _, ⟨hbs, hbs'⟩, .field hk hf hw, by simp [quoted]⟩

theorem readMember_append {g g' : Given} {m : Member} {w cs rest : List Char}
    (hm : IsMember m w) (h : g.Takes m g') (hrest : Ends rest) (hcs : '"' :: cs = w ++ rest) :
    readMember g cs = .ok (g', rest) := by
  obtain @⟨k, bs, bs', v, hbs, hbs'⟩ := hm
  simp only [quoted, List.cons_append, List.append_assoc, List.cons.injEq, true_and,
    List.nil_append] at hcs
  have hcol : skipColon (bs ++ ':' :: (bs' ++ (v ++ rest))) = .ok (bs' ++ (v ++ rest)) :=
    skipColon_eq_ok_iff.mpr ⟨bs, hbs, rfl⟩
  cases h with
  | other hk hn hv =>
    have hs := skipValue_append hbs' hv hrest
    simp [readMember, readString_eq_ok_iff.mpr ⟨k, hk, hcs⟩, hn, hcol, hs, bind, Except.bind,
      Except.map]
  | @field f v' _ _ hk hf hv =>
    have hn : Field.ofName? f.name = some f := Field.ofName?_eq_some_iff.mpr rfl
    have hr := readValue_append hbs' hv hrest
    simp [readMember, readString_eq_ok_iff.mpr ⟨k, hk, hcs⟩, hn, hcol, hr, hf, Except.map]

/-- The members are taken one after the other. -/
inductive Given.TakesAll : Given → List Member → Given → Prop where
  | nil {g : Given} : TakesAll g [] g
  | cons {g g' g'' : Given} {m : Member} {ms : List Member} (h : g.Takes m g')
      (hms : TakesAll g' ms g'') : TakesAll g (m :: ms) g''

theorem Given.TakesAll.wellFormed {g g' : Given} {ms : List Member} (h : g.TakesAll ms g') :
    WellFormed ms := by
  induction h with
  | nil => exact fun _ hm => absurd hm List.not_mem_nil
  | cons h _ ih => exact List.forall_mem_cons.mpr ⟨h.wellFormed, ih⟩

/-- How the inside of an object goes on: it ends, or up to the quote of the next key. -/
inductive GoesOn : Bool → List Char → Onward → Prop where
  | ended {first : Bool} {bs rest : List Char} (hbs : Blanks bs) :
      GoesOn first (bs ++ '\x7d' :: rest) (.ended rest)
  | head {bs rest : List Char} (hbs : Blanks bs) : GoesOn true (bs ++ '"' :: rest) (.member rest)
  | next {bs bs' rest : List Char} (hbs : Blanks bs) (hbs' : Blanks bs') :
      GoesOn false (bs ++ ',' :: (bs' ++ '"' :: rest)) (.member rest)

theorem nextMember_eq_ok_iff {first : Bool} {cs : List Char} {onward : Onward} :
    nextMember first cs = .ok onward ↔ GoesOn first cs onward := by
  constructor
  · intro h
    unfold nextMember at h
    split at h
    · cases h
    · next c rest heq =>
      obtain ⟨bs, hbs, rfl⟩ := of_skipBlank heq
      split at h
      · next hc =>
        cases h
        exact hc ▸ .ended hbs
      split at h
      · next hfirst =>
        subst hfirst
        split at h
        · next hc =>
          cases h
          exact hc ▸ .head hbs
        · cases h
      split at h
      · next hfirst hc =>
        obtain rfl := Bool.eq_false_iff.mpr hfirst
        split at h
        · cases h
        · next heq' =>
          obtain ⟨bs', hbs', rfl⟩ := of_skipBlank heq'
          split at h
          · next hc' =>
            cases h
            exact hc ▸ hc' ▸ .next hbs hbs'
          split at h
          · cases h
          · cases h
      · cases h
  · intro h
    cases h with
    | ended hbs =>
      rw [nextMember, skipBlank_token hbs (by decide)]
      rfl
    | head hbs =>
      rw [nextMember, skipBlank_token hbs (by decide)]
      rfl
    | @next _ bs' rest hbs hbs' =>
      rw [nextMember, skipBlank_token hbs (by decide)]
      simp [skipBlank_token hbs' (c := '"') (by decide)]

theorem of_readMembers {first : Bool} {g : Given} {cs rest : List Char} {s : Settings}
    (h : readMembers first g cs = .ok (s, rest)) :
    ∃ ms ws cs' g', Items '\x7d' first ws cs' ∧ List.Forall₂ IsMember ms ws ∧ g.TakesAll ms g' ∧
      s = g'.settings ∧ cs = cs' ++ rest := by
  fun_induction readMembers first g cs with
  | case1 | case3 => cases h
  | case2 first g cs cs' hn =>
    cases h
    cases nextMember_eq_ok_iff.mp hn with
    | @ended _ bs _ hbs => exact ⟨[], [], bs ++ ['\x7d'], g, .done hbs, .nil, .nil, rfl, by simp⟩
  | case4 first g cs cs' hn g' cs'' hm _ _ ih =>
    obtain ⟨m, w, hmw, hg, heq⟩ := of_readMember hm
    obtain ⟨ms, ws, cs₁, g'', hi, hms, hgs, hs, rfl⟩ := ih h
    cases nextMember_eq_ok_iff.mp hn with
    | @head bs _ hbs =>
      exact ⟨m :: ms, w :: ws, bs ++ (w ++ cs₁), g'', .head hbs hi, .cons hmw hms, .cons hg hgs, hs,
        by simp [heq]⟩
    | @next bs bs' _ hbs hbs' =>
      exact ⟨m :: ms, w :: ws, bs ++ ',' :: (bs' ++ (w ++ cs₁)), g'', .next hbs hbs' hi,
        .cons hmw hms, .cons hg hgs, hs, by simp [heq]⟩

theorem readMembers_ended {first : Bool} {g : Given} {cs rest : List Char}
    (h : nextMember first cs = .ok (.ended rest)) :
    readMembers first g cs = .ok (g.settings, rest) := by
  rw [readMembers]
  split
  · next he => rw [h] at he; cases he
  · next he => rw [h] at he; cases he; rfl
  · next he => rw [h] at he; cases he

theorem readMembers_member {first : Bool} {g g' : Given} {cs cs' rest : List Char}
    (hn : nextMember first cs = .ok (.member cs')) (hm : readMember g cs' = .ok (g', rest)) :
    readMembers first g cs = readMembers false g' rest := by
  conv_lhs => rw [readMembers]
  split
  · next he => rw [hn] at he; cases he
  · next he => rw [hn] at he; cases he
  · next he =>
    rw [hn] at he
    cases he
    split
    · next he => rw [hm] at he; cases he
    · next he => rw [hm] at he; cases he; rfl

theorem readMembers_append {first : Bool} {ms : List Member} {ws : List (List Char)}
    {cs rest : List Char} {g g' : Given} (h : Items '\x7d' first ws cs)
    (hms : List.Forall₂ IsMember ms ws) (hg : g.TakesAll ms g') :
    readMembers first g (cs ++ rest) = .ok (g'.settings, rest) := by
  induction h generalizing ms g with
  | done hbs =>
    cases hms
    cases hg
    exact readMembers_ended (nextMember_eq_ok_iff.mpr (by simpa using .ended hbs))
  | @head bs w cs ws hbs h ih =>
    cases hms with
    | cons hm hms =>
      cases hg with
      | cons hg hgs =>
        obtain ⟨w', rfl⟩ := hm.head
        have hn : nextMember true (bs ++ ('"' :: w' ++ cs) ++ rest) =
            .ok (.member (w' ++ (cs ++ rest))) :=
          nextMember_eq_ok_iff.mpr (by simpa using .head hbs)
        have hr : readMember g (w' ++ (cs ++ rest)) = .ok (_, cs ++ rest) :=
          readMember_append hm hg (ends_items (b := .object) h) rfl
        rw [readMembers_member hn hr, ih hms hgs]
  | @next bs bs' w cs ws hbs hbs' h ih =>
    cases hms with
    | cons hm hms =>
      cases hg with
      | cons hg hgs =>
        obtain ⟨w', rfl⟩ := hm.head
        have hn : nextMember false (bs ++ ',' :: (bs' ++ ('"' :: w' ++ cs)) ++ rest) =
            .ok (.member (w' ++ (cs ++ rest))) :=
          nextMember_eq_ok_iff.mpr (by simpa using .next hbs hbs')
        have hr : readMember g (w' ++ (cs ++ rest)) = .ok (_, cs ++ rest) :=
          readMember_append hm hg (ends_items (b := .object) h) rfl
        rw [readMembers_member hn hr, ih hms hgs]

/-! ### Lists -/

/-- The values are given to the fields in order, as many as there are. -/
inductive Fills : Settings → List Field → List (List Char) → Settings → Prop where
  | nil {s : Settings} {fs : List Field} : Fills s fs [] s
  | cons {s s' : Settings} {f : Field} {fs : List Field} {v : f.Value} {w : List Char}
      {ws : List (List Char)} (hv : f.Writes v w) (h : Fills (s.set f v) fs ws s') :
      Fills s (f :: fs) (w :: ws) s'

theorem endList_eq_ok_iff {cs rest : List Char} :
    endList cs = .ok rest ↔ ∃ bs, Blanks bs ∧ cs = bs ++ ']' :: rest := by
  constructor
  · intro h
    unfold endList at h
    split at h
    · cases h
    · next heq =>
      obtain ⟨bs, hbs, rfl⟩ := of_skipBlank heq
      split at h
      · next hc =>
        cases h
        exact ⟨bs, hbs, by rw [hc]⟩
      split at h
      · split at h <;> cases h
      · cases h
  · rintro ⟨bs, hbs, rfl⟩
    rw [endList, skipBlank_token hbs (by decide)]
    rfl

/-- The item for `f`, and then those for the other fields. -/
def readItem (s : Settings) (f : Field) (fs : List Field) (cs : List Char) : Read Settings :=
  match readValue f cs with
  | .error e => .error e
  | .ok (v, rest) => readItems false (s.set f v) fs rest

theorem readItems_cons (first : Bool) (s : Settings) (f : Field) (fs : List Field)
    (cs : List Char) : readItems first s (f :: fs) cs =
      match skipBlank cs with
      | [] => .error .endInList
      | c :: rest =>
        if c = ']' then .ok (s, rest)
        else if first then readItem s f fs (c :: rest)
        else if c = ',' then
          match skipBlank rest with
          | [] => .error .endInValue
          | c :: rest =>
            if c = ']' then .error .trailingComma else readItem s f fs (c :: rest)
        else .error .expectedListEnd := rfl

theorem readItem_append {s : Settings} {f : Field} {fs : List Field} {v : f.Value}
    {w rest : List Char} (hv : f.Writes v w) (hrest : Ends rest) :
    readItem s f fs (w ++ rest) = readItems false (s.set f v) fs rest := by
  have hr := readValue_append blanks_nil hv hrest
  rw [List.nil_append] at hr
  rw [readItem, hr]

theorem of_readItems {first : Bool} {s s' : Settings} {fs : List Field} {cs rest : List Char}
    (h : readItems first s fs cs = .ok (s', rest)) :
    ∃ ws cs', Items ']' first ws cs' ∧ Fills s fs ws s' ∧ cs = cs' ++ rest := by
  induction fs generalizing first s cs with
  | nil =>
    obtain ⟨rest', hend, heq⟩ := map_eq_ok_iff.mp h
    obtain ⟨rfl, rfl⟩ := Prod.mk.inj heq
    obtain ⟨bs, hbs, rfl⟩ := endList_eq_ok_iff.mp hend
    exact ⟨[], bs ++ [']'], .done hbs, .nil, by simp⟩
  | cons f fs ih =>
    have item {cs : List Char} (h : readItem s f fs cs = .ok (s', rest)) :
        ∃ bs w ws cs', Blanks bs ∧ Items ']' false ws cs' ∧ Fills s (f :: fs) (w :: ws) s' ∧
          cs = bs ++ (w ++ (cs' ++ rest)) := by
      unfold readItem at h
      split at h
      · cases h
      · next hv =>
        obtain ⟨bs, w, hbs, hw, rfl⟩ := of_readValue hv
        obtain ⟨ws, cs', hi, hf, rfl⟩ := ih h
        exact ⟨bs, w, ws, cs', hbs, hi, .cons hw hf, rfl⟩
    rw [readItems_cons] at h
    split at h
    · cases h
    · next heq =>
      obtain ⟨bs, hbs, rfl⟩ := of_skipBlank heq
      split at h
      · next hc =>
        cases h
        exact ⟨[], bs ++ [']'], .done hbs, .nil, by simp [hc]⟩
      split at h
      · next hfirst =>
        subst hfirst
        obtain ⟨bs', w, ws, cs', hbs', hi, hf, heq⟩ := item h
        exact ⟨w :: ws, bs ++ bs' ++ (w ++ cs'), .head (hbs.append hbs') hi, hf, by simp [heq]⟩
      split at h
      · next hfirst hc =>
        obtain rfl := Bool.eq_false_iff.mpr hfirst
        split at h
        · cases h
        · next heq' =>
          obtain ⟨bs', hbs', rfl⟩ := of_skipBlank heq'
          split at h
          · cases h
          · obtain ⟨bs'', w, ws, cs', hbs'', hi, hf, heq⟩ := item h
            exact ⟨w :: ws, bs ++ ',' :: (bs' ++ bs'' ++ (w ++ cs')),
              .next hbs (hbs'.append hbs'') hi, hf, by simp [heq, hc]⟩
      · cases h

theorem readItems_append {first : Bool} {s s' : Settings} {fs : List Field}
    {ws : List (List Char)} {cs rest : List Char} (h : Items ']' first ws cs)
    (hf : Fills s fs ws s') : readItems first s fs (cs ++ rest) = .ok (s', rest) := by
  induction h generalizing s fs with
  | @done _ bs hbs =>
    have hs : skipBlank (bs ++ [']'] ++ rest) = ']' :: rest := by
      rw [List.append_assoc, List.singleton_append, skipBlank_token hbs (by decide)]
    cases hf
    cases fs with
    | nil => exact map_eq_ok_iff.mpr ⟨rest, endList_eq_ok_iff.mpr ⟨bs, hbs, by simp⟩, rfl⟩
    | cons f fs =>
      rw [readItems_cons, hs]
      rfl
  | @head bs w cs ws hbs h ih =>
    cases hf with
    | @cons s s' f fs v w ws hv hf =>
      obtain ⟨c, w', rfl, hc⟩ := hv.isValue.passes.head
      have hne : c ≠ ']' := hc.ne (by decide)
      have hs : skipBlank (bs ++ (c :: w' ++ cs) ++ rest) = c :: (w' ++ (cs ++ rest)) := by
        rw [List.append_assoc, List.append_assoc]
        exact skipBlank_starts hbs ⟨c, w', rfl, hc⟩
      have hr : readItem s f fs (c :: (w' ++ (cs ++ rest))) = .ok (s', rest) :=
        (readItem_append hv (ends_items (b := .list) h)).trans (ih hf)
      simp only [readItems_cons, hs, if_neg hne, if_true, hr]
  | @next bs bs' w cs ws hbs hbs' h ih =>
    cases hf with
    | @cons s s' f fs v w ws hv hf =>
      obtain ⟨c, w', rfl, hc⟩ := hv.isValue.passes.head
      have hne : c ≠ ']' := hc.ne (by decide)
      have hs : skipBlank (bs ++ ',' :: (bs' ++ (c :: w' ++ cs)) ++ rest) =
          ',' :: (bs' ++ (c :: w' ++ (cs ++ rest))) := by
        rw [List.append_assoc, List.cons_append, skipBlank_token hbs (by decide)]
        simp
      have hs' : skipBlank (bs' ++ (c :: w' ++ (cs ++ rest))) = c :: (w' ++ (cs ++ rest)) :=
        skipBlank_starts hbs' ⟨c, w', rfl, hc⟩
      have hr : readItem s f fs (c :: (w' ++ (cs ++ rest))) = .ok (s', rest) :=
        (readItem_append hv (ends_items (b := .list) h)).trans (ih hf)
      have hcomma : (',' : Char) ≠ ']' := by decide
      simp only [readItems_cons, hs, hs', if_neg hne, if_neg hcomma, if_true, hr,
        Bool.false_eq_true, if_false]

/-! ### Documents -/

/-- The value gives the settings: a list gives the fields in order, an object by name. -/
inductive Describes : List Char → Settings → Prop where
  | list {ws : List (List Char)} {w : List Char} {s : Settings} (h : IsList ws w)
      (hf : Fills default Field.all ws s) : Describes w s
  | object {ms : List Member} {w : List Char} {g : Given} (h : IsObject ms w)
      (hg : Given.TakesAll {} ms g) : Describes w g.settings

theorem of_readDocument {cs rest : List Char} {s : Settings}
    (h : readDocument cs = .ok (s, rest)) :
    ∃ bs w, Blanks bs ∧ Describes w s ∧ cs = bs ++ (w ++ rest) := by
  unfold readDocument at h
  split at h
  · cases h
  · next heq =>
    obtain ⟨bs, hbs, rfl⟩ := of_skipBlank heq
    split at h
    · next hc =>
      subst hc
      obtain ⟨ws, cs', hi, hf, rfl⟩ := of_readItems h
      exact ⟨bs, '[' :: cs', hbs, .list ⟨hi⟩ hf, rfl⟩
    split at h
    · next hc =>
      subst hc
      obtain ⟨ms, ws, cs', g, hi, hms, hg, rfl, rfl⟩ := of_readMembers h
      exact ⟨bs, '\x7b' :: cs', hbs, .object ⟨hi, hms⟩ hg, rfl⟩
    · cases h

theorem readDocument_append {bs w rest : List Char} {s : Settings} (hbs : Blanks bs)
    (h : Describes w s) : readDocument (bs ++ (w ++ rest)) = .ok (s, rest) := by
  cases h with
  | list h hf =>
    cases h with
    | mk h =>
      rw [readDocument, List.cons_append, skipBlank_token hbs (by decide)]
      exact readItems_append h hf
  | object h hg =>
    cases h with
    | mk h hms =>
      rw [readDocument, List.cons_append, skipBlank_token hbs (by decide)]
      exact readMembers_append h hms hg

/-- A text is read as settings just if it is one value that describes them, with blanks around
it. -/
theorem read_eq_ok_iff {text : String} {s : Settings} :
    read text = .ok s ↔ ∃ w, Between w text.toList ∧ Describes w s := by
  constructor
  · intro h
    unfold read at h
    split at h
    · cases h
    · next s' rest hd =>
      split at h
      · next hend =>
        cases h
        obtain ⟨bs', hbs', hrest⟩ := of_skipBlank (List.isEmpty_iff.mp hend)
        rw [List.append_nil] at hrest
        subst hrest
        obtain ⟨bs, w, hbs, hw, heq⟩ := of_readDocument hd
        exact ⟨w, ⟨bs, rest, hbs, hbs', heq⟩, hw⟩
      · cases h
  · rintro ⟨w, ⟨bs, bs', hbs, hbs', htext⟩, hw⟩
    have hend : skipBlank bs' = [] := by
      have := skipBlank_append hbs' []
      rwa [List.append_nil] at this
    rw [read, htext, readDocument_append hbs hw]
    simp [hend]

end Settings

end AmqpReturns
