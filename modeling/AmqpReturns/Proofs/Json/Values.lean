import AmqpReturns.Json.Skip
import AmqpReturns.Proofs.Json.Numbers

/-!
# Proofs — values that are not read

Skipping a value takes one well-formed value off a text, whatever it lies in.  The reader goes by
stages, with the brackets that are open around the place where it reads.  A value that stands there
is passed over (`IsValue.passes`), by induction on the value: the items of a bracket pass if each of
them does.  Conversely `means_of_skip` says what stood there when skipping succeeded, by the
recursion of `skip`: what the stage asks for, and after it the ends of all the open brackets
(`Closes`).
-/

namespace AmqpReturns.Json

/-! ### Scalars -/

/-- The first character of a value. -/
def Starts (c : Char) : Prop :=
  c.isDigit ∨ c ∈ ['n', 't', 'f', '"', '-', '[', '\x7b']

theorem Starts.ne {c c' : Char} (h : Starts c)
    (hc' : c' ∈ [' ', '\t', '\n', '\r', ',', ':', ']', '\x7d']) : c ≠ c' := by
  rintro rfl
  simp only [List.mem_cons, List.not_mem_nil, or_false] at hc'
  rcases hc' with rfl | rfl | rfl | rfl | rfl | rfl | rfl | rfl <;>
    exact absurd h (by unfold Starts; decide)

theorem Starts.not_isBlank {c : Char} (h : Starts c) : isBlank c = false :=
  Bool.eq_false_iff.mpr fun hb =>
    h.ne (List.mem_append_left [',', ':', ']', '\x7d'] (isBlank_iff.mp hb)) rfl

theorem Starts.ne_close {c : Char} (h : Starts c) (b : Bracket) : c ≠ b.close := by
  cases b <;> exact h.ne (by decide)

/-- A scalar is passed over. -/
theorem IsScalar.skip {w : List Char} (h : IsScalar w) :
    ∃ c cs, w = c :: cs ∧ Starts c ∧ c ≠ '[' ∧ c ≠ '\x7b' ∧
      ∀ rest, Ends rest → skipScalar c (cs ++ rest) = .ok rest := by
  cases h with
  | null =>
    exact ⟨'n', "ull".toList, rfl, .inr (by decide), by decide, by decide,
      fun rest _ => skipWord_eq_ok_iff.mpr rfl⟩
  | flag b =>
    cases b with
    | false =>
      exact ⟨'f', "alse".toList, rfl, .inr (by decide), by decide, by decide,
        fun rest _ => skipWord_eq_ok_iff.mpr rfl⟩
    | true =>
      exact ⟨'t', "rue".toList, rfl, .inr (by decide), by decide, by decide,
        fun rest _ => skipWord_eq_ok_iff.mpr rfl⟩
  | @number w h =>
    obtain ⟨c, cs, rfl, hc⟩ := h.head
    have hne {c' : Char} (hc' : ¬ (c'.isDigit ∨ c' = '-')) : c ≠ c' := fun h => hc' (h ▸ hc)
    refine ⟨c, cs, rfl, hc.imp_right (by rintro rfl; decide), hne (by decide), hne (by decide),
      fun rest hrest => ?_⟩
    rw [skipScalar, if_neg (hne (by decide)), if_neg (hne (by decide)), if_neg (hne (by decide)),
      if_neg (hne (by decide)), isDigit_eq, if_pos hc.symm]
    exact skipNumber_append h hrest
  | @text k h =>
    refine ⟨'"', k ++ ['"'], rfl, .inr (by decide), by decide, by decide, fun rest _ => ?_⟩
    rw [skipScalar, if_pos rfl, List.append_assoc]
    exact skipString_append h rest

theorem of_skipScalar {c : Char} {cs rest : List Char} (h : skipScalar c cs = .ok rest) :
    ∃ w, IsScalar (c :: w) ∧ cs = w ++ rest := by
  unfold skipScalar at h
  split at h
  · next hc =>
    subst hc
    obtain ⟨k, hk, rfl⟩ := skipString_eq_ok_iff.mp h
    exact ⟨k ++ ['"'], .text hk, by simp⟩
  split at h
  · next hc =>
    subst hc
    exact ⟨_, .null, skipWord_eq_ok_iff.mp h⟩
  split at h
  · next hc =>
    subst hc
    exact ⟨_, .flag true, skipWord_eq_ok_iff.mp h⟩
  split at h
  · next hc =>
    subst hc
    exact ⟨_, .flag false, skipWord_eq_ok_iff.mp h⟩
  split at h
  · next hc =>
    obtain ⟨w, hw, heq⟩ := of_skipNumber h
    obtain ⟨c', cs', rfl, -⟩ := hw.head
    obtain ⟨rfl, rfl⟩ := List.cons.inj heq
    exact ⟨cs', .number hw, rfl⟩
  · cases h

/-! ### Colons and keys -/

theorem skipBlank_quoted {bs k : List Char} (hbs : Blanks bs) (rest : List Char) :
    skipBlank (bs ++ (quoted k ++ rest)) = '"' :: (k ++ '"' :: rest) := by
  rw [quoted, List.cons_append, skipBlank_token hbs (by decide), List.append_assoc,
    List.singleton_append]

theorem skipColon_eq_ok_iff {cs rest : List Char} :
    skipColon cs = .ok rest ↔ ∃ bs, Blanks bs ∧ cs = bs ++ ':' :: rest := by
  constructor
  · intro h
    unfold skipColon at h
    split at h
    · cases h
    · next c cs' heq =>
      split at h
      · next hc =>
        subst hc
        cases h
        exact of_skipBlank heq
      · cases h
  · rintro ⟨bs, hbs, rfl⟩
    rw [skipColon, skipBlank_token hbs (by decide)]
    rfl

theorem skipKey_eq_ok_iff {cs rest : List Char} :
    skipKey cs = .ok rest ↔
      ∃ bs k bs', Blanks bs ∧ IsBody k ∧ Blanks bs' ∧
        cs = bs ++ (quoted k ++ (bs' ++ ':' :: rest)) := by
  constructor
  · intro h
    unfold skipKey at h
    split at h
    · cases h
    · next c cs' heq =>
      split at h
      · next hc =>
        subst hc
        obtain ⟨bs, hbs, rfl⟩ := of_skipBlank heq
        obtain ⟨cs'', hs, hcol⟩ := bind_eq_ok_iff.mp h
        obtain ⟨k, hk, rfl⟩ := skipString_eq_ok_iff.mp hs
        obtain ⟨bs', hbs', rfl⟩ := skipColon_eq_ok_iff.mp hcol
        exact ⟨bs, k, bs', hbs, hk, hbs', by simp [quoted]⟩
      · cases h
  · rintro ⟨bs, k, bs', hbs, hk, hbs', rfl⟩
    have hcol : skipColon (bs' ++ ':' :: rest) = .ok rest :=
      skipColon_eq_ok_iff.mpr ⟨bs', hbs', rfl⟩
    rw [skipKey, skipBlank_quoted hbs]
    show skipString _ >>= skipColon = _
    rw [skipString_append hk]
    exact hcol

/-! ### Members -/

/-- A well-formed item of a bracket. -/
def Bracket.Item : Bracket → List Char → Prop
  | .list, w => IsValue w
  | .object, w => ∃ m, IsMember m w ∧ IsBody m.1 ∧ IsValue m.2

theorem IsMember.head {m : Member} {w : List Char} (h : IsMember m w) : ∃ w', w = '"' :: w' := by
  cases h
  exact ⟨_, rfl⟩

theorem exists_member {ms : List Member} {ws : List (List Char)} {w : List Char}
    (h : List.Forall₂ IsMember ms ws) (hw : w ∈ ws) : ∃ m ∈ ms, IsMember m w := by
  induction h with
  | nil => cases hw
  | @cons m v ms ws hm _ ih =>
    rcases List.mem_cons.mp hw with rfl | hw
    · exact ⟨m, List.mem_cons_self, hm⟩
    · obtain ⟨m', hm', hw⟩ := ih hw
      exact ⟨m', List.mem_cons_of_mem _ hm', hw⟩

theorem exists_members {ws : List (List Char)} (h : ∀ w ∈ ws, Bracket.object.Item w) :
    ∃ ms, List.Forall₂ IsMember ms ws ∧ WellFormed ms := by
  induction ws with
  | nil => exact ⟨[], .nil, fun _ hm => absurd hm List.not_mem_nil⟩
  | cons w ws ih =>
    obtain ⟨m, hm, hk, hv⟩ := h w List.mem_cons_self
    obtain ⟨ms, hms, hwf⟩ := ih fun w hw => h w (List.mem_cons_of_mem _ hw)
    exact ⟨m :: ms, .cons hm hms, List.forall_mem_cons.mpr ⟨⟨hk, hv⟩, hwf⟩⟩

theorem IsObject.isValue {ms : List Member} {w : List Char} (h : IsObject ms w)
    (hms : WellFormed ms) : IsValue w :=
  .object h (fun m hm => (hms m hm).1) fun m hm => (hms m hm).2

/-! ### One stage -/

section

variable (around : List Bracket) (b : Bracket) (cs : List Char)

theorem skip_value : skip .value around cs =
    match skipBlank cs with
    | [] => .error .endInValue
    | c :: rest =>
      if c = '[' then skip (.opened .list) around rest
      else if c = '\x7b' then skip (.opened .object) around rest
      else skipScalar c rest >>= skip .after around := by
  rw [skip]
  split
  · next hb => rw [hb]
  · next c rest hb =>
    simp only [hb]
    split
    · rfl
    split
    · rfl
    cases hs : skipScalar c rest <;> simp [bind, Except.bind]

theorem skip_opened : skip (.opened b) around cs =
    match skipBlank cs with
    | [] => .error b.unclosed
    | c :: rest => if c = b.close then skip .after around rest else skip (.item b) around cs := by
  rw [skip]
  split
  · next hb => rw [hb]
  · next hb => simp only [hb]

theorem skip_item_list : skip (.item .list) around cs = skip .value (.list :: around) cs := by
  conv_lhs => rw [skip]

theorem skip_item_object :
    skip (.item .object) around cs = (skipKey cs >>= skip .value (.object :: around)) := by
  rw [skip]
  split
  · next hk => simp [hk, bind, Except.bind]
  · next hk => simp [hk, bind, Except.bind]

theorem skip_after_nil : skip .after [] cs = .ok cs := by
  rw [skip]

theorem skip_after_cons : skip .after (b :: around) cs =
    match skipBlank cs with
    | [] => .error b.unclosed
    | c :: rest =>
      if c = ',' then skip (.item b) around rest
      else if c = b.close then skip .after around rest
      else .error b.unseparated := by
  rw [skip]
  split
  · next hb => rw [hb]
  · next hb => simp only [hb]

end

/-! ### Passing over a value -/

/-- `w` is passed over as an item of `b`, with the blanks before it. -/
structure Passes (b : Bracket) (w : List Char) : Prop where
  head : ∃ c cs, w = c :: cs ∧ Starts c
  skip : ∀ (around : List Bracket) (bs rest : List Char), Blanks bs → Ends rest →
    skip (.item b) around (bs ++ (w ++ rest)) = skip .after (b :: around) rest

theorem Bracket.ends_close (b : Bracket) (rest : List Char) : Ends (b.close :: rest) := by
  cases b <;> exact ends_cons (by decide) rest

theorem Bracket.close_ne (b : Bracket) : isBlank b.close = false ∧ b.close ≠ ',' := by
  cases b <;> decide

section

variable {b : Bracket} {ws : List (List Char)} {cs rest : List Char}

/-- What follows an item ends a number. -/
theorem ends_items (h : Items b.close false ws cs) : Ends (cs ++ rest) := by
  generalize hfirst : false = first at h
  cases h with
  | done hbs => rw [List.append_assoc]; exact (b.ends_close rest).append hbs
  | head => cases hfirst
  | next hbs hbs' h => rw [List.append_assoc]; exact (ends_cons (by decide) _).append hbs

theorem skip_after_items (h : Items b.close false ws cs) (hws : ∀ w ∈ ws, Passes b w)
    (around : List Bracket) :
    skip .after (b :: around) (cs ++ rest) = skip .after around rest := by
  generalize hfirst : false = first at h
  induction h with
  | @done _ bs hbs =>
    have hs : skipBlank (bs ++ [b.close] ++ rest) = b.close :: rest := by
      rw [List.append_assoc, List.singleton_append, skipBlank_token hbs b.close_ne.1]
    simp only [skip_after_cons, hs, if_neg b.close_ne.2, if_true]
  | head => cases hfirst
  | @next bs bs' w cs ws hbs hbs' h ih =>
    have hs : skipBlank (bs ++ ',' :: (bs' ++ (w ++ cs)) ++ rest) =
        ',' :: (bs' ++ (w ++ (cs ++ rest))) := by
      rw [List.append_assoc, List.cons_append, skipBlank_token hbs (by decide)]
      simp only [List.append_assoc]
    simp only [skip_after_cons, hs, if_true]
    rw [(hws w List.mem_cons_self).skip around bs' _ hbs' (ends_items h)]
    exact ih (fun w hw => hws w (List.mem_cons_of_mem _ hw)) rfl

theorem skip_opened_items (h : Items b.close true ws cs) (hws : ∀ w ∈ ws, Passes b w)
    (around : List Bracket) :
    skip (.opened b) around (cs ++ rest) = skip .after around rest := by
  generalize hfirst : true = first at h
  cases h with
  | @done _ bs hbs =>
    have hs : skipBlank (bs ++ [b.close] ++ rest) = b.close :: rest := by
      rw [List.append_assoc, List.singleton_append, skipBlank_token hbs b.close_ne.1]
    simp only [skip_opened, hs, if_true]
  | @head bs w cs ws hbs h =>
    have hw := hws w List.mem_cons_self
    obtain ⟨c, w', rfl, hc⟩ := hw.head
    have hs : skipBlank (bs ++ (c :: w' ++ cs) ++ rest) = c :: (w' ++ (cs ++ rest)) := by
      rw [List.append_assoc, List.append_assoc, List.cons_append,
        skipBlank_token hbs hc.not_isBlank]
    rw [skip_opened, hs]
    simp only [if_neg (hc.ne_close b)]
    rw [List.append_assoc, List.append_assoc, hw.skip around bs _ hbs (ends_items h)]
    exact skip_after_items h (fun w hw => hws w (List.mem_cons_of_mem _ hw)) around
  | next => cases hfirst

end

/-- `w` is passed over as a value, whatever it lies in. -/
structure PassesAsValue (w : List Char) : Prop where
  head : ∃ c cs, w = c :: cs ∧ Starts c
  skip : ∀ (around : List Bracket) (bs rest : List Char), Blanks bs → Ends rest →
    skip .value around (bs ++ (w ++ rest)) = skip .after around rest

theorem PassesAsValue.item {w : List Char} (h : PassesAsValue w) : Passes .list w where
  head := h.head
  skip around bs rest hbs hrest := by rw [skip_item_list, h.skip _ bs rest hbs hrest]

theorem PassesAsValue.member {m : Member} {w : List Char} (h : PassesAsValue m.2)
    (hk : IsBody m.1) (hw : IsMember m w) : Passes .object w := by
  obtain @⟨k, bs₁, bs₂, v, hbs₁, hbs₂⟩ := hw
  refine ⟨⟨'"', _, rfl, .inr (by decide)⟩, fun around bs rest hbs hrest => ?_⟩
  have hkey : skipKey (bs ++ (quoted k ++ (bs₁ ++ ':' :: (bs₂ ++ v)) ++ rest)) =
      .ok (bs₂ ++ (v ++ rest)) :=
    skipKey_eq_ok_iff.mpr ⟨bs, k, bs₁, hbs, hk, hbs₁, by simp⟩
  rw [skip_item_object, hkey]
  exact h.skip _ bs₂ rest hbs₂ hrest

/-- A well-formed value is passed over. -/
theorem IsValue.passes {w : List Char} (h : IsValue w) : PassesAsValue w := by
  induction h with
  | scalar h =>
    obtain ⟨c, cs, rfl, hc, hlist, hobject, hskip⟩ := h.skip
    refine ⟨⟨c, cs, rfl, hc⟩, fun around bs rest hbs hrest => ?_⟩
    rw [skip_value, List.cons_append, skipBlank_token hbs hc.not_isBlank]
    simp only [if_neg hlist, if_neg hobject, hskip rest hrest, bind, Except.bind]
  | list h hws ih =>
    cases h with
    | mk h =>
      refine ⟨⟨'[', _, rfl, .inr (by decide)⟩, fun around bs rest hbs _ => ?_⟩
      rw [skip_value, List.cons_append, skipBlank_token hbs (by decide)]
      exact skip_opened_items (b := .list) h (fun w hw => (ih w hw).item) around
  | object h hk hv ih =>
    cases h with
    | mk h hms =>
      refine ⟨⟨'\x7b', _, rfl, .inr (by decide)⟩, fun around bs rest hbs _ => ?_⟩
      rw [skip_value, List.cons_append, skipBlank_token hbs (by decide)]
      refine skip_opened_items (b := .object) h (fun w hw => ?_) around
      obtain ⟨m, hm, hw⟩ := exists_member hms hw
      exact (ih m hm).member (hk m hm) hw

theorem skipValue_append {bs w rest : List Char} (hbs : Blanks bs) (h : IsValue w)
    (hrest : Ends rest) : skipValue (bs ++ (w ++ rest)) = .ok rest := by
  rw [skipValue, h.passes.skip [] bs rest hbs hrest, skip_after_nil]

/-! ### What was passed over -/

/-- `cs` goes on to the end of every bracket of `around`, up to `rest`. -/
def Closes (rest : List Char) : List Bracket → List Char → Prop
  | [], cs => cs = rest
  | b :: around, cs =>
    ∃ ws cs₁ cs₂, Items b.close false ws cs₁ ∧ (∀ w ∈ ws, b.Item w) ∧ Closes rest around cs₂ ∧
      cs = cs₁ ++ cs₂

/-- What `cs` has been when `stage` ended at `rest`. -/
def Means (around : List Bracket) (rest : List Char) : Stage → List Char → Prop
  | .value, cs =>
    ∃ bs w cs', Blanks bs ∧ IsValue w ∧ Closes rest around cs' ∧ cs = bs ++ (w ++ cs')
  | .opened b, cs =>
    ∃ ws cs₁ cs₂, Items b.close true ws cs₁ ∧ (∀ w ∈ ws, b.Item w) ∧ Closes rest around cs₂ ∧
      cs = cs₁ ++ cs₂
  | .item b, cs =>
    ∃ bs w cs', Blanks bs ∧ b.Item w ∧ Closes rest (b :: around) cs' ∧ cs = bs ++ (w ++ cs')
  | .after, cs => Closes rest around cs

/-- Whatever stage it began in, skipping has passed over what that stage asks for and then to the
end of the brackets around it. -/
theorem means_of_skip (stage : Stage) (around : List Bracket) (cs : List Char) {rest : List Char} :
    skip stage around cs = .ok rest → Means around rest stage cs := by
  fun_induction skip stage around cs with
  | case1 | case4 | case6 | case10 | case13 | case16 => intro h; cases h
  -- a value: a list, an object, or a scalar
  | case2 around cs cs' hb _ ih =>
    intro h
    obtain ⟨ws, cs₁, cs₂, hi, hws, hc, rfl⟩ := ih h
    obtain ⟨bs, hbs, rfl⟩ := of_skipBlank hb
    exact ⟨bs, '[' :: cs₁, cs₂, hbs, .list ⟨hi⟩ hws, hc, rfl⟩
  | case3 around cs cs' hb _ _ ih =>
    intro h
    obtain ⟨ws, cs₁, cs₂, hi, hws, hc, rfl⟩ := ih h
    obtain ⟨bs, hbs, rfl⟩ := of_skipBlank hb
    obtain ⟨ms, hms, hwf⟩ := exists_members hws
    exact ⟨bs, '\x7b' :: cs₁, cs₂, hbs, (IsObject.mk hi hms).isValue hwf, hc, rfl⟩
  | case5 around cs c cs' hb _ _ _ cs'' hs _ ih =>
    intro h
    obtain ⟨bs, hbs, rfl⟩ := of_skipBlank hb
    obtain ⟨w, hw, rfl⟩ := of_skipScalar hs
    exact ⟨bs, c :: w, cs'', hbs, .scalar hw, ih h, rfl⟩
  -- an opened bracket: its end, or a first item and then what follows it
  | case7 around cs b cs' hb _ ih =>
    intro h
    obtain ⟨bs, hbs, rfl⟩ := of_skipBlank hb
    exact ⟨[], bs ++ [b.close], cs', .done hbs, by simp, ih h, by simp⟩
  | case8 around cs b c cs' hb _ _ ih =>
    intro h
    obtain ⟨bs, w, _, hbs, hw, ⟨ws, cs₁, cs₂, hi, hws, hc, rfl⟩, rfl⟩ := ih h
    exact ⟨w :: ws, bs ++ (w ++ cs₁), cs₂, .head hbs hi, List.forall_mem_cons.mpr ⟨hw, hws⟩, hc,
      by simp⟩
  -- an item: a value, with its key in an object
  | case9 around cs ih => exact ih
  | case11 around cs cs' hs _ ih =>
    intro h
    obtain ⟨bs', v, cs'', hbs', hv, hc, rfl⟩ := ih h
    obtain ⟨bs, k, bs₁, hbs, hk, hbs₁, rfl⟩ := skipKey_eq_ok_iff.mp hs
    exact ⟨bs, quoted k ++ (bs₁ ++ ':' :: (bs' ++ v)), cs'', hbs, ⟨(k, v), ⟨hbs₁, hbs'⟩, hk, hv⟩,
      hc, by simp⟩
  -- what follows a value: nothing, a comma with another item, or the end of the bracket
  | case12 cs => intro h; cases h; rfl
  | case14 cs b around cs' hb _ ih =>
    intro h
    obtain ⟨bs, hbs, rfl⟩ := of_skipBlank hb
    obtain ⟨bs', w, _, hbs', hw, ⟨ws, cs₁, cs₂, hi, hws, hc, rfl⟩, rfl⟩ := ih h
    exact ⟨w :: ws, bs ++ ',' :: (bs' ++ (w ++ cs₁)), cs₂, .next hbs hbs' hi,
      List.forall_mem_cons.mpr ⟨hw, hws⟩, hc, by simp⟩
  | case15 cs b around cs' hb _ _ ih =>
    intro h
    obtain ⟨bs, hbs, rfl⟩ := of_skipBlank hb
    exact ⟨[], bs ++ [b.close], cs', .done hbs, by simp, ih h, by simp⟩

theorem of_skipValue {cs rest : List Char} (h : skipValue cs = .ok rest) :
    ∃ bs w, Blanks bs ∧ IsValue w ∧ cs = bs ++ (w ++ rest) := by
  obtain ⟨bs, w, _, hbs, hw, rfl, rfl⟩ := means_of_skip _ _ _ h
  exact ⟨bs, w, hbs, hw, rfl⟩

end AmqpReturns.Json
