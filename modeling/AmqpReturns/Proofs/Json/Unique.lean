import AmqpReturns.Proofs.Json.Values

/-!
# Proofs — a text is cut in one way

A well-formed value cannot be cut into its items or members in two ways.  That skipping is a
function makes a single value end in one place (`IsValue.unique`); items are then compared one
after the other, as `Items` lists them.
-/

namespace AmqpReturns.Json

section

variable {w w' rest rest' : List Char}

/-- A value ends in one place only, if nothing that belongs to a number follows. -/
theorem IsValue.unique (h : IsValue w) (h' : IsValue w') (hrest : Ends rest) (hrest' : Ends rest')
    (heq : w ++ rest = w' ++ rest') : w = w' ∧ rest = rest' := by
  have hs := skipValue_append blanks_nil h hrest
  rw [List.nil_append, heq] at hs
  have hs' := skipValue_append blanks_nil h' hrest'
  rw [List.nil_append, hs, Except.ok.injEq] at hs'
  subst hs'
  exact ⟨List.append_cancel_right heq, rfl⟩

theorem skipBlank_starts {bs : List Char} (hbs : Blanks bs)
    (hw : ∃ c cs, w = c :: cs ∧ Starts c) : skipBlank (bs ++ (w ++ rest)) = w ++ rest := by
  obtain ⟨c, cs, rfl, hc⟩ := hw
  rw [List.cons_append, skipBlank_token hbs hc.not_isBlank]

/-- What begins with a token is cut from the blanks before it in one way. -/
theorem eq_of_blanks {bs bs' : List Char} (hbs : Blanks bs) (hbs' : Blanks bs')
    (hw : ∃ c cs, w = c :: cs ∧ Starts c) (hw' : ∃ c cs, w' = c :: cs ∧ Starts c)
    (heq : bs ++ (w ++ rest) = bs' ++ (w' ++ rest')) : w ++ rest = w' ++ rest' := by
  rw [← skipBlank_starts hbs hw, heq, skipBlank_starts hbs' hw']

/-- A member ends in one place only, and so do its key and its value. -/
theorem IsMember.unique {m m' : Member} (h : IsMember m w) (h' : IsMember m' w')
    (hk : IsBody m.1) (hk' : IsBody m'.1) (hv : IsValue m.2) (hv' : IsValue m'.2)
    (hrest : Ends rest) (hrest' : Ends rest') (heq : w ++ rest = w' ++ rest') :
    m = m' ∧ rest = rest' := by
  obtain @⟨k, bs₁, bs₂, v, hbs₁, hbs₂⟩ := h
  obtain @⟨k', bs₁', bs₂', v', hbs₁', hbs₂'⟩ := h'
  simp only [quoted, List.cons_append, List.append_assoc, List.cons.injEq, true_and,
    List.nil_append] at heq
  obtain ⟨hkeys, hcolons⟩ := hk.unique hk' heq
  obtain ⟨-, hvalues⟩ := skipBlank_cut hbs₁ hbs₁' (by decide) (by decide) hcolons
  have hvalues := eq_of_blanks hbs₂ hbs₂' hv.passes.head hv'.passes.head hvalues
  obtain ⟨hv, hrest⟩ := hv.unique hv' hrest hrest' hvalues
  exact ⟨Prod.ext hkeys hv, hrest⟩

theorem Bracket.Item.starts {b : Bracket} (h : b.Item w) : ∃ c cs, w = c :: cs ∧ Starts c := by
  cases b with
  | list => exact h.passes.head
  | object =>
    obtain ⟨_, ⟨_, _⟩, _⟩ := h
    exact ⟨'"', _, rfl, .inr (by decide)⟩

theorem Bracket.Item.unique {b : Bracket} (h : b.Item w) (h' : b.Item w') (hrest : Ends rest)
    (hrest' : Ends rest') (heq : w ++ rest = w' ++ rest') : w = w' ∧ rest = rest' := by
  cases b with
  | list => exact IsValue.unique h h' hrest hrest' heq
  | object =>
    obtain ⟨m, hm, hk, hv⟩ := h
    obtain ⟨m', hm', hk', hv'⟩ := h'
    obtain ⟨-, rfl⟩ := hm.unique hm' hk hk' hv hv' hrest hrest' heq
    exact ⟨List.append_cancel_right heq, rfl⟩

end

section

variable {b : Bracket} {first : Bool} {ws ws' : List (List Char)} {cs cs' rest rest' : List Char}

/-- The inside of a bracket is cut into items in one way: what comes next says whether it is the end
or an item, and the item ends in one place. -/
theorem Items.unique (h : Items b.close first ws cs) (h' : Items b.close first ws' cs')
    (hws : ∀ w ∈ ws, b.Item w) (hws' : ∀ w ∈ ws', b.Item w) (heq : cs ++ rest = cs' ++ rest') :
    ws = ws' ∧ rest = rest' := by
  have hclose := b.close_ne
  induction h generalizing ws' cs' with
  | @done _ bs hbs =>
    simp only [List.append_assoc, List.cons_append, List.nil_append] at heq
    cases h' with
    | done hbs' =>
      simp only [List.append_assoc, List.cons_append, List.nil_append] at heq
      exact ⟨rfl, (skipBlank_cut hbs hbs' hclose.1 hclose.1 heq).2⟩
    | head hbs' h' =>
      obtain ⟨c, w', rfl, hc⟩ := (hws' _ List.mem_cons_self).starts
      simp only [List.append_assoc, List.cons_append] at heq
      exact absurd (skipBlank_cut hbs hbs' hclose.1 hc.not_isBlank heq).1.symm (hc.ne_close b)
    | next hbs' hbs₁' h' =>
      simp only [List.append_assoc, List.cons_append] at heq
      exact absurd (skipBlank_cut hbs hbs' hclose.1 (by decide) heq).1 hclose.2
  | @head bs w cs ws hbs h ih =>
    have hw := hws w List.mem_cons_self
    cases h' with
    | done hbs' =>
      obtain ⟨c, w, rfl, hc⟩ := hw.starts
      simp only [List.append_assoc, List.cons_append, List.nil_append] at heq
      exact absurd (skipBlank_cut hbs hbs' hc.not_isBlank hclose.1 heq).1 (hc.ne_close b)
    | @head bs' w' cs' ws' hbs' h' =>
      have hw' := hws' w' List.mem_cons_self
      simp only [List.append_assoc] at heq
      obtain ⟨rfl, hcs⟩ := hw.unique hw' (ends_items h) (ends_items h')
        (eq_of_blanks hbs hbs' hw.starts hw'.starts heq)
      obtain ⟨rfl, rfl⟩ := ih h' (fun w hw => hws w (List.mem_cons_of_mem _ hw))
        (fun w hw => hws' w (List.mem_cons_of_mem _ hw)) hcs
      exact ⟨rfl, rfl⟩
  | @next bs bs₁ w cs ws hbs hbs₁ h ih =>
    have hw := hws w List.mem_cons_self
    cases h' with
    | done hbs' =>
      simp only [List.append_assoc, List.cons_append, List.nil_append] at heq
      exact absurd (skipBlank_cut hbs hbs' (by decide) hclose.1 heq).1.symm hclose.2
    | @next bs' bs₁' w' cs' ws' hbs' hbs₁' h' =>
      have hw' := hws' w' List.mem_cons_self
      simp only [List.append_assoc, List.cons_append] at heq
      obtain ⟨-, heq⟩ := skipBlank_cut hbs hbs' (by decide) (by decide) heq
      obtain ⟨rfl, hcs⟩ := hw.unique hw' (ends_items h) (ends_items h')
        (eq_of_blanks hbs₁ hbs₁' hw.starts hw'.starts heq)
      obtain ⟨rfl, rfl⟩ := ih h' (fun w hw => hws w (List.mem_cons_of_mem _ hw))
        (fun w hw => hws' w (List.mem_cons_of_mem _ hw)) hcs
      exact ⟨rfl, rfl⟩

end

theorem IsList.unique {ws ws' : List (List Char)} {w : List Char} (h : IsList ws w)
    (h' : IsList ws' w) (hws : ∀ v ∈ ws, IsValue v) (hws' : ∀ v ∈ ws', IsValue v) : ws = ws' := by
  cases h with
  | @mk cs h =>
    cases h' with
    | mk h' =>
      have heq : cs ++ [] = cs ++ [] := rfl
      exact (Items.unique (b := .list) h h' hws hws' heq).1

theorem item_of_member {ms : List Member} {ws : List (List Char)}
    (h : List.Forall₂ IsMember ms ws) (hms : WellFormed ms) {w : List Char} (hw : w ∈ ws) :
    Bracket.object.Item w :=
  have ⟨m, hm, hmw⟩ := exists_member h hw
  ⟨m, hmw, hms m hm⟩

theorem members_unique {ms ms' : List Member} {ws : List (List Char)}
    (h : List.Forall₂ IsMember ms ws) (h' : List.Forall₂ IsMember ms' ws)
    (hms : WellFormed ms) (hms' : WellFormed ms') : ms = ms' := by
  induction h generalizing ms' with
  | nil => cases h'; rfl
  | cons hm _ ih =>
    cases h' with
    | cons hm' h' =>
      obtain ⟨⟨hk, hv⟩, hms⟩ := List.forall_mem_cons.mp hms
      obtain ⟨⟨hk', hv'⟩, hms'⟩ := List.forall_mem_cons.mp hms'
      have hends : Ends [] := blanks_nil.ends
      rw [(hm.unique hm' hk hk' hv hv' hends hends rfl).1, ih h' hms hms']

theorem IsObject.unique {ms ms' : List Member} {w : List Char} (h : IsObject ms w)
    (h' : IsObject ms' w) (hms : WellFormed ms) (hms' : WellFormed ms') : ms = ms' := by
  cases h with
  | @mk ws cs h hw =>
    cases h' with
    | mk h' hw' =>
      have heq : cs ++ [] = cs ++ [] := rfl
      obtain ⟨rfl, -⟩ := Items.unique (b := .object) h h' (fun w => item_of_member hw hms)
        (fun w => item_of_member hw' hms') heq
      exact members_unique hw hw' hms hms'

end AmqpReturns.Json
