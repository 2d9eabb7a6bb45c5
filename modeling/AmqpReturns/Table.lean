/-!
# Tables

A `Table α` maps texts to values and keeps its entries in the order of their keys.  Texts are
compared character by character, which is also the order of their UTF-8 bytes.  Two tables with
the same look-ups are equal (`Table.ext_get?`), so the order in which a table was filled leaves
no trace in it.

* `get?_insert`: an insertion changes the look-up of its own key and no other.
* `get?_erase`: so does a removal.
-/

namespace AmqpReturns

/-- Entries in the strict order of their keys. -/
structure Table (α : Type) where
  /-- The entries. -/
  toList : List (String × α)
  /-- Keys grow from entry to entry. -/
  sorted : toList.Pairwise (fun a b => a.1 < b.1)

namespace Table

variable {α : Type}

instance [DecidableEq α] : DecidableEq (Table α) := fun a b =>
  if h : a.toList = b.toList then
    .isTrue (by cases a; cases b; cases h; rfl)
  else
    .isFalse (fun e => h (congrArg toList e))

/-- The table without entries. -/
def empty : Table α :=
  ⟨[], .nil⟩

instance : Inhabited (Table α) := ⟨empty⟩

/-! ### Entry lists -/

/-- The value at `k` in a list of entries. -/
def lookup (k : String) : List (String × α) → Option α
  | [] => none
  | (k', v) :: rest => if k = k' then some v else lookup k rest

/-- `entries` with `v` at `k`, at its place in the order. -/
def insertEntry (k : String) (v : α) : List (String × α) → List (String × α)
  | [] => [(k, v)]
  | (k', v') :: rest =>
    if k < k' then (k, v) :: (k', v') :: rest
    else if k = k' then (k, v) :: rest
    else (k', v') :: insertEntry k v rest

theorem mem_insertEntry {k : String} {v : α} {p : String × α} :
    ∀ {entries : List (String × α)}, p ∈ insertEntry k v entries → p = (k, v) ∨ p ∈ entries
  | [], h => by simpa [insertEntry] using h
  | (k', v') :: rest, h => by
    unfold insertEntry at h
    split at h
    · simpa using h
    · split at h
      · rcases List.mem_cons.1 h with h | h
        · exact .inl h
        · exact .inr (List.mem_cons_of_mem _ h)
      · rcases List.mem_cons.1 h with h | h
        · exact .inr (by simp [h])
        · exact (mem_insertEntry h).imp id (List.mem_cons_of_mem _)

theorem sorted_insertEntry (k : String) (v : α) :
    ∀ {entries : List (String × α)}, entries.Pairwise (fun a b => a.1 < b.1) →
      (insertEntry k v entries).Pairwise (fun a b => a.1 < b.1)
  | [], _ => by simp [insertEntry]
  | (k', v') :: rest, h => by
    have ⟨h₁, h₂⟩ := List.pairwise_cons.1 h
    unfold insertEntry
    split
    · next hlt =>
      refine List.pairwise_cons.2 ⟨fun p hp => ?_, h⟩
      rcases List.mem_cons.1 hp with rfl | hp
      · exact hlt
      · exact String.lt_trans hlt (h₁ p hp)
    · split
      · next _ heq =>
        subst heq
        exact List.pairwise_cons.2 ⟨fun p hp => h₁ p hp, h₂⟩
      · next hlt hne =>
        refine List.pairwise_cons.2 ⟨fun p hp => ?_, sorted_insertEntry k v h₂⟩
        rcases mem_insertEntry hp with rfl | hp
        · rcases String.le_total k k' with hle | hle
          · exact absurd (String.le_antisymm hle (String.not_lt.1 hlt)) hne
          · exact Decidable.byContradiction fun hn =>
              hne (String.le_antisymm (String.not_lt.1 hn) hle)
        · exact h₁ p hp

theorem lookup_insertEntry (k : String) (v : α) (j : String) :
    ∀ entries : List (String × α),
      lookup j (insertEntry k v entries) = if j = k then some v else lookup j entries
  | [] => by simp [insertEntry, lookup]
  | (k', v') :: rest => by
    unfold insertEntry
    split
    · rfl
    · split
      · next _ heq => subst heq; by_cases h : j = k <;> simp [lookup, h]
      · next _ hne =>
        simp only [lookup, lookup_insertEntry k v j rest]
        by_cases h : j = k'
        · subst h; simp [Ne.symm hne]
        · simp [h]

theorem lookup_eq_none_of_lt {k : String} :
    ∀ {entries : List (String × α)}, (∀ p ∈ entries, k < p.1) → lookup k entries = none
  | [], _ => rfl
  | (k', _) :: rest, h => by
    have hne : k ≠ k' := String.ne_of_lt (h _ List.mem_cons_self)
    simp only [lookup, hne, if_false]
    exact lookup_eq_none_of_lt fun p hp => h p (List.mem_cons_of_mem _ hp)

theorem eq_of_lookup_eq :
    ∀ {a b : List (String × α)}, a.Pairwise (fun x y => x.1 < y.1) →
      b.Pairwise (fun x y => x.1 < y.1) → (∀ k, lookup k a = lookup k b) → a = b
  | [], [], _, _, _ => rfl
  | [], (k, v) :: _, _, _, h => by simpa [lookup] using h k
  | (k, v) :: _, [], _, _, h => by simpa [lookup] using h k
  | (k, v) :: a, (k', v') :: b, ha, hb, h => by
    have ⟨ha₁, ha₂⟩ := List.pairwise_cons.1 ha
    have ⟨hb₁, hb₂⟩ := List.pairwise_cons.1 hb
    have hk : k = k' := by
      rcases String.le_total k k' with hle | hle
      · refine Decidable.byContradiction fun hne => ?_
        have hlt : k < k' := Decidable.byContradiction fun hn =>
          hne (String.le_antisymm hle (String.not_lt.1 hn))
        have := h k
        simp only [lookup, if_true, hne, if_false] at this
        rw [lookup_eq_none_of_lt fun p hp => String.lt_trans hlt (hb₁ p hp)] at this
        cases this
      · refine Decidable.byContradiction fun hne => ?_
        have hlt : k' < k := Decidable.byContradiction fun hn =>
          hne (String.le_antisymm (String.not_lt.1 hn) hle)
        have := h k'
        simp only [lookup, if_true, Ne.symm hne, if_false] at this
        rw [lookup_eq_none_of_lt fun p hp => String.lt_trans hlt (ha₁ p hp)] at this
        cases this
    subst hk
    have hv : v = v' := by simpa [lookup] using h k
    subst hv
    refine congrArg _ (eq_of_lookup_eq ha₂ hb₂ fun j => ?_)
    by_cases hj : j = k
    · subst hj
      rw [lookup_eq_none_of_lt ha₁, lookup_eq_none_of_lt hb₁]
    · simpa [lookup, hj] using h j

/-! ### Look-up, insertion, removal -/

/-- The value at `k`. -/
def get? (t : Table α) (k : String) : Option α :=
  lookup k t.toList

/-- `t` with `v` at `k`, over any value that was there. -/
def insert (t : Table α) (k : String) (v : α) : Table α :=
  ⟨insertEntry k v t.toList, sorted_insertEntry k v t.sorted⟩

/-- `t` without the entry at `k`. -/
def erase (t : Table α) (k : String) : Table α :=
  ⟨t.toList.filter (fun p => p.1 ≠ k), t.sorted.sublist List.filter_sublist⟩

/-- The keys, in order. -/
def keys (t : Table α) : List String :=
  t.toList.map (·.1)

/-- Inserts the pairs in turn: of two pairs with one key the later stays. -/
def insertMany (t : Table α) (pairs : List (String × α)) : Table α :=
  pairs.foldl (fun t p => t.insert p.1 p.2) t

/-- The table of the pairs: of two pairs with one key the later stays. -/
def ofList (pairs : List (String × α)) : Table α :=
  empty.insertMany pairs

theorem ext_get? {a b : Table α} (h : ∀ k, a.get? k = b.get? k) : a = b := by
  cases a; cases b
  simp only [mk.injEq]
  exact eq_of_lookup_eq ‹_› ‹_› h

@[simp] theorem get?_empty (k : String) : (empty : Table α).get? k = none := rfl

theorem get?_insert (t : Table α) (k : String) (v : α) (j : String) :
    (t.insert k v).get? j = if j = k then some v else t.get? j :=
  lookup_insertEntry k v j t.toList

@[simp] theorem get?_insert_self (t : Table α) (k : String) (v : α) :
    (t.insert k v).get? k = some v := by simp [get?_insert]

theorem lookup_filter_ne (k j : String) :
    ∀ entries : List (String × α),
      lookup j (entries.filter (fun p => p.1 ≠ k)) = if j = k then none else lookup j entries
  | [] => by simp [lookup]
  | (k', v) :: rest => by
    have ih := lookup_filter_ne k j rest
    by_cases hk : k' = k
    · subst hk
      by_cases hj : j = k' <;> simp_all [lookup]
    · by_cases hj : j = k'
      · subst hj; simp [hk, lookup]
      · simp_all [lookup]

theorem get?_erase (t : Table α) (k j : String) :
    (t.erase k).get? j = if j = k then none else t.get? j :=
  lookup_filter_ne k j t.toList

/-- Of the pairs with one key the last is found, and where there is none, what was there. -/
theorem get?_insertMany {k : String} (pairs : List (String × α)) (t : Table α) :
    (t.insertMany pairs).get? k = ((pairs.reverse.find? (·.1 = k)).map (·.2)).or (t.get? k) := by
  induction pairs generalizing t with
  | nil => rfl
  | cons p rest ih =>
    have hcons : t.insertMany (p :: rest) = (t.insert p.1 p.2).insertMany rest := rfl
    rw [hcons, ih, List.reverse_cons, List.find?_append, Option.map_or, Option.or_assoc,
      get?_insert]
    by_cases hk : k = p.1
    · simp [hk]
    · simp [hk, Ne.symm hk]

theorem get?_insertMany_of_not_mem {k : String} :
    ∀ (pairs : List (String × α)) (t : Table α), (∀ p ∈ pairs, p.1 ≠ k) →
      (t.insertMany pairs).get? k = t.get? k
  | [], _, _ => rfl
  | p :: rest, t, h => by
    have ih := get?_insertMany_of_not_mem rest (t.insert p.1 p.2)
      fun q hq => h q (List.mem_cons_of_mem _ hq)
    have hne : k ≠ p.1 := fun e => h p List.mem_cons_self e.symm
    simpa [insertMany, get?_insert, hne] using ih

theorem get?_insertMany_sorted {k : String} :
    ∀ {pairs : List (String × α)} (t : Table α), pairs.Pairwise (fun a b => a.1 < b.1) →
      (t.insertMany pairs).get? k = (lookup k pairs).or (t.get? k)
  | [], _, _ => rfl
  | (k', v) :: rest, t, h => by
    have ⟨h₁, h₂⟩ := List.pairwise_cons.1 h
    by_cases hk : k = k'
    · subst hk
      have := get?_insertMany_of_not_mem rest (t.insert k v)
        fun q hq e => String.lt_irrefl k (by have := h₁ q hq; rwa [e] at this)
      simpa [insertMany, lookup] using this
    · have ih := get?_insertMany_sorted (k := k) (t.insert k' v) h₂
      simpa [insertMany, lookup, hk, get?_insert] using ih

theorem lookup_map {β : Type} (f : α → β) (k : String) (entries : List (String × α)) :
    lookup k (entries.map fun p => (p.1, f p.2)) = (lookup k entries).map f := by
  induction entries with
  | nil => rfl
  | cons p rest ih =>
    by_cases hk : k = p.1
    · simp [lookup, hk]
    · simp [lookup, hk, ih]

/-- The keys are where something is found. -/
theorem mem_keys {t : Table α} {k : String} : k ∈ t.keys ↔ (t.get? k).isSome := by
  have h (entries : List (String × α)) :
      k ∈ entries.map (·.1) ↔ (lookup k entries).isSome := by
    induction entries with
    | nil => simp [lookup]
    | cons p rest ih =>
      by_cases hk : k = p.1
      · simp [lookup, hk]
      · rw [List.map_cons, List.mem_cons, ih, lookup]
        simp [hk]
  exact h t.toList

end Table

end AmqpReturns
