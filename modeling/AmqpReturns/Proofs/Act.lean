import AmqpReturns.Flow.Act

/-!
# Proofs — working out acts

What an act made of two acts comes to in a world (`Act.bind_ok`, `Act.bind_error`), and what the
plain acts come to.  `World.Wrote P` relates a world to one whose record goes on with entries of
which `P` holds, and `World.Adds f xs` to one where `f` reads `xs` off the entries it goes on with.
-/

namespace AmqpReturns

variable {σ : Type}

namespace Act

variable {α β : Type}

theorem bind_ok {a : Act σ α} {f : α → Act σ β} {w w₁ : World σ} {x : α}
    (h : a w = (.ok x, w₁)) : (a >>= f) w = f x w₁ := by
  show ExceptT.bindCont f (a w).1 (a w).2 = _
  rw [h]
  rfl

theorem bind_error {a : Act σ α} {f : α → Act σ β} {w w₁ : World σ} {e : Halt}
    (h : a w = (.error e, w₁)) : (a >>= f) w = (.error e, w₁) := by
  show ExceptT.bindCont f (a w).1 (a w).2 = _
  rw [h]
  rfl

@[simp] theorem fail_apply (f : Failure) (w : World σ) :
    (fail f : Act σ α) w = (.error (.failure f), w) := rfl

@[simp] theorem run_apply (f : World σ → α × World σ) (w : World σ) :
    run f w = (.ok (f w).1, (f w).2) := rfl

@[simp] theorem call_apply (c : Call) (f : σ → Reply σ α) (w : World σ) :
    call c f w = ((f w.outside).result, w.writeCall c (f w.outside)) := rfl

/-- Working on the result alone changes nothing in the world. -/
theorem snd_bind_pure (a : Act σ α) (f : α → β) (w : World σ) :
    ((a >>= fun x => pure (f x)) w).2 = (a w).2 := by
  rcases h : a w with ⟨e | x, w₁⟩
  · rw [bind_error h]
  · rw [bind_ok h]
    rfl

end Act

namespace World

/-! ### What is written -/

/-- The record goes on with entries of which `P` holds. -/
def Wrote (P : Entry → Prop) (w w' : World σ) : Prop :=
  ∃ es, w'.record = w.record ++ es ∧ ∀ e ∈ es, P e

variable {P : Entry → Prop}

theorem Wrote.of_eq {w w' : World σ} (h : w'.record = w.record) : Wrote P w w' :=
  ⟨[], by rw [h, List.append_nil], fun _ he => absurd he List.not_mem_nil⟩

theorem Wrote.trans {w w₁ w' : World σ} (h₁ : Wrote P w w₁) (h₂ : Wrote P w₁ w') :
    Wrote P w w' := by
  obtain ⟨es, hes, hP⟩ := h₁
  obtain ⟨fs, hfs, hQ⟩ := h₂
  refine ⟨es ++ fs, by rw [hfs, hes, List.append_assoc], fun e he => ?_⟩
  rcases List.mem_append.mp he with he | he
  · exact hP e he
  · exact hQ e he

theorem Wrote.mono {Q : Entry → Prop} {w w' : World σ} (hPQ : ∀ e, P e → Q e)
    (h : Wrote P w w') : Wrote Q w w' := by
  obtain ⟨es, hes, hP⟩ := h
  exact ⟨es, hes, fun e he => hPQ e (hP e he)⟩

theorem wrote_write (w : World σ) {e : Entry} (h : P e) : Wrote P w (w.write e) :=
  ⟨[e], rfl, fun _ he => List.mem_singleton.mp he ▸ h⟩

theorem wrote_writeCall {α : Type} (w : World σ) (c : Call) (r : Reply σ α) (hc : P (.call c))
    (hn : ∀ n, P (.note n)) : Wrote P w (w.writeCall c r) := by
  refine ⟨.call c :: r.notes.map .note, rfl, fun e he => ?_⟩
  rcases List.mem_cons.mp he with rfl | he
  · exact hc
  · obtain ⟨n, -, rfl⟩ := List.mem_map.mp he
    exact hn n

/-- What `f` reads off the entries that the record goes on with is `xs`, in that order. -/
def Adds {β : Type} (f : Entry → Option β) (xs : List β) (w w' : World σ) : Prop :=
  ∃ es, w'.record = w.record ++ es ∧ es.filterMap f = xs

section

variable {β : Type} {f : Entry → Option β} {xs ys : List β} {w w₁ w' : World σ}

theorem Adds.of_eq (h : w'.record = w.record) : Adds f [] w w' :=
  ⟨[], by rw [h, List.append_nil], rfl⟩

theorem Adds.trans (h₁ : Adds f xs w w₁) (h₂ : Adds f ys w₁ w') : Adds f (xs ++ ys) w w' := by
  obtain ⟨es, hes, rfl⟩ := h₁
  obtain ⟨fs, hfs, rfl⟩ := h₂
  exact ⟨es ++ fs, by rw [hfs, hes, List.append_assoc], List.filterMap_append⟩

/-- Nothing is read off entries of which `P` holds. -/
theorem Wrote.adds (h : Wrote P w w') (hP : ∀ e, P e → f e = none) : Adds f [] w w' := by
  obtain ⟨es, hes, hp⟩ := h
  exact ⟨es, hes, List.filterMap_eq_nil_iff.mpr fun e he => hP e (hp e he)⟩

theorem adds_write (w : World σ) (e : Entry) : Adds f (f e).toList w (w.write e) := by
  refine ⟨[e], rfl, ?_⟩
  rw [List.filterMap_cons]
  cases f e <;> rfl

end

end World

end AmqpReturns
