import MultiAcademy.Lib.Run

/-!
# Overwriting

A memory of cells and events that overwrite a cell each.  What an event writes does not
depend on the memory.  So a cell ends up with what was written to it last: nothing that
it held is lost, in any order of the events, only when its writes agree and cover what it
held before.
-/

namespace MultiAcademy.Lib

universe u v w

section Overwrite
variable {ε : Type u} {κ : Type v} {β : Type w} [DecidableEq κ]
variable {cell : ε → Option (κ × β)} {m : κ → β} {e : ε} {es : List ε} {k : κ} {b : β}

/-- The memory after the event: one cell is overwritten, or none. -/
def write (cell : ε → Option (κ × β)) (e : ε) (m : κ → β) : κ → β :=
  match cell e with
  | none => m
  | some (k, b) => Function.update m k b

theorem write_self (h : cell e = some (k, b)) : write cell e m k = b := by
  simp [write, h]

/-- An event that writes to another cell, or to none, leaves a cell. -/
theorem write_of_ne (h : ∀ b, cell e ≠ some (k, b)) : write cell e m k = m k := by
  unfold write
  cases hcell : cell e with
  | none => rfl
  | some w =>
    obtain ⟨k', b⟩ := w
    have hne : k ≠ k' := by
      rintro rfl
      exact h b hcell
    exact Function.update_of_ne hne b m

/-- A cell to which no event writes holds what it held before. -/
theorem run_write_of_not_mem (h : ∀ e ∈ es, ∀ b, cell e ≠ some (k, b)) :
    run (write cell) m es k = m k := by
  induction es generalizing m with
  | nil => rfl
  | cons e es ih =>
    rw [run_cons, ih fun e' he' => h e' (List.mem_cons_of_mem _ he')]
    exact write_of_ne (h e List.mem_cons_self)

/-- A cell to which some event writes holds what one of them wrote. -/
theorem run_write_of_mem (he : e ∈ es) (h : cell e = some (k, b)) :
    ∃ e' ∈ es, ∃ b', cell e' = some (k, b') ∧ run (write cell) m es k = b' := by
  induction es using List.reverseRecOn with
  | nil => exact absurd he List.not_mem_nil
  | append_singleton es last ih =>
    by_cases hlast : ∃ b', cell last = some (k, b')
    · obtain ⟨b', hb'⟩ := hlast
      refine ⟨last, List.mem_concat_self, b', hb', ?_⟩
      rw [run_append]
      exact write_self hb'
    have hne : ∀ b', cell last ≠ some (k, b') := fun b' hb' => hlast ⟨b', hb'⟩
    have hmem : e ∈ es := by
      rcases List.mem_append.1 he with hmem | hmem
      · exact hmem
      rw [List.mem_singleton.1 hmem] at h
      exact absurd h (hne b)
    obtain ⟨e', he', b', hb', hrun⟩ := ih hmem
    refine ⟨e', List.mem_append_left _ he', b', hb', ?_⟩
    rw [run_append, ← hrun]
    exact write_of_ne hne

/-- A cell holds what it held before, or what some event wrote. -/
theorem run_write_cases (cell : ε → Option (κ × β)) (m : κ → β) (es : List ε) (k : κ) :
    run (write cell) m es k = m k
      ∨ ∃ e ∈ es, ∃ b, cell e = some (k, b) ∧ run (write cell) m es k = b := by
  by_cases h : ∃ e ∈ es, ∃ b, cell e = some (k, b)
  · obtain ⟨e, he, b, hb⟩ := h
    exact Or.inr (run_write_of_mem he hb)
  refine Or.inl (run_write_of_not_mem ?_)
  intro e he b hb
  exact h ⟨e, he, b, hb⟩

/-! ## Order -/

/-- The events can be put in an order that ends with any one of them. -/
theorem exists_perm_last (he : e ∈ es) : ∃ fs : List ε, (fs ++ [e]).Perm es := by
  obtain ⟨s, t, rfl⟩ := List.append_of_mem he
  refine ⟨s ++ t, ?_⟩
  rw [List.append_assoc]
  exact (List.perm_append_singleton e t).append_left s

/-- When no order of the events changes a cell, every event writes what it ends up with. -/
theorem eq_of_order_free
    (h : ∀ es', es'.Perm es → run (write cell) m es' k = run (write cell) m es k)
    (he : e ∈ es) (hb : cell e = some (k, b)) : run (write cell) m es k = b := by
  obtain ⟨fs, hperm⟩ := exists_perm_last he
  rw [← h _ hperm, run_append]
  exact write_self hb

/-- Where the writes to a cell agree, the order of the events does not matter to it. -/
theorem order_free_of_agree
    (h : ∀ e ∈ es, ∀ e' ∈ es, ∀ b b', cell e = some (k, b) → cell e' = some (k, b') → b = b')
    {es' : List ε} (hperm : es'.Perm es) :
    run (write cell) m es' k = run (write cell) m es k := by
  by_cases hsome : ∃ e ∈ es, ∃ b, cell e = some (k, b)
  · obtain ⟨e, he, b, hb⟩ := hsome
    obtain ⟨e₁, he₁, b₁, hb₁, hrun₁⟩ := run_write_of_mem (m := m) he hb
    obtain ⟨e₂, he₂, b₂, hb₂, hrun₂⟩ := run_write_of_mem (m := m) (hperm.mem_iff.2 he) hb
    rw [hrun₁, hrun₂]
    exact h e₂ (hperm.mem_iff.1 he₂) e₁ he₁ b₂ b₁ hb₂ hb₁
  have hnone : ∀ e ∈ es, ∀ b, cell e ≠ some (k, b) :=
    fun e he b hb => hsome ⟨e, he, b, hb⟩
  have hnone' : ∀ e ∈ es', ∀ b, cell e ≠ some (k, b) :=
    fun e he => hnone e (hperm.mem_iff.1 he)
  rw [run_write_of_not_mem hnone, run_write_of_not_mem hnone']

/-! ## Loss -/

/-- Where no event of a run loses anything, the run loses nothing. -/
theorem sub_run_of_kept {sub : β → β → Prop} (hrefl : ∀ b, sub b b)
    (htrans : ∀ a b c, sub a b → sub b c → sub a c)
    (h : ∀ pre e, pre ++ [e] <+: es →
      sub (run (write cell) m pre k) (run (write cell) m (pre ++ [e]) k)) :
    sub (m k) (run (write cell) m es k) := by
  induction es using List.reverseRecOn with
  | nil => exact hrefl _
  | append_singleton es last ih =>
    refine htrans _ _ _ (ih fun pre e hpre => ?_) (h es last (List.prefix_refl _))
    exact h pre e (hpre.trans (List.prefix_append _ _))

/-- **Nothing is lost, in any order**, exactly when the events that write to a cell agree
and write what covers what it held before. -/
theorem kept_and_order_free_iff {sub : β → β → Prop} (hrefl : ∀ b, sub b b)
    (htrans : ∀ a b c, sub a b → sub b c → sub a c) (cell : ε → Option (κ × β)) (m : κ → β)
    (es : List ε) :
    ((∀ pre e, pre ++ [e] <+: es → ∀ k,
        sub (run (write cell) m pre k) (run (write cell) m (pre ++ [e]) k))
      ∧ ∀ es', es'.Perm es → ∀ k, run (write cell) m es' k = run (write cell) m es k)
    ↔ ∀ e ∈ es, ∀ k b, cell e = some (k, b) →
        sub (m k) b ∧ ∀ e' ∈ es, ∀ b', cell e' = some (k, b') → b' = b := by
  constructor
  · rintro ⟨hkept, horder⟩ e he k b hb
    have hend : ∀ e' ∈ es, ∀ b', cell e' = some (k, b') → run (write cell) m es k = b' := by
      intro e' he' b' hb'
      exact eq_of_order_free (fun es' hperm => horder es' hperm k) he' hb'
    constructor
    · rw [← hend e he b hb]
      exact sub_run_of_kept hrefl htrans fun pre e' hpre => hkept pre e' hpre k
    intro e' he' b' hb'
    rw [← hend e' he' b' hb', hend e he b hb]
  intro h
  constructor
  · intro pre e hpre k
    have he : e ∈ es := hpre.subset List.mem_concat_self
    rw [run_append]
    by_cases hwrites : ∃ b, cell e = some (k, b)
    · obtain ⟨b, hb⟩ := hwrites
      rw [run_cons, run_nil, write_self hb]
      rcases run_write_cases cell m pre k with hold | ⟨e', he', b', hb', hrun⟩
      · rw [hold]
        exact (h e he k b hb).1
      have hmem : e' ∈ es := hpre.subset (List.mem_append_left _ he')
      rw [hrun, (h e he k b hb).2 e' hmem b' hb']
      exact hrefl b
    rw [run_cons, run_nil, write_of_ne fun b hb => hwrites ⟨b, hb⟩]
    exact hrefl _
  intro es' hperm k
  refine order_free_of_agree ?_ hperm
  intro e he e' he' b b' hb hb'
  exact (h e' he' k b' hb').2 e he b hb

end Overwrite
end MultiAcademy.Lib
