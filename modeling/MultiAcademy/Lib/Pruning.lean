import MultiAcademy.Lib.Run

/-!
# Passes that drop what has lost its support

A pass goes through a list of items and drops each that is an orphan in the state as it is
by then; dropping one may make an orphan of a later one.  What a pass drops is a list of its
own, and the outcome is that of dropping it without further questions.
-/

namespace MultiAcademy.Lib

universe u v
variable {σ : Type u} {ι : Type v} (orphan : σ → ι → Bool) (drop : ι → σ → σ)

/-- One turn: an orphan is dropped. -/
def prune (i : ι) (s : σ) : σ := if orphan s i then drop i s else s

/-- The items that the pass drops, in order. -/
def pruned : List ι → σ → List ι
  | [], _ => []
  | i :: items, s =>
    if orphan s i then i :: pruned items (drop i s) else pruned items s

/-- One turn of the pass in which the items that are due are dropped, and no others. -/
def dropDue (due : ι → Bool) (i : ι) (s : σ) : σ := if due i then drop i s else s

section Pruning
variable {orphan drop} {due : ι → Bool} {matters : ι → Prop} {I : σ → Prop} {s : σ} {i : ι}
  {items : List ι}

/-- **What a pass comes to** is to drop the items it drops. -/
theorem run_prune : run (prune orphan drop) s items = run drop s (pruned orphan drop items s) := by
  induction items generalizing s with
  | nil => rfl
  | cons i items ih =>
    rw [run_cons, prune, pruned, ih]
    by_cases h : orphan s i = true
    · rw [if_pos h, if_pos h, run_cons]
    · rw [if_neg h, if_neg h]

/-- An orphan at the start is dropped, when nobody is adopted by a drop. -/
theorem mem_pruned_of_orphan (hmono : ∀ s i j, orphan s i = true → orphan (drop j s) i = true)
    (h : orphan s i = true) (hi : i ∈ items) : i ∈ pruned orphan drop items s := by
  induction items generalizing s with
  | nil => exact hi
  | cons j items ih =>
    rw [pruned]
    rcases List.mem_cons.1 hi with rfl | hrest
    · rw [if_pos h]
      exact List.mem_cons_self
    split
    · exact List.mem_cons_of_mem _ (ih (hmono s i j h) hrest)
    · exact ih h hrest

/-- **A pass drops only what is due**, of the items that matter, exactly when no other one is
an orphan once the items due before it are gone. -/
theorem pruned_due_iff (hmono : ∀ s i j, orphan s i = true → orphan (drop j s) i = true)
    (hI : ∀ s i, I s → I (drop i s)) (hidle : ∀ s i, I s → ¬ matters i → drop i s = s)
    (hdue : ∀ i, due i = true → orphan s i = true) (h0 : I s) :
    (∀ i ∈ pruned orphan drop items s, matters i → due i = true)
      ↔ Along (dropDue drop due) (fun s i => matters i → orphan s i = true → due i = true)
          s items := by
  induction items generalizing s with
  | nil => simp [pruned]
  | cons i items ih =>
    rw [pruned, along_cons, dropDue]
    by_cases horphan : orphan s i = true
    · rw [if_pos horphan, List.forall_mem_cons]
      have hrest := ih (fun j hj => hmono s j i (hdue j hj)) (hI s i h0)
      by_cases hd : due i = true
      · rw [if_pos hd, hrest]
        simp [hd]
      rw [if_neg hd]
      by_cases hm : matters i
      · simp [hm, horphan, hd]
      rw [hidle s i h0 hm] at hrest ⊢
      simp [hm, hrest]
    have hd : due i = false := by
      rw [← Bool.not_eq_true]
      exact fun hd => horphan (hdue i hd)
    rw [if_neg horphan, hd, if_neg Bool.false_ne_true, ih hdue h0]
    simp [horphan]

end Pruning

end MultiAcademy.Lib
