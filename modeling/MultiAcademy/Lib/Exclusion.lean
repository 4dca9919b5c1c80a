import MultiAcademy.Lib.Keyed

/-!
# Tables whose rows exclude one another

A symmetric relation says when two rows are in conflict.  A table is clear when no two of its
rows are: a delete keeps it so, and a row that is added or rewritten has to be free of conflict
with the others only.
-/

namespace MultiAcademy.Lib

universe u v
variable {ρ : Type u} {κ : Type v}

namespace Keyed
variable {key : ρ → κ} {conflict : ρ → ρ → Prop} {t t' : Keyed key} {r : ρ} {k : κ}

/-- No two rows are in conflict. -/
def Clear (conflict : ρ → ρ → Prop) (t : Keyed key) : Prop :=
  ∀ r ∈ t.rows, ∀ r' ∈ t.rows, key r ≠ key r' → ¬ conflict r r'

theorem clear_empty : Clear conflict (empty : Keyed key) := by
  intro r hr
  cases hr

theorem Clear.deleteWhere (hc : Clear conflict t) (p : ρ → Bool) :
    Clear conflict (t.deleteWhere p) := by
  intro r hr r' hr'
  rw [mem_deleteWhere] at hr hr'
  exact hc r hr.1 r' hr'.1

/-- A row is added without conflict with the rows there are. -/
theorem clear_insert? [DecidableEq κ] (hsymm : ∀ a b, conflict a b → conflict b a)
    (hc : Clear conflict t) (h : t.insert? r = some t') :
    Clear conflict t' ↔ ∀ r' ∈ t.rows, ¬ conflict r r' := by
  obtain ⟨hnew, hrows⟩ := insert?_eq_some h
  have hkey : ∀ r' ∈ t.rows, key r' ≠ key r := find?_eq_none.1 hnew
  constructor
  · intro hclear r' hr'
    exact hclear r ((hrows r).2 (Or.inr rfl)) r' ((hrows r').2 (Or.inl hr')) (hkey r' hr').symm
  intro hfree a ha b hb hne
  rcases (hrows a).1 ha with ha | rfl
  · rcases (hrows b).1 hb with hb | rfl
    · exact hc a ha b hb hne
    · exact fun hab => hfree a ha (hsymm a b hab)
  rcases (hrows b).1 hb with hb | rfl
  · exact hfree b hb
  · exact absurd rfl hne

/-- The row of a key is rewritten without conflict with the rows of other keys. -/
theorem clear_updateWhere [DecidableEq κ] {f : ρ → ρ} (hf : ∀ r, key (f r) = key r)
    (hsymm : ∀ a b, conflict a b → conflict b a) (hc : Clear conflict t) (hr : r ∈ t.rows)
    (hk : key r = k) :
    Clear conflict (t.updateWhere (fun r => key r = k) f hf)
      ↔ ∀ r' ∈ t.rows, key r' ≠ k → ¬ conflict (f r) r' := by
  have hupdated : f r ∈ (t.updateWhere (fun r => key r = k) f hf).rows :=
    (mem_updateWhere hf).2 ⟨r, hr, by simp [hk]⟩
  have hother : ∀ r' ∈ t.rows, key r' ≠ k →
      r' ∈ (t.updateWhere (fun r => key r = k) f hf).rows := by
    intro r' hr' hne
    exact (mem_updateWhere hf).2 ⟨r', hr', by simp [hne]⟩
  have hcases : ∀ a ∈ (t.updateWhere (fun r => key r = k) f hf).rows,
      a = f r ∨ (a ∈ t.rows ∧ key a ≠ k) := by
    intro a ha
    obtain ⟨a', ha', heq⟩ := (mem_updateWhere hf).1 ha
    by_cases hka : key a' = k
    · left
      rw [← heq, eq_of_key ha' hr (hka.trans hk.symm)]
      simp [hk]
    right
    simp only [hka, decide_false, Bool.false_eq_true, if_false] at heq
    rw [← heq]
    exact ⟨ha', hka⟩
  constructor
  · intro hclear r' hr' hne
    refine hclear (f r) hupdated r' (hother r' hr' hne) ?_
    rw [hf, hk]
    exact hne.symm
  intro hfree a ha b hb hne
  rcases hcases a ha with rfl | ⟨ha, hka⟩
  · rcases hcases b hb with rfl | ⟨hb, hkb⟩
    · exact absurd rfl hne
    · exact hfree b hb hkb
  rcases hcases b hb with rfl | ⟨hb, -⟩
  · exact fun hab => hfree a ha hka (hsymm _ _ hab)
  · exact hc a ha b hb hne

end Keyed
end MultiAcademy.Lib
