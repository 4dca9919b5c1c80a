import Mathlib

/-!
# Runs of a deterministic event system

A system here is a total step function `step : ε → σ → σ`; an event that is not
enabled leaves the state as it is.  A run is the left fold of the events over a
state, so every order of events is a run and a statement over all lists of events
is a statement over all interleavings.

`Along step P s es` says that `P` holds of every event of the run together with
the state it is applied to.  It is how a condition on steps is attached to a run,
and how a per-step verdict is collected along one.
-/

namespace MultiAcademy.Lib

universe u v
variable {σ : Type u} {ε : Type v}

/-- The state after the events `es`, applied in order. -/
def run (step : ε → σ → σ) (s : σ) (es : List ε) : σ := es.foldl (fun s e => step e s) s

@[simp] theorem run_nil (step : ε → σ → σ) (s : σ) : run step s [] = s := rfl

@[simp] theorem run_cons (step : ε → σ → σ) (s : σ) (e : ε) (es : List ε) :
    run step s (e :: es) = run step (step e s) es := rfl

@[simp] theorem run_append (step : ε → σ → σ) (s : σ) (es fs : List ε) :
    run step s (es ++ fs) = run step (run step s es) fs := by
  simp [run, List.foldl_append]

/-- `P` holds of every event of the run from `s`, at the state it is applied to. -/
def Along (step : ε → σ → σ) (P : σ → ε → Prop) : σ → List ε → Prop
  | _, [] => True
  | s, e :: es => P s e ∧ Along step P (step e s) es

/-- States some run from `init` ends in. -/
def Reachable (step : ε → σ → σ) (init s : σ) : Prop := ∃ es, run step init es = s

section Along
variable {step : ε → σ → σ} {P Q : σ → ε → Prop} {s : σ}

@[simp] theorem along_nil : Along step P s [] := trivial

variable {J : σ → Prop} {es : List ε} {D : σ → ε → Prop}

@[simp] theorem along_cons {e : ε} :
    Along step P s (e :: es) ↔ P s e ∧ Along step P (step e s) es := Iff.rfl

instance Along.decidable (step : ε → σ → σ) (P : σ → ε → Prop) [∀ s e, Decidable (P s e)] :
    ∀ (s : σ) (es : List ε), Decidable (Along step P s es)
  | _, [] => isTrue trivial
  | s, e :: es =>
    have : Decidable (Along step P (step e s) es) := Along.decidable step P (step e s) es
    inferInstanceAs (Decidable (_ ∧ _))

theorem along_append {fs : List ε} :
    Along step P s (es ++ fs) ↔ Along step P s es ∧ Along step P (run step s es) fs := by
  induction es generalizing s with
  | nil => simp
  | cons e es ih => simp [ih, and_assoc]

/-- What holds of every event holds along every run of them. -/
theorem along_of_forall {D : ε → Prop} (hD : ∀ e ∈ es, D e) :
    Along step (fun _ e => D e) s es := by
  induction es generalizing s with
  | nil => trivial
  | cons e es ih =>
    exact ⟨hD e List.mem_cons_self, ih fun e' he' => hD e' (List.mem_cons_of_mem _ he')⟩

/-- Two verdicts of each step are one. -/
theorem Along.and (hP : Along step P s es) (hQ : Along step Q s es) :
    Along step (fun s e => P s e ∧ Q s e) s es := by
  induction es generalizing s with
  | nil => trivial
  | cons e es ih => exact ⟨⟨hP.1, hQ.1⟩, ih hP.2 hQ.2⟩

theorem along_and_iff :
    Along step (fun s e => P s e ∧ Q s e) s es ↔ Along step P s es ∧ Along step Q s es := by
  refine ⟨?_, fun h => h.1.and h.2⟩
  induction es generalizing s with
  | nil => exact fun _ => ⟨trivial, trivial⟩
  | cons e es ih =>
    rintro ⟨⟨hP, hQ⟩, hrest⟩
    exact ⟨⟨hP, (ih hrest).1⟩, hQ, (ih hrest).2⟩

variable {I : σ → Prop}

/-- **Invariants along a guarded run.**  A property kept by the steps that satisfy
`P` holds at the end of a run all of whose steps satisfy `P`. -/
theorem along_invariant (hstep : ∀ s e, I s → P s e → I (step e s)) (h0 : I s) (h : Along step P s es) : I (run step s es) := by
  induction es generalizing s with
  | nil => exact h0
  | cons e es ih => exact ih (hstep s e h0 h.1) h.2

/-- The invariant holds in every state the guarded run passes through. -/
theorem along_invariant_throughout (hstep : ∀ s e, I s → P s e → I (step e s))
    {pre : List ε} (h0 : I s) (h : Along step P s es) (hpre : pre <+: es) :
    I (run step s pre) := by
  obtain ⟨post, rfl⟩ := hpre
  exact along_invariant hstep h0 (along_append.1 h).1

/-- What the guard and the invariant give at every step holds along the guarded run. -/
theorem Along.of_invariant (hstep : ∀ s e, I s → P s e → I (step e s))
    (hPQ : ∀ s e, I s → P s e → Q s e) (h0 : I s) (h : Along step P s es) :
    Along step Q s es := by
  induction es generalizing s with
  | nil => trivial
  | cons e es ih => exact ⟨hPQ s e h0 h.1, ih (hstep s e h0 h.1) h.2⟩

/-- Verdicts that agree wherever the invariant holds agree along the whole run. -/
theorem along_congr {D : ε → Prop} (hI : ∀ s e, D e → I s → I (step e s))
    (hPQ : ∀ s e, D e → I s → (P s e ↔ Q s e)) (hD : ∀ e ∈ es, D e) (h0 : I s) :
    Along step P s es ↔ Along step Q s es := by
  induction es generalizing s with
  | nil => exact Iff.rfl
  | cons e es ih =>
    have hDe : D e := hD e List.mem_cons_self
    have hDes : ∀ e' ∈ es, D e' := fun e' he' => hD e' (List.mem_cons_of_mem _ he')
    rw [along_cons, along_cons, hPQ s e hDe h0, ih hDes (hI s e hDe h0)]

/-- An invariant of every step holds after every run. -/
theorem run_invariant (hstep : ∀ s e, I s → I (step e s)) (h0 : I s)
    (es : List ε) : I (run step s es) := by
  induction es generalizing s with
  | nil => exact h0
  | cons e es ih => exact ih (hstep s e h0)

theorem Reachable.invariant {init : σ} (h0 : I init)
    (hstep : ∀ s e, I s → I (step e s)) (h : Reachable step init s) : I s := by
  obtain ⟨es, rfl⟩ := h
  exact run_invariant hstep h0 es

/-- What follows from a property step by step holds wherever the property does. -/
theorem throughout_of {I : σ → Prop}
    (hJ : ∀ s e, D s e → I s → J s → J (step e s)) (hD : Along step D s es)
    (hI : ∀ pre, pre <+: es → I (run step s pre)) (hj : J s) :
    ∀ pre, pre <+: es → J (run step s pre) := by
  induction es generalizing s with
  | nil =>
    intro pre hpre
    rw [List.prefix_nil.1 hpre]
    exact hj
  | cons e es ih =>
    obtain ⟨hDe, hDes⟩ := hD
    intro pre hpre
    rcases List.prefix_cons_iff.1 hpre with rfl | ⟨pre', rfl, hpre'⟩
    · exact hj
    have hI' : ∀ pre, pre <+: es → I (run step (step e s) pre) := by
      intro pre hpre
      exact hI (e :: pre) (by simpa using hpre)
    exact ih hDes hI' (hJ s e hDe (hI [] List.nil_prefix) hj) pre' hpre'

/-- **A property holds throughout a run exactly when no step breaks it.**  `P s e`
is the exact condition, on the state before the step, under which the step keeps
the property `I`; `D s e` is what is known of every step, and `J` what follows from `I`
along the way. -/
theorem along_iff_throughout_with {I : σ → Prop}
    (hJ : ∀ s e, D s e → I s → J s → J (step e s))
    (hstep : ∀ s e, D s e → I s → J s → (I (step e s) ↔ P s e))
    (hD : Along step D s es) (h0 : I s) (hj : J s) :
    Along step P s es ↔ ∀ pre, pre <+: es → I (run step s pre) := by
  induction es generalizing s with
  | nil =>
    constructor
    · intro _ pre hpre
      rw [List.prefix_nil.1 hpre]
      exact h0
    · intro _; trivial
  | cons e es ih =>
    obtain ⟨hDe, hDes⟩ := hD
    have hj' : J (step e s) := hJ s e hDe h0 hj
    constructor
    · rintro ⟨hP, hrest⟩ pre hpre
      have h1 : I (step e s) := (hstep s e hDe h0 hj).2 hP
      rcases List.prefix_cons_iff.1 hpre with rfl | ⟨pre', rfl, hpre'⟩
      · exact h0
      · exact (ih hDes h1 hj').1 hrest pre' hpre'
    intro h
    have h1 : I (step e s) := h [e] (by simp)
    refine ⟨(hstep s e hDe h0 hj).1 h1, (ih hDes h1 hj').2 ?_⟩
    intro pre hpre
    exact h (e :: pre) (by simpa using hpre)

theorem along_iff_throughout
    (hstep : ∀ s e, D s e → I s → (I (step e s) ↔ P s e))
    (hD : Along step D s es) (h0 : I s) :
    Along step P s es ↔ ∀ pre, pre <+: es → I (run step s pre) :=
  along_iff_throughout_with (J := fun _ => True) (fun _ _ _ _ _ => trivial)
    (fun s e hDe hI _ => hstep s e hDe hI) hD h0 trivial

/-- A property that holds throughout a run, together with a verdict on each of its steps. -/
theorem along_iff_throughout_and {I : σ → Prop} (hJ : ∀ s e, I s → J s → J (step e s))
    (hstep : ∀ s e, I s → J s → (I (step e s) ∧ Q s e ↔ P s e)) (h0 : I s)
    (hj : J s) :
    (∀ pre, pre <+: es → I (run step s pre)) ∧ Along step Q s es ↔ Along step P s es := by
  have hkept : ∀ s e, True → I s → J s → J (step e s) := fun s e _ => hJ s e
  have htrue : Along step (fun _ _ => True) s es := along_of_forall (D := fun _ => True)
    fun _ _ => trivial
  rw [← along_iff_throughout_with (P := fun s e => I (step e s)) hkept
    (fun _ _ _ _ _ => Iff.rfl) htrue h0 hj, ← along_and_iff]
  clear htrue
  induction es generalizing s with
  | nil => exact Iff.rfl
  | cons e es ih =>
    constructor
    · rintro ⟨hhead, hrest⟩
      exact ⟨(hstep s e h0 hj).1 hhead, (ih hhead.1 (hJ s e h0 hj)).1 hrest⟩
    rintro ⟨hhead, hrest⟩
    have hboth := (hstep s e h0 hj).2 hhead
    exact ⟨hboth, (ih hboth.1 (hJ s e h0 hj)).2 hrest⟩

/-- **A loss that is never made good.**  When the steps that satisfy `P` keep `I`, the
others lead to a state `B` that no step leaves, and `Q` tells the two apart, `Q` holds
at the end of a run exactly when every step satisfied `P`. -/
theorem along_iff_final {I B Q : σ → Prop} (hkeep : ∀ s e, I s → P s e → I (step e s))
    (hlose : ∀ s e, I s → ¬ P s e → B (step e s)) (hlost : ∀ s e, B s → B (step e s))
    (hI : ∀ s, I s → Q s) (hB : ∀ s, B s → ¬ Q s) (h0 : I s) :
    Q (run step s es) ↔ Along step P s es := by
  induction es generalizing s with
  | nil => exact iff_of_true (hI s h0) trivial
  | cons e es ih =>
    by_cases hP : P s e
    · rw [run_cons, ih (hkeep s e h0 hP), along_cons, and_iff_right hP]
    have hend : B (run step (step e s) es) := run_invariant hlost (hlose s e h0 hP) es
    exact iff_of_false (hB _ hend) fun h => hP h.1

/-- A verdict along a run, at each of its steps. -/
theorem along_iff_forall_step :
    Along step P s es ↔ ∀ before e, before ++ [e] <+: es → P (run step s before) e := by
  induction es generalizing s with
  | nil =>
    refine iff_of_true trivial ?_
    intro before e hpre
    exact absurd (List.prefix_nil.1 hpre) (by simp)
  | cons e es ih =>
    constructor
    · rintro ⟨hP, hrest⟩ before e' hpre
      cases before with
      | nil =>
        obtain rfl : e' = e := by simpa using hpre
        exact hP
      | cons first before =>
        obtain ⟨rfl, hbefore⟩ := List.cons_prefix_cons.1 hpre
        exact ih.1 hrest before e' hbefore
    intro h
    refine ⟨h [] e (by simp), ih.2 ?_⟩
    intro before e' hpre
    exact h (e :: before) e' (by simpa using hpre)

/-- Some event of the run from `s` satisfies `W` at the state it is applied to. -/
def Traced (step : ε → σ → σ) (W : σ → ε → Prop) (s : σ) (es : List ε) : Prop :=
  ∃ before e after, es = before ++ e :: after ∧ W (run step s before) e

theorem Traced.cons {W : σ → ε → Prop} {e : ε} (h : Traced step W (step e s) es) :
    Traced step W s (e :: es) := by
  obtain ⟨before, e', after, rfl, hW⟩ := h
  exact ⟨e :: before, e', after, rfl, hW⟩

/-- What holds at last and did not at first was brought about on the way. -/
theorem traced_of_along {B : σ → Prop} {W : σ → ε → Prop}
    (h : Along step (fun s e => ¬ B s → B (step e s) → W s e) s es) (h0 : ¬ B s)
    (hB : B (run step s es)) : Traced step W s es := by
  induction es generalizing s with
  | nil => exact absurd hB h0
  | cons e es ih =>
    by_cases hnext : B (step e s)
    · exact ⟨[], e, es, rfl, h.1 h0 hnext⟩
    · exact (ih h.2 hnext hB).cons

/-- **Every item that has become `B` was made so by an event that accounts for it, exactly
when no other event makes an item `B`.**  `B` is never lost again, and an event that
accounts for an item makes it so. -/
theorem along_iff_traced {ι : Type*} {B : ι → σ → Prop} {W : ι → σ → ε → Prop}
    (hkeep : ∀ k s e, B k s → B k (step e s)) (hmake : ∀ k s e, W k s e → B k (step e s))
    (h0 : ∀ k, ¬ B k s) :
    Along step (fun s e => ∀ k, ¬ B k s → B k (step e s) → W k s e) s es
      ↔ ∀ pre, pre <+: es → ∀ k, B k (run step s pre) → Traced step (W k) s pre := by
  constructor
  · rintro h pre ⟨post, rfl⟩ k hB
    refine traced_of_along ?_ (h0 k) hB
    rw [along_iff_forall_step] at h ⊢
    intro before e hpre
    exact h before e (hpre.trans (List.prefix_append pre post)) k
  intro h
  rw [along_iff_forall_step]
  intro before e hpre k hbefore hafter
  obtain ⟨before', e', after, hsplit, hW⟩ :=
    h (before ++ [e]) hpre k (by simpa using hafter)
  rcases List.eq_nil_or_concat after with rfl | ⟨after, last, rfl⟩
  · obtain rfl : before = before' := List.append_inj_left' hsplit rfl
    obtain rfl : e = e' := by simpa using hsplit
    exact hW
  -- an earlier event accounts for the item, which would have been `B` since
  have hwhole : before ++ [e] = (before' ++ e' :: after) ++ [last] := by
    simpa using hsplit
  have hearlier : before = before' ++ e' :: after := List.append_inj_left' hwhole rfl
  refine absurd ?_ hbefore
  rw [hearlier, run_append, run_cons]
  exact run_invariant (I := B k) (fun s e => hkeep k s e) (hmake k _ e' hW) after

end Along
end MultiAcademy.Lib
