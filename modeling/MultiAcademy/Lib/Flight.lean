import MultiAcademy.Lib.Run

/-!
# Calls in flight

A service whose calls share a state and take their steps one at a time, in any order: a call
begins, a call takes its next step, or something else changes the shared state.  A call that
stops for good, because its process dies, is a step like any other.  Calls are never taken out,
so what they have done can be counted.

## Main definitions

* `Service` — how calls begin, what their steps do, and what else happens.
* `Flight`, `Service.step` — the shared state with the calls, and the system's steps.
* `Service.fires` — a step that gives a call a property it keeps from then on.
* `Service.count_step` — how many calls have the property after a step.
* `Service.invariant_step` — a property of the shared state, and of each call with it.
* `Flight.total`, `total_step_advance` — what the calls amount to, and what a step adds to it.
-/

namespace MultiAcademy.Lib

universe u

/-- The shared state, and where each call is. -/
structure Flight (δ κ : Type u) where
  shared : δ
  calls : List κ := []

/-- What the calls amount to, each by a weight. -/
def Flight.total {δ κ : Type u} (w : κ → ℤ) (s : Flight δ κ) : ℤ := (s.calls.map w).sum

/-- A call begins, takes its next step, or something else happens. -/
inductive FlightEvent (α ο υ : Type u)
  | call (a : α)
  | advance (i : ℕ) (x : ο)
  | other (y : υ)

/-- The calls of a service: where a request starts, what a step of a call does with the answer
it waited for, and what changes the shared state besides. -/
structure Service (α ο υ δ κ : Type u) where
  start : α → κ
  next : ο → κ → δ → κ × δ
  other : υ → δ → δ

namespace Service
variable {α ο υ δ κ : Type u} (S : Service α ο υ δ κ)

/-- One step of the system. -/
def step (e : FlightEvent α ο υ) (s : Flight δ κ) : Flight δ κ :=
  match e with
  | .call a => { s with calls := s.calls ++ [S.start a] }
  | .advance i x =>
    match s.calls[i]? with
    | some c =>
      { shared := (S.next x c s.shared).2, calls := s.calls.set i (S.next x c s.shared).1 }
    | none => s
  | .other y => { s with shared := S.other y s.shared }

/-- The step gives a call the property. -/
def fires (p : κ → Bool) (s : Flight δ κ) : FlightEvent α ο υ → Bool
  | .advance i x => s.calls[i]?.any fun c => !p c && p (S.next x c s.shared).1
  | _ => false

variable {S} {s : Flight δ κ} {e : FlightEvent α ο υ} {p : κ → Bool} {i : ℕ} {x : ο} {c : κ}

@[simp] theorem step_call (a : α) :
    S.step (.call a) s = { s with calls := s.calls ++ [S.start a] } := rfl

@[simp] theorem step_other (y : υ) :
    S.step (.other y) s = { s with shared := S.other y s.shared } := rfl

theorem step_advance (hc : s.calls[i]? = some c) :
    S.step (.advance i x) s
      = { shared := (S.next x c s.shared).2, calls := s.calls.set i (S.next x c s.shared).1 } := by
  simp [step, hc]

theorem step_advance_none (hc : s.calls[i]? = none) : S.step (.advance i x) s = s := by
  simp [step, hc]

/-- The call that began last takes a step. -/
theorem step_advance_append (d : δ) (calls : List κ) :
    S.step (.advance calls.length x) { shared := d, calls := calls ++ [c] }
      = { shared := (S.next x c d).2, calls := calls ++ [(S.next x c d).1] } := by
  simp [step]

theorem fires_advance (hc : s.calls[i]? = some c) :
    S.fires p s (.advance i x) = (!p c && p (S.next x c s.shared).1) := by
  simp [fires, hc]

/-- A step that gives a call a property is the step of a call that did not have it. -/
theorem exists_of_fires (h : S.fires p s e = true) :
    ∃ i x c, e = .advance i x ∧ s.calls[i]? = some c ∧ p c = false
      ∧ p (S.next x c s.shared).1 = true := by
  cases e with
  | call | other => cases h
  | advance i x =>
    obtain ⟨c, hc, hp⟩ := (Option.any_eq_true _ _).1 h
    rw [Bool.and_eq_true, Bool.not_eq_true'] at hp
    exact ⟨i, x, c, rfl, hc, hp.1, hp.2⟩

/-- The calls after one of them has moved. -/
theorem mem_calls_advance (hc : s.calls[i]? = some c) {c' : κ}
    (h : c' ∈ (S.step (.advance i x) s).calls) : c' ∈ s.calls ∨ c' = (S.next x c s.shared).1 := by
  rw [step_advance hc] at h
  exact List.mem_or_eq_of_mem_set h

/-- Each step moves one call. -/
theorem countP_set_add {calls : List κ} (hc : calls[i]? = some c) (c' : κ) :
    (calls.set i c').countP p + (if p c then 1 else 0)
      = calls.countP p + if p c' then 1 else 0 := by
  induction calls generalizing i with
  | nil => cases hc
  | cons d calls ih =>
    cases i with
    | zero =>
      cases hc
      simp only [List.set_cons_zero, List.countP_cons]
      omega
    | succ i =>
      have htail := ih (i := i) (by simpa using hc)
      simp only [List.set_cons_succ, List.countP_cons]
      omega

/-- Two calls with a property are counted twice. -/
theorem two_le_countP {calls : List κ} {i j : ℕ} {c c' : κ} (hij : i ≠ j)
    (hi : calls[i]? = some c) (hj : calls[j]? = some c') (hc : p c = true) (hc' : p c' = true) :
    2 ≤ calls.countP p := by
  have hone : ∀ {l : List κ} {k : ℕ} {a : κ}, l[k]? = some a → p a = true → 1 ≤ l.countP p :=
    fun hk ha => List.countP_pos_iff.2 ⟨_, List.mem_of_getElem? hk, ha⟩
  induction calls generalizing i j with
  | nil => cases hi
  | cons d calls ih =>
    rw [List.countP_cons]
    cases i with
    | zero =>
      obtain rfl : d = c := by simpa using hi
      cases j with
      | zero => exact absurd rfl hij
      | succ j =>
        have htail := hone (l := calls) (by simpa using hj) hc'
        rw [if_pos hc]
        omega
    | succ i =>
      cases j with
      | zero =>
        obtain rfl : d = c' := by simpa using hj
        have htail := hone (l := calls) (by simpa using hi) hc
        rw [if_pos hc']
        omega
      | succ j =>
        have htail := ih (i := i) (j := j) (by omega) (by simpa using hi)
          (by simpa using hj)
        omega

/-- **How many calls have a property they keep, after a step.** -/
theorem count_step (hstart : ∀ a, p (S.start a) = false)
    (hkeep : ∀ x c d, p c = true → p (S.next x c d).1 = true) :
    (S.step e s).calls.countP p = s.calls.countP p + if S.fires p s e then 1 else 0 := by
  cases e with
  | call a => simp [fires, hstart]
  | other y => simp [fires]
  | advance i x =>
    cases hc : s.calls[i]? with
    | none => simp [step_advance_none hc, fires, hc]
    | some c =>
      have hcount := countP_set_add (p := p) hc (S.next x c s.shared).1
      rw [step_advance hc, fires_advance hc]
      cases hp : p c with
      | true =>
        rw [hp, hkeep x c s.shared hp] at hcount
        simpa using hcount
      | false =>
        rw [hp] at hcount
        simpa using hcount

/-- A property that at most one call has stays so exactly when no step gives it to another. -/
theorem count_step_le_one (hstart : ∀ a, p (S.start a) = false)
    (hkeep : ∀ x c d, p c = true → p (S.next x c d).1 = true)
    (hone : s.calls.countP p ≤ 1) :
    (S.step e s).calls.countP p ≤ 1 ↔ (S.fires p s e = true → s.calls.countP p = 0) := by
  have hcount := count_step (s := s) (e := e) hstart hkeep
  cases hfires : S.fires p s e with
  | true =>
    rw [hfires, if_pos rfl] at hcount
    rw [hcount, forall_prop_of_true rfl]
    omega
  | false =>
    rw [hfires, if_neg Bool.false_ne_true] at hcount
    rw [hcount]
    exact iff_of_true hone nofun

/-- **A property of the shared state, and one of each call together with it, that every step
keeps.** -/
theorem invariant_step {W : δ → Prop} {Q : δ → κ → Prop} (hstart : ∀ a d, W d → Q d (S.start a))
    (hshared : ∀ x c d, W d → Q d c → W (S.next x c d).2)
    (hmoves : ∀ x c d, W d → Q d c → Q (S.next x c d).2 (S.next x c d).1)
    (hothers : ∀ x c d, W d → Q d c → ∀ c', Q d c' → Q (S.next x c d).2 c')
    (hrest : ∀ y d, W d → W (S.other y d) ∧ ∀ c, Q d c → Q (S.other y d) c)
    (hW : W s.shared) (hQ : ∀ c ∈ s.calls, Q s.shared c) :
    W (S.step e s).shared ∧ ∀ c ∈ (S.step e s).calls, Q (S.step e s).shared c := by
  cases e with
  | call a =>
    refine ⟨hW, ?_⟩
    intro c' hc'
    rcases List.mem_append.1 hc' with hold | hnew
    · exact hQ c' hold
    rw [List.mem_singleton.1 hnew]
    exact hstart a s.shared hW
  | other y =>
    obtain ⟨hW', hQ'⟩ := hrest y s.shared hW
    exact ⟨hW', fun c' hc' => hQ' c' (hQ c' hc')⟩
  | advance i x =>
    cases hc : s.calls[i]? with
    | none =>
      rw [step_advance_none hc]
      exact ⟨hW, hQ⟩
    | some c =>
      have hQc : Q s.shared c := hQ c (List.mem_of_getElem? hc)
      rw [step_advance hc]
      refine ⟨hshared x c s.shared hW hQc, ?_⟩
      intro c' hc'
      rcases List.mem_or_eq_of_mem_set hc' with hold | rfl
      · exact hothers x c s.shared hW hQc c' (hQ c' hold)
      · exact hmoves x c s.shared hW hQc

/-- The same of each call alone. -/
theorem forall_calls_step {Q : δ → κ → Prop} (hstart : ∀ a d, Q d (S.start a))
    (hmoves : ∀ x c d, Q d c → Q (S.next x c d).2 (S.next x c d).1)
    (hothers : ∀ x c d, Q d c → ∀ c', Q d c' → Q (S.next x c d).2 c')
    (hrest : ∀ y d c, Q d c → Q (S.other y d) c) (h : ∀ c ∈ s.calls, Q s.shared c) :
    ∀ c ∈ (S.step e s).calls, Q (S.step e s).shared c :=
  (invariant_step (W := fun _ => True) (fun a d _ => hstart a d) (fun _ _ _ _ _ => trivial)
    (fun x c d _ => hmoves x c d) (fun x c d _ => hothers x c d)
    (fun y d _ => ⟨trivial, hrest y d⟩) trivial h).2

/-- A call with a property that calls keep. -/
theorem exists_call_step {P : κ → Prop} (hkeep : ∀ x c d, P c → P (S.next x c d).1)
    (h : ∃ c ∈ s.calls, P c) : ∃ c ∈ (S.step e s).calls, P c := by
  obtain ⟨c, hc, hP⟩ := h
  cases e with
  | call a => exact ⟨c, List.mem_append_left _ hc, hP⟩
  | other y => exact ⟨c, hc, hP⟩
  | advance i x =>
    obtain ⟨j, hj⟩ := List.mem_iff_getElem?.1 hc
    cases hi : s.calls[i]? with
    | none =>
      rw [step_advance_none hi]
      exact ⟨c, hc, hP⟩
    | some d =>
      rw [step_advance hi]
      by_cases hij : i = j
      · subst hij
        cases hi.symm.trans hj
        exact ⟨_, List.mem_set (List.getElem?_eq_some_iff.1 hi).1 _, hkeep x c s.shared hP⟩
      · exact ⟨c, List.mem_of_getElem? ((List.getElem?_set_ne hij).trans hj), hP⟩

/-- The call that has moved is among the calls. -/
theorem mem_calls_moved (hc : s.calls[i]? = some c) :
    (S.next x c s.shared).1 ∈ (S.step (.advance i x) s).calls := by
  rw [step_advance hc]
  exact List.mem_set (List.getElem?_eq_some_iff.1 hc).1 _

/-- A call with a property is the one that moves, or it is still there. -/
theorem exists_call_advance {P : κ → Prop} (hc : s.calls[i]? = some c)
    (h : ∃ c' ∈ s.calls, P c') : P c ∨ ∃ c' ∈ (S.step (.advance i x) s).calls, P c' := by
  obtain ⟨c', hc', hP⟩ := h
  obtain ⟨j, hj⟩ := List.mem_iff_getElem?.1 hc'
  by_cases hij : i = j
  · subst hij
    cases hc.symm.trans hj
    exact Or.inl hP
  rw [step_advance hc]
  exact Or.inr ⟨c', List.mem_of_getElem? ((List.getElem?_set_ne hij).trans hj), hP⟩

/-! ## What the calls amount to -/

/-- One call moves from a weight to another. -/
theorem sum_map_set {calls : List κ} (w : κ → ℤ) (hc : calls[i]? = some c) (c' : κ) :
    ((calls.set i c').map w).sum = (calls.map w).sum - w c + w c' := by
  induction calls generalizing i with
  | nil => cases hc
  | cons d calls ih =>
    cases i with
    | zero =>
      cases hc
      simp only [List.set_cons_zero, List.map_cons, List.sum_cons]
      omega
    | succ i =>
      have htail := ih (i := i) (by simpa using hc)
      simp only [List.set_cons_succ, List.map_cons, List.sum_cons]
      omega

/-- **What a step of a call adds to the total.** -/
theorem total_step_advance (w : κ → ℤ) (hc : s.calls[i]? = some c) :
    (S.step (.advance i x) s).total w = s.total w - w c + w (S.next x c s.shared).1 := by
  rw [step_advance hc]
  exact sum_map_set w hc _

theorem total_step_call (w : κ → ℤ) (a : α) :
    (S.step (.call a) s).total w = s.total w + w (S.start a) := by
  simp [Flight.total]

/-- Calls that weigh nothing amount to nothing. -/
theorem total_eq_zero {w : κ → ℤ} (h : ∀ c ∈ s.calls, w c = 0) : s.total w = 0 := by
  rw [Flight.total]
  apply List.sum_eq_zero
  intro n hn
  obtain ⟨c, hc, rfl⟩ := List.mem_map.1 hn
  exact h c hc

end Service
end MultiAcademy.Lib
