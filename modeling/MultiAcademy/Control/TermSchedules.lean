import MultiAcademy.Control.AnchorDays

/-!
# Months as steps, and the dates of the terms

`_add_months` with an anchor day leads to the day of the month, or its last, whatever day it
starts from; so its steps add up.  `_build_term_schedule` takes them all from the first date.

A time is that of the clock in its zone, and `datetime` has no year after 9999.
-/

namespace MultiAcademy.Control

open MultiAcademy.Lib

/-- `_add_months`, which fails where the year is too large for `datetime`. -/
def addMonths? (when_ : Time) (months : ℕ) (anchorDay : Option ℕ) : Option Time :=
  if ((Civil.ofTime when_).monthAhead months).1 ≤ 9999 then
    some (addMonths when_ months anchorDay)
  else none

/-- **Steps of months**, with the anchor day `d`. -/
structure MonthAction (when_ : Time) (d : ℕ+) : Prop where
  compose : ∀ a b, (addMonths? when_ a (some d)).bind (fun next => addMonths? next b (some d))
    = addMonths? when_ (a + b) (some d)
  date : ∀ a next, addMonths? when_ a (some d) = some next →
    (Civil.ofTime next).date = (((Civil.ofTime when_).monthAhead a).1,
      ((Civil.ofTime when_).monthAhead a).2, min (d : ℕ) ((Civil.ofTime when_).lengthAhead a))
  strict : ∀ a b next later, a < b → addMonths? when_ a (some d) = some next →
    addMonths? when_ b (some d) = some later → next < later

section Steps
variable (when_ : Time) (d : ℕ+)

theorem ofTime_addMonths_anchored (months : ℕ) :
    Civil.ofTime (addMonths when_ months (some d))
      = { year := ((Civil.ofTime when_).monthAhead months).1
          month := ((Civil.ofTime when_).monthAhead months).2
          day := min d ((Civil.ofTime when_).lengthAhead months)
          micros := (Civil.ofTime when_).micros / 1000000 * 1000000 } := by
  obtain ⟨hyear, -, -, -, hmicros⟩ := ofTime_bounds when_
  simp only [addMonths, d.ne_zero, if_false]
  refine Civil.ofTime_toTime ⟨hyear.trans (Nat.le_add_right _ _), ?_, ?_, ?_⟩
  · exact ⟨Nat.succ_pos _, Nat.mod_lt _ (by decide)⟩
  · exact ⟨Nat.le_min.2 ⟨d.pos, daysInMonth_pos _ _⟩, Nat.min_le_right _ _⟩
  · exact (Nat.div_mul_le_self _ _).trans_lt hmicros

/-- The steps add up. -/
theorem addMonths_add (a b : ℕ) :
    addMonths (addMonths when_ a (some d)) b (some d) = addMonths when_ (a + b) (some d) := by
  have hmonth := @Civil.monthAhead_add (Civil.ofTime when_)
    (Civil.ofTime (addMonths when_ a (some d))) a (by rw [ofTime_addMonths_anchored]) b
  simp only [Civil.monthAhead, Prod.mk.injEq, Nat.add_right_cancel_iff] at hmonth
  have hmicros : (Civil.ofTime (addMonths when_ a (some d))).micros / 1000000 * 1000000
      = (Civil.ofTime when_).micros / 1000000 * 1000000 := by
    rw [ofTime_addMonths_anchored, Nat.mul_div_cancel _ (by decide)]
  rw [addMonths]
  simp only [hmonth.1, hmonth.2, hmicros, d.ne_zero, if_false]
  simp only [addMonths, d.ne_zero, if_false]

theorem addMonths_strictMono : StrictMono fun months => addMonths when_ months (some d) := by
  refine strictMono_nat_of_lt_succ fun n => ?_
  have hyear := (ofTime_bounds when_).1
  have hnext := daysBefore_monthAhead_succ hyear n
  have hpos : 1 ≤ (Civil.ofTime when_).lengthAhead n := daysInMonth_pos _ _
  have hday : min (d : ℕ) ((Civil.ofTime when_).lengthAhead n) - 1
      < (Civil.ofTime when_).lengthAhead n := by omega
  simp only [addMonths, d.ne_zero, if_false, Civil.toTime, Int.ofNat_lt]
  simp only [Civil.monthAhead, Civil.lengthAhead] at hnext hday
  refine Nat.add_lt_add_right (Nat.mul_lt_mul_of_pos_right ?_
    (show 0 < 86400000000 by decide)) _
  omega

theorem month_action_at : MonthAction when_ d where
  compose := by
    intro a b
    have hmonth := @Civil.monthAhead_add (Civil.ofTime when_)
      (Civil.ofTime (addMonths when_ a (some d))) a (by rw [ofTime_addMonths_anchored]) b
    have hyears : ((Civil.ofTime when_).monthAhead a).1
        ≤ ((Civil.ofTime when_).monthAhead (a + b)).1 :=
      Nat.add_le_add_left (Nat.div_le_div_right (by omega)) _
    by_cases hroom : ((Civil.ofTime when_).monthAhead a).1 ≤ 9999
    · rw [addMonths?, if_pos hroom, Option.bind_some, addMonths?, addMonths?, hmonth,
        addMonths_add]
    have hfar := fun hle => hroom (hyears.trans hle)
    rw [addMonths?, if_neg hroom, Option.bind_none, addMonths?, if_neg hfar]
  date := by
    intro a next hnext
    obtain rfl := Option.some.inj (Option.ite_none_right_eq_some.1 hnext).2
    rw [ofTime_addMonths_anchored, Civil.date]
  strict := by
    intro a b next later hab hnext hlater
    obtain rfl := Option.some.inj (Option.ite_none_right_eq_some.1 hnext).2
    obtain rfl := Option.some.inj (Option.ite_none_right_eq_some.1 hlater).2
    exact addMonths_strictMono when_ d hab

end Steps

/-! ## Schedules -/

/-- A list whose neighbours are in order. -/
theorem pairwise_of_neighbours {dates : List Time}
    (h : (dates.zip dates.tail).any (fun pair => decide (pair.2 ≤ pair.1)) = false) :
    dates.Pairwise (· < ·) := by
  induction dates with
  | nil => exact .nil
  | cons first rest ih =>
    cases rest with
    | nil => exact List.pairwise_singleton _ _
    | cons second rest =>
      simp only [List.tail_cons, List.zip_cons_cons, List.any_cons, Bool.or_eq_false_iff,
        decide_eq_false_iff_not, not_le] at h
      have hrest := ih h.2
      refine List.pairwise_cons.2 ⟨?_, hrest⟩
      rintro date (_ | ⟨_, hdate⟩)
      · exact h.1
      · exact h.1.trans ((List.pairwise_cons.1 hrest).1 date hdate)

theorem buildTermSchedule_pairwise {body : TermBody} {billingCycle : String} {dates : List Time}
    (h : buildTermSchedule body billingCycle = .ok (some dates)) : dates.Pairwise (· < ·) := by
  unfold buildTermSchedule at h
  dsimp only at h
  split at h
  · cases h
  split at h
  · cases h
  split at h
  · cases h
  split at h
  · split at h
    · cases h
    split at h
    · cases h
    rename_i horder
    cases h
    exact pairwise_of_neighbours (Bool.eq_false_iff.2 fun hany => horder (Or.inr hany))
  split at h
  · cases h
  rename_i start _
  cases h
  refine List.pairwise_map.2 (List.pairwise_lt_range.imp fun hlt => ?_)
  have hday : 0 < (Civil.ofTime start).day := (ofTime_bounds start).2.2.2.1
  simp only [← addMonths_anchor]
  refine addMonths_strictMono start ⟨_, hday⟩ (Nat.mul_lt_mul_of_pos_left hlt ?_)
  split
  · split <;> omega
  · exact Nat.succ_pos 2

/-- **Months are steps that add up**, and the dates of a schedule are in order. -/
theorem month_action :
    (∀ when_ d, MonthAction when_ d)
      ∧ ∀ body billingCycle dates, buildTermSchedule body billingCycle = .ok (some dates) →
        dates.Pairwise (· < ·) :=
  ⟨month_action_at, fun _ _ _ => buildTermSchedule_pairwise⟩

end MultiAcademy.Control
