import MultiAcademy.Lib.Calendar

/-!
# Dates and their instants

The instant of a civil date has this date: the conversions of the calendar are inverse on
the dates that exist.  A year is taken apart into the 400-year cycles, the centuries, the
leap cycles and the years that `yearOfDay` divides by.
-/

namespace MultiAcademy.Lib

/-! ## Years -/

theorem daysBeforeYear_cycles (a b c e : ℕ) (hb : b < 4) (hc : c < 25) (he : e < 4) :
    daysBeforeYear (400 * a + 100 * b + 4 * c + e + 1)
      = 146097 * a + 36524 * b + 1461 * c + 365 * e := by
  simp only [daysBeforeYear]
  omega

theorem isLeap_cycles (a b c e : ℕ) (hb : b < 4) (hc : c < 25) (he : e < 4) :
    isLeap (400 * a + 100 * b + 4 * c + e + 1) = true ↔ e = 3 ∧ (c < 24 ∨ b = 3) := by
  simp only [isLeap, Bool.and_eq_true, Bool.or_eq_true, decide_eq_true_eq]
  omega

theorem yearOfDay_cycles (a b c e d : ℕ) (hb : b < 4) (hc : c < 25) (he : e < 4)
    (hd : d ≤ 365) (hleap : d = 365 → e = 3 ∧ (c < 24 ∨ b = 3)) :
    yearOfDay (146097 * a + 36524 * b + 1461 * c + 365 * e + d)
      = (400 * a + 100 * b + 4 * c + e + 1, d) := by
  have h400 : (146097 * a + 36524 * b + 1461 * c + 365 * e + d) / 146097 = a := by omega
  have r400 : (146097 * a + 36524 * b + 1461 * c + 365 * e + d) % 146097
      = 36524 * b + 1461 * c + 365 * e + d := by omega
  simp only [yearOfDay, h400, r400]
  by_cases hlast : d = 365
  · -- the last day of a leap cycle
    obtain ⟨he3, hcase⟩ := hleap hlast
    by_cases hc24 : c = 24
    · have hb3 : b = 3 := by omega
      have h100 : (36524 * b + 1461 * c + 365 * e + d) / 36524 = 4 := by omega
      have r100 : (36524 * b + 1461 * c + 365 * e + d) % 36524 = 0 := by omega
      simp only [h100, r100, or_true, if_true]
      refine Prod.ext ?_ hlast.symm
      dsimp only
      omega
    have h100 : (36524 * b + 1461 * c + 365 * e + d) / 36524 = b := by omega
    have r100 : (36524 * b + 1461 * c + 365 * e + d) % 36524 = 1461 * c + 365 * e + d := by
      omega
    have h4 : (1461 * c + 365 * e + d) / 1461 = c := by omega
    have r4 : (1461 * c + 365 * e + d) % 1461 = 365 * e + d := by omega
    have h1 : (365 * e + d) / 365 = 4 := by omega
    simp only [h100, r100, h4, r4, h1, true_or, if_true]
    refine Prod.ext ?_ hlast.symm
    dsimp only
    omega
  have h100 : (36524 * b + 1461 * c + 365 * e + d) / 36524 = b := by omega
  have r100 : (36524 * b + 1461 * c + 365 * e + d) % 36524 = 1461 * c + 365 * e + d := by omega
  have h4 : (1461 * c + 365 * e + d) / 1461 = c := by omega
  have r4 : (1461 * c + 365 * e + d) % 1461 = 365 * e + d := by omega
  have h1 : (365 * e + d) / 365 = e := by omega
  have r1 : (365 * e + d) % 365 = d := by omega
  have hcond : ¬ (e = 4 ∨ b = 4) := by omega
  simp only [h100, r100, h4, r4, h1, r1, if_neg hcond]
  refine Prod.ext ?_ rfl
  dsimp only
  omega

/-- The year of a day number, from the year it is in. -/
theorem yearOfDay_daysBeforeYear {year d : ℕ} (hyear : 1 ≤ year)
    (hd : d < if isLeap year then 366 else 365) :
    yearOfDay (daysBeforeYear year + d) = (year, d) := by
  obtain ⟨a, b, c, e, hb, hc, he, rfl⟩ : ∃ a b c e, b < 4 ∧ c < 25 ∧ e < 4
      ∧ year = 400 * a + 100 * b + 4 * c + e + 1 :=
    ⟨(year - 1) / 400, (year - 1) % 400 / 100, (year - 1) % 100 / 4, (year - 1) % 4,
      by omega, by omega, by omega, by omega⟩
  rw [daysBeforeYear_cycles a b c e hb hc he]
  have hleap := isLeap_cycles a b c e hb hc he
  refine yearOfDay_cycles a b c e d hb hc he ?_ ?_
  · split at hd <;> omega
  intro hlast
  rw [hlast] at hd
  split at hd
  · rename_i h
    exact hleap.1 h
  · omega

/-! ## Months -/

theorem daysBeforeMonth_succ (year m : ℕ) (hm : 1 ≤ m) :
    daysBeforeMonth year (m + 1) = daysBeforeMonth year m + daysInMonth year m := by
  obtain ⟨k, rfl⟩ : ∃ k, m = k + 1 := ⟨m - 1, by omega⟩
  simp [daysBeforeMonth, List.range_succ]

theorem daysBeforeMonth_mono (year : ℕ) {m m' : ℕ} (hm : 1 ≤ m) (h : m ≤ m') :
    daysBeforeMonth year m ≤ daysBeforeMonth year m' := by
  induction h with
  | refl => exact Nat.le_refl _
  | step hk ih =>
    rw [daysBeforeMonth_succ year _ (Nat.le_trans hm hk)]
    omega

theorem monthOfDay_daysBeforeMonth {year month day : ℕ} (hmonth : 1 ≤ month) (hlast : month ≤ 12)
    (hday : 1 ≤ day) (hd : day ≤ daysInMonth year month) :
    monthOfDay year (daysBeforeMonth year month + (day - 1)) = (month, day) := by
  have hpast : ∀ m, (daysBeforeMonth year (m + 1) ≤ daysBeforeMonth year month + (day - 1))
      ↔ m < month := by
    intro m
    constructor
    · intro h
      by_contra hge
      have hnext := daysBeforeMonth_succ year month hmonth
      have hmono := daysBeforeMonth_mono year (show 1 ≤ month + 1 by omega)
        (show month + 1 ≤ m + 1 by omega)
      omega
    intro h
    have hmono := daysBeforeMonth_mono year (show 1 ≤ m + 1 by omega)
      (show m + 1 ≤ month by omega)
    omega
  have hcount : ((List.range 12).filter fun m =>
      daysBeforeMonth year (m + 1) ≤ daysBeforeMonth year month + (day - 1)).length = month := by
    have hfilter : ((List.range 12).filter fun m =>
        daysBeforeMonth year (m + 1) ≤ daysBeforeMonth year month + (day - 1))
          = (List.range 12).filter fun m => m < month :=
      List.filter_congr fun m _ => by simp only [hpast m]
    have hrange : ∀ k ≤ 12, ((List.range 12).filter fun m => m < k).length = k := by decide
    rw [hfilter, hrange month hlast]
  simp only [monthOfDay, hcount]
  refine Prod.ext rfl ?_
  dsimp only
  omega

/-- The length of a year. -/
theorem daysBeforeMonth_thirteen (year : ℕ) :
    daysBeforeMonth year 13 = if isLeap year then 366 else 365 := by
  simp only [daysBeforeMonth, List.range_succ, daysInMonth]
  cases isLeap year <;> rfl

/-! ## Dates -/

/-- A date that exists, and a time of day. -/
structure Civil.Valid (c : Civil) : Prop where
  year : 1 ≤ c.year
  month : 1 ≤ c.month ∧ c.month ≤ 12
  day : 1 ≤ c.day ∧ c.day ≤ daysInMonth c.year c.month
  micros : c.micros < 86400000000

/-- A civil date is that of its instant. -/
theorem Civil.ofTime_toTime {c : Civil} (h : c.Valid) : Civil.ofTime c.toTime = c := by
  have hinYear : daysBeforeMonth c.year c.month + (c.day - 1)
      < if isLeap c.year then 366 else 365 := by
    have hlast := h.month.2
    have hmono := daysBeforeMonth_mono c.year (show 1 ≤ c.month + 1 by omega)
      (show c.month + 1 ≤ 13 by omega)
    rw [daysBeforeMonth_succ c.year c.month h.month.1, daysBeforeMonth_thirteen] at hmono
    have hday := h.day
    omega
  have htime : c.toTime.toNat
      = (daysBeforeYear c.year + (daysBeforeMonth c.year c.month + (c.day - 1))) * 86400000000
        + c.micros := by
    rw [Civil.toTime, Int.toNat_natCast, Nat.add_assoc (daysBeforeYear c.year)]
  have hdays := Nat.mul_add_div (show 0 < 86400000000 by decide)
    (daysBeforeYear c.year + (daysBeforeMonth c.year c.month + (c.day - 1))) c.micros
  have hrest := Nat.mul_add_mod 86400000000
    (daysBeforeYear c.year + (daysBeforeMonth c.year c.month + (c.day - 1))) c.micros
  rw [Nat.div_eq_of_lt h.micros, Nat.add_zero, Nat.mul_comm] at hdays
  rw [Nat.mod_eq_of_lt h.micros, Nat.mul_comm] at hrest
  rw [Civil.ofTime, htime, hdays, hrest, yearOfDay_daysBeforeYear h.year hinYear]
  dsimp only
  rw [monthOfDay_daysBeforeMonth h.month.1 h.month.2 h.day.1 h.day.2]

/-! ## The fields of an instant -/

theorem yearOfDay_pos (n : ℕ) : 1 ≤ (yearOfDay n).1 := by
  simp only [yearOfDay]
  split
  · dsimp only
    omega
  dsimp only
  omega

theorem monthOfDay_bounds (year n : ℕ) :
    1 ≤ (monthOfDay year n).1 ∧ (monthOfDay year n).1 ≤ 12 ∧ 1 ≤ (monthOfDay year n).2 := by
  refine ⟨?_, ?_, Nat.succ_pos _⟩
  · -- the first month has begun on any day
    apply List.length_pos_of_mem (a := 0)
    simp [daysBeforeMonth]
  · exact Nat.le_trans (List.length_filter_le _ _) (by simp)

/-- The fields of an instant are in their ranges. -/
theorem ofTime_bounds (t : Time) :
    1 ≤ (Civil.ofTime t).year ∧ 1 ≤ (Civil.ofTime t).month ∧ (Civil.ofTime t).month ≤ 12
      ∧ 1 ≤ (Civil.ofTime t).day ∧ (Civil.ofTime t).micros < 86400000000 := by
  have hmonth := monthOfDay_bounds (yearOfDay (t.toNat / 86400000000)).1
    (yearOfDay (t.toNat / 86400000000)).2
  exact ⟨yearOfDay_pos _, hmonth.1, hmonth.2.1, hmonth.2.2,
    Nat.mod_lt _ (show 0 < 86400000000 by decide)⟩

theorem daysInMonth_pos (year month : ℕ) : 1 ≤ daysInMonth year month := by
  simp only [daysInMonth]
  split
  · split <;> decide
  all_goals decide

end MultiAcademy.Lib
