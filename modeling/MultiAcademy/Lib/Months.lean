import MultiAcademy.Lib.CivilDate

/-!
# Months ahead of a date

The month some months after a date's, and the day of the date that the month has room for.  A
date that is carried from month to month keeps the least day of the months it has been in; a
date that is carried at once keeps as much of its day as the last month has room for.
-/

namespace MultiAcademy.Lib

/-! ## The day that is left -/

/-- The day that is left of `d`, carried through months of the lengths `len 1`, …, `len n`. -/
def dayAfter (d : ℕ) (len : ℕ → ℕ) : ℕ → ℕ
  | 0 => d
  | n + 1 => min (dayAfter d len n) (len (n + 1))

section Days
variable {d : ℕ} {len : ℕ → ℕ}

@[simp] theorem dayAfter_zero : dayAfter d len 0 = d := rfl

theorem dayAfter_succ (n : ℕ) : dayAfter d len (n + 1) = min (dayAfter d len n) (len (n + 1)) := rfl

theorem le_dayAfter_iff {x : ℕ} (n : ℕ) :
    x ≤ dayAfter d len n ↔ x ≤ d ∧ ∀ i < n, x ≤ len (i + 1) := by
  induction n with
  | zero => simp
  | succ n ih => rw [dayAfter_succ, Nat.le_min, ih, Nat.forall_lt_succ_right, and_assoc]

/-- **Carried step by step, a day is what it is carried at once** exactly when no month before was
too short for it. -/
theorem dayAfter_eq_min_iff (hd : d ≤ len 0) (n : ℕ) :
    dayAfter d len n = min d (len n) ↔ ∀ i < n, min d (len n) ≤ len i := by
  have hle : dayAfter d len n ≤ min d (len n) := by
    have hself := (le_dayAfter_iff n).1 (le_refl (dayAfter d len n))
    refine le_min hself.1 ?_
    cases n with
    | zero => exact hd
    | succ n => exact hself.2 n (Nat.lt_succ_self n)
  have hge : dayAfter d len n = min d (len n) ↔ min d (len n) ≤ dayAfter d len n :=
    ⟨fun h => h.ge, fun h => le_antisymm hle h⟩
  rw [hge, le_dayAfter_iff]
  constructor
  · rintro ⟨-, h⟩ i hi
    cases i with
    | zero => exact (min_le_left _ _).trans hd
    | succ i => exact h i (Nat.lt_of_succ_lt hi)
  intro h
  refine ⟨min_le_left _ _, fun i hi => ?_⟩
  by_cases hlast : i + 1 = n
  · rw [hlast]
    exact min_le_right _ _
  · exact h (i + 1) (by omega)

end Days

/-! ## Months of the calendar -/

namespace Civil

/-- The year, the month and the day. -/
def date (c : Civil) : ℕ × ℕ × ℕ := (c.year, c.month, c.day)

/-- The year and the month, some months after the date. -/
def monthAhead (c : Civil) (months : ℕ) : ℕ × ℕ :=
  (c.year + (c.month - 1 + months) / 12, (c.month - 1 + months) % 12 + 1)

/-- The number of days of the month some months after the date. -/
def lengthAhead (c : Civil) (months : ℕ) : ℕ :=
  daysInMonth (c.monthAhead months).1 (c.monthAhead months).2

/-- The date some months later, on its day or on the last day of a shorter month. -/
def dateAhead (c : Civil) (months : ℕ) : ℕ × ℕ × ℕ :=
  ((c.monthAhead months).1, (c.monthAhead months).2, min c.day (c.lengthAhead months))

variable {c c' : Civil}

theorem monthAhead_add {a : ℕ} (h : (c'.year, c'.month) = c.monthAhead a) (b : ℕ) :
    c'.monthAhead b = c.monthAhead (a + b) := by
  rw [monthAhead, Prod.mk.injEq] at h
  rw [monthAhead, monthAhead, Prod.mk.injEq, h.1, h.2]
  constructor <;> omega

theorem lengthAhead_add {a : ℕ} (h : (c'.year, c'.month) = c.monthAhead a) (b : ℕ) :
    c'.lengthAhead b = c.lengthAhead (a + b) := by
  rw [lengthAhead, lengthAhead, monthAhead_add h]

theorem monthAhead_zero (hmonth : 1 ≤ c.month) (hlast : c.month ≤ 12) :
    c.monthAhead 0 = (c.year, c.month) := by
  rw [monthAhead, Prod.mk.injEq]
  constructor <;> omega

end Civil

theorem daysBeforeYear_succ (y : ℕ) :
    daysBeforeYear (y + 1 + 1) = daysBeforeYear (y + 1) + if isLeap (y + 1) then 366 else 365 := by
  have hcenturies : y / 100 ≤ y / 4 := by omega
  have hleap : isLeap (y + 1) = true ↔ 4 ∣ y + 1 ∧ (¬ 100 ∣ y + 1 ∨ 400 ∣ y + 1) := by
    simp [isLeap, Nat.dvd_iff_mod_eq_zero]
  have hfour : 100 ∣ y + 1 → 4 ∣ y + 1 := Nat.dvd_trans (by decide)
  have hhundred : 400 ∣ y + 1 → 100 ∣ y + 1 := Nat.dvd_trans (by decide)
  simp only [daysBeforeYear, Nat.add_sub_cancel, hleap, Nat.succ_div]
  by_cases h4 : 4 ∣ y + 1
  · by_cases h100 : 100 ∣ y + 1
    · by_cases h400 : 400 ∣ y + 1 <;> simp only [h4, h100, h400, if_true, if_false,
        not_true_eq_false, or_true, or_false, and_true, and_false] <;> omega
    simp only [h4, h100, mt hhundred h100, if_true, if_false, not_false_eq_true, true_or,
      and_true]
    omega
  simp only [h4, mt hfour h4, mt (hfour ∘ hhundred) h4, if_false, false_and]
  omega

/-- The next month begins where a month ends. -/
theorem daysBefore_monthAhead_succ {c : Civil} (hyear : 1 ≤ c.year) (n : ℕ) :
    daysBeforeYear (c.monthAhead (n + 1)).1
        + daysBeforeMonth (c.monthAhead (n + 1)).1 (c.monthAhead (n + 1)).2
      = daysBeforeYear (c.monthAhead n).1
        + daysBeforeMonth (c.monthAhead n).1 (c.monthAhead n).2 + c.lengthAhead n := by
  have hpos : 1 ≤ (c.monthAhead n).2 := Nat.succ_pos _
  rw [Civil.lengthAhead, Nat.add_assoc, ← daysBeforeMonth_succ _ _ hpos]
  by_cases hlast : (c.monthAhead n).2 = 12
  · have hnext : c.monthAhead (n + 1) = ((c.monthAhead n).1 + 1, 1) := by
      simp only [Civil.monthAhead, Prod.mk.injEq] at hlast ⊢
      omega
    obtain ⟨y, hy⟩ : ∃ y, (c.monthAhead n).1 = y + 1 :=
      ⟨_, (Nat.sub_add_cancel (hyear.trans (Nat.le_add_right _ _))).symm⟩
    rw [hnext, hlast, hy, daysBeforeMonth_thirteen, daysBeforeYear_succ]
    rfl
  have hnext : c.monthAhead (n + 1) = ((c.monthAhead n).1, (c.monthAhead n).2 + 1) := by
    simp only [Civil.monthAhead, Prod.mk.injEq] at hlast ⊢
    omega
  rw [hnext]

/-! ## The day of an instant -/

/-- A day number is within its year. -/
theorem yearOfDay_lt (n : ℕ) :
    (yearOfDay n).2 < if isLeap (yearOfDay n).1 then 366 else 365 := by
  have hb : n % 146097 / 36524 ≤ 4 := by omega
  by_cases hcentury : n % 146097 / 36524 = 4
  · -- the last day of a cycle of 400 years
    have hyear : yearOfDay n = (400 * (n / 146097) + 100 * 3 + 4 * 24 + 3 + 1, 365) := by
      rw [yearOfDay, if_pos (Or.inr hcentury)]
      refine Prod.ext ?_ rfl
      dsimp only
      omega
    rw [hyear, (isLeap_cycles _ 3 24 3 (by decide) (by decide) (by decide)).2 ⟨rfl, Or.inr rfl⟩]
    exact Nat.lt_succ_self 365
  by_cases hlast : n % 146097 % 36524 % 1461 / 365 = 4
  · -- the last day of a leap cycle
    have hc : n % 146097 % 36524 / 1461 < 24 := by omega
    have hyear : yearOfDay n = (400 * (n / 146097) + 100 * (n % 146097 / 36524)
        + 4 * (n % 146097 % 36524 / 1461) + 3 + 1, 365) := by
      rw [yearOfDay, if_pos (Or.inl hlast)]
      refine Prod.ext ?_ rfl
      dsimp only
      omega
    rw [hyear, (isLeap_cycles _ _ _ 3 (by omega) (by omega) (by decide)).2 ⟨rfl, Or.inl hc⟩]
    exact Nat.lt_succ_self 365
  have hday : (yearOfDay n).2 = n % 146097 % 36524 % 1461 % 365 := by
    rw [yearOfDay, if_neg (by omega)]
  rw [hday]
  split <;> omega

/-- The day of a month is one that the month has. -/
theorem monthOfDay_le {year n : ℕ} (h : n < if isLeap year then 366 else 365) :
    (monthOfDay year n).2 ≤ daysInMonth year (monthOfDay year n).1 := by
  have hlength : (monthOfDay year n).1 ≤ 12 := (monthOfDay_bounds year n).2.1
  have hone := (monthOfDay_bounds year n).1
  have hnext : n < daysBeforeMonth year ((monthOfDay year n).1 + 1) := by
    by_cases hlast : (monthOfDay year n).1 = 12
    · rwa [hlast, daysBeforeMonth_thirteen]
    by_contra hpast
    -- were the next month begun, it would be counted
    have hbegun : ∀ m ∈ List.range 12, decide (m < (monthOfDay year n).1 + 1) = true →
        decide (daysBeforeMonth year (m + 1) ≤ n) = true := by
      intro m _ hm
      have hmono := daysBeforeMonth_mono year (show 1 ≤ m + 1 by omega)
        (show m + 1 ≤ (monthOfDay year n).1 + 1 by have := of_decide_eq_true hm; omega)
      exact decide_eq_true (by omega)
    have hcount := List.countP_mono_left hbegun
    have hrange : ∀ k ≤ 12, (List.range 12).countP (fun m => m < k) = k := by decide
    rw [hrange _ (by omega), List.countP_eq_length_filter] at hcount
    exact absurd hcount (Nat.not_succ_le_self _)
  rw [daysBeforeMonth_succ year _ hone] at hnext
  have hday : (monthOfDay year n).2 = n - daysBeforeMonth year (monthOfDay year n).1 + 1 := rfl
  have hpos := daysInMonth_pos year (monthOfDay year n).1
  omega

/-- The date of an instant exists. -/
theorem Civil.ofTime_valid (t : Time) : (Civil.ofTime t).Valid := by
  obtain ⟨hyear, hmonth, hlast, hday, hmicros⟩ := ofTime_bounds t
  exact ⟨hyear, ⟨hmonth, hlast⟩, ⟨hday, monthOfDay_le (yearOfDay_lt _)⟩, hmicros⟩

end MultiAcademy.Lib
