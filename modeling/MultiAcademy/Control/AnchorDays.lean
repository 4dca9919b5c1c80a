import MultiAcademy.Control.InvoiceWindows
import MultiAcademy.Lib.Months

/-!
# The anchor day of a subscription's invoices

Each run of `generate_due_invoices` moves `next_invoice_at` on by a cycle for every period that
it passes, from the date of that period.  A month that is too short for the day shortens it for
good: `advance_next_invoice_at` takes the day of the date before it as the anchor.
-/

namespace MultiAcademy.Control

open MultiAcademy.Lib

/-- The n-th `next_invoice_at`, from one. -/
def nthStart (sub : Subscription) (n : ℕ) (next : Option Time) : Option Time :=
  (fun next => next.bind (nextStart sub))^[n] next

/-- The n-th date of a schedule after one. -/
def nthScheduled (dates : List Time) (n : ℕ) (next : Option Time) : Option Time :=
  (fun next => next.bind fun after => dates.find? fun date => after < date)^[n] next

/-- `subscription.next_invoice_at`. -/
def nextInvoiceOf (db : Db) (s : ℕ) : Option Time :=
  (db.subscriptions[s]?).bind (·.nextInvoiceAt)

/-- The periods of a subscription, first invoiced at `first` and `k` times since, up to the end
of the runs. -/
def periodsSince (sub : Subscription) (k : ℕ) (times : List Time) : ℕ :=
  k + (duePeriods sub times).length

/-- **The anchor day is kept**, over the runs at some times. -/
structure AnchorKept (db : Db) (s : ℕ) (sub : Subscription) (first : Time) (k : ℕ)
    (times : List Time) : Prop where
  /-- The next date is in the month so many cycles later, on the day of the first or the last. -/
  anchored : (nextInvoiceOf (billingRuns times db) s).map (fun next => (Civil.ofTime next).date)
    = some ((Civil.ofTime first).dateAhead
        (periodsSince sub k times * cycleMonths sub.billingCycle))
  /-- However the runs are cut, so many periods lead to one date. -/
  cut : ∀ others, (duePeriods sub others).length = (duePeriods sub times).length →
    nextInvoiceOf (billingRuns others db) s = nextInvoiceOf (billingRuns times db) s
  /-- It is the date of all the cycles added at once. -/
  atOnce : (nextInvoiceOf (billingRuns times db) s).map (fun next => (Civil.ofTime next).date)
    = some (Civil.ofTime
        (addMonths first (periodsSince sub k times * cycleMonths sub.billingCycle))).date

/-- No month up to the n-th cycle is too short for the part of the day that the n-th has room
for; of a schedule, its n-th date is on that day. -/
def RoomForDay (sub : Subscription) (first : Time) (n : ℕ) : Prop :=
  let c := Civil.ofTime first
  let months := cycleMonths sub.billingCycle
  match sub.billingSchedule with
  | none => ∀ i < n, min c.day (c.lengthAhead (n * months)) ≤ c.lengthAhead (i * months)
  | some dates =>
    (nthScheduled dates n (some first)).map (fun next => (Civil.ofTime next).date)
      = some (c.dateAhead (n * months))

instance (sub : Subscription) (first : Time) (n : ℕ) : Decidable (RoomForDay sub first n) := by
  unfold RoomForDay
  cases sub.billingSchedule <;> infer_instance

/-! ## Dates -/

/-- Months that are added at once lead to the day or the month's last. -/
theorem date_addMonths (when_ : Time) (months : ℕ) :
    (Civil.ofTime (addMonths when_ months)).date = (Civil.ofTime when_).dateAhead months := by
  obtain ⟨hyear, ⟨hmonth, hlast⟩, hday, hmicros⟩ := Civil.ofTime_valid when_
  rw [addMonths, Civil.ofTime_toTime]
  · rfl
  refine ⟨Nat.le_trans hyear (Nat.le_add_right _ _), ?_, ?_, ?_⟩
  · dsimp only
    omega
  · exact ⟨Nat.le_min.2 ⟨hday.1, daysInMonth_pos _ _⟩, Nat.min_le_right _ _⟩
  · exact Nat.lt_of_le_of_lt (Nat.div_mul_le_self _ _) hmicros

section Nth
variable {sub : Subscription} {first : Time}

theorem nthStart_succ (n : ℕ) (next : Option Time) :
    nthStart sub (n + 1) next = (nthStart sub n next).bind (nextStart sub) :=
  Function.iterate_succ_apply' _ n next

theorem nthStart_add (k n : ℕ) (next : Option Time) :
    nthStart sub n (nthStart sub k next) = nthStart sub (k + n) next := by
  rw [nthStart, nthStart, nthStart, Nat.add_comm, Function.iterate_add_apply]

theorem Follows.last_eq {next last : Option Time} {starts : List Time}
    (h : Follows sub next starts last) : last = nthStart sub starts.length next := by
  induction starts generalizing next with
  | nil => exact h.symm
  | cons start starts ih =>
    obtain ⟨rfl, hrest⟩ := h
    exact ih hrest

theorem nthStart_scheduled {dates : List Time} (hschedule : sub.billingSchedule = some dates)
    (n : ℕ) (next : Option Time) : nthStart sub n next = nthScheduled dates n next := by
  have hstep : nextStart sub = fun after => dates.find? fun date => after < date := by
    funext after
    simp [nextStart, advanceNextInvoiceAt, nextScheduledDate, hschedule]
  rw [nthStart, nthScheduled, hstep]

theorem nextStart_cycle (hcycle : sub.billingSchedule = none) (start : Time) :
    nextStart sub start = some (addMonths start (cycleMonths sub.billingCycle)) := by
  simp [nextStart, advanceNextInvoiceAt, hcycle, addMonths_anchor]

/-- The n-th date of a cycle is carried from month to month. -/
theorem nthStart_cycle (first : Time) (hcycle : sub.billingSchedule = none) (n : ℕ) :
    ∃ next, nthStart sub n (some first) = some next
      ∧ (Civil.ofTime next).date
        = (((Civil.ofTime first).monthAhead (n * cycleMonths sub.billingCycle)).1,
           ((Civil.ofTime first).monthAhead (n * cycleMonths sub.billingCycle)).2,
           dayAfter (Civil.ofTime first).day
            (fun i => (Civil.ofTime first).lengthAhead (i * cycleMonths sub.billingCycle)) n) := by
  induction n with
  | zero =>
    have hmonth := (Civil.ofTime_valid first).month
    refine ⟨first, rfl, ?_⟩
    rw [Nat.zero_mul, Civil.monthAhead_zero hmonth.1 hmonth.2]
    rfl
  | succ n ih =>
    obtain ⟨next, hnext, hdate⟩ := ih
    simp only [Civil.date, Prod.mk.injEq] at hdate
    have hmonth : ((Civil.ofTime next).year, (Civil.ofTime next).month)
        = (Civil.ofTime first).monthAhead (n * cycleMonths sub.billingCycle) :=
      Prod.ext hdate.1 hdate.2.1
    refine ⟨_, by rw [nthStart_succ, hnext, Option.bind_some, nextStart_cycle hcycle], ?_⟩
    rw [date_addMonths, Civil.dateAhead, Civil.lengthAhead_add hmonth,
      Civil.monthAhead_add hmonth, ← Nat.succ_mul, hdate.2.2]
    rfl

/-- **The n-th date is on the day that it would be carried to at once** exactly when there is room
for it in the months before. -/
theorem date_nthStart_iff (n : ℕ) :
    (nthStart sub n (some first)).map (fun next => (Civil.ofTime next).date)
        = some ((Civil.ofTime first).dateAhead (n * cycleMonths sub.billingCycle))
      ↔ RoomForDay sub first n := by
  rw [RoomForDay]
  cases hschedule : sub.billingSchedule with
  | some dates => rw [nthStart_scheduled hschedule]
  | none =>
    obtain ⟨next, hnext, hdate⟩ := nthStart_cycle first hschedule n
    have hvalid := Civil.ofTime_valid first
    let len := fun i => (Civil.ofTime first).lengthAhead (i * cycleMonths sub.billingCycle)
    have hfirst : (Civil.ofTime first).day ≤ len 0 := by
      dsimp only [len]
      rw [Nat.zero_mul, Civil.lengthAhead, Civil.monthAhead_zero hvalid.month.1 hvalid.month.2]
      exact hvalid.day.2
    rw [hnext, Option.map_some, hdate, Option.some.injEq, Civil.dateAhead, Prod.mk.injEq,
      Prod.mk.injEq]
    simp only [true_and]
    exact dayAfter_eq_min_iff hfirst n

end Nth

/-! ## Runs -/

section Runs
variable {db : Db} {s : ℕ} {sub : Subscription}

theorem nextInvoiceOf_runs (hrow : db.subscriptions[s]? = some sub) (times : List Time) :
    nextInvoiceOf (billingRuns times db) s
      = nthStart sub (duePeriods sub times).length sub.nextInvoiceAt := by
  obtain ⟨row, hrow', -, hnext⟩ := (billingRuns_billing times (billingAt_row hrow)).row
  rw [nextInvoiceOf, hrow', Option.bind_some, hnext]
  exact (startsOver_follows times sub.nextInvoiceAt).last_eq

end Runs

/-- **The anchor day is kept exactly when the months before have room for it.** -/
theorem anchor_day_kept_iff (db : Db) (s : ℕ) (sub : Subscription) (first : Time) (k : ℕ)
    (times : List Time) (hrow : db.subscriptions[s]? = some sub)
    (hnext : sub.nextInvoiceAt = nthStart sub k (some first)) :
    AnchorKept db s sub first k times
      ↔ RoomForDay sub first (periodsSince sub k times) := by
  have hruns : ∀ times, nextInvoiceOf (billingRuns times db) s
      = nthStart sub (periodsSince sub k times) (some first) := by
    intro times
    rw [nextInvoiceOf_runs hrow, hnext, nthStart_add]
    rfl
  rw [← date_nthStart_iff, ← hruns]
  constructor
  · exact fun h => h.anchored
  intro h
  refine ⟨h, ?_, ?_⟩
  · intro others hcount
    rw [hruns, hruns, periodsSince, periodsSince, hcount]
  rw [date_addMonths]
  exact h

namespace Example

/-- A school that is first invoiced on 31 January. -/
def openedInJanuary : List Event :=
  [.catalogue [basicPlan] [],
   .staff (day 89) operator (.createTenant { externalId := "s", slug := "s", name := "School" }),
   .staff (day 89) operator (.createInvoice { tenantId := 0 })]

end Example

/-- A run in March leaves the next date on 28 March, not on the 31st. -/
theorem not_anchor_day_kept :
    ¬ ∀ (cfg : Settings) (db : Db), Reach cfg db →
      ∀ (s : ℕ) (sub : Subscription) (first : Time) (k : ℕ) (times : List Time),
        db.subscriptions[s]? = some sub → sub.nextInvoiceAt = nthStart sub k (some first) →
        AnchorKept db s sub first k times := by
  intro h
  have hrow : ∃ sub, (run (step Example.settings) {} Example.openedInJanuary).subscriptions[0]?
        = some sub
      ∧ sub.nextInvoiceAt = nthStart sub 1 (some (Example.day 89))
      ∧ (nextInvoiceOf (billingRuns [Example.day 130]
          (run (step Example.settings) {} Example.openedInJanuary)) 0).map
            (fun next => (Civil.ofTime next).date)
          ≠ some ((Civil.ofTime (Example.day 89)).dateAhead
            (periodsSince sub 1 [Example.day 130] * cycleMonths sub.billingCycle)) := by
    refine ⟨_, rfl, ?_⟩
    decide
  obtain ⟨sub, hsub, hnext, hdate⟩ := hrow
  have hreach : Reach Example.settings (run (step Example.settings) {} Example.openedInJanuary) :=
    ⟨_, rfl⟩
  exact hdate (h Example.settings _ hreach 0 sub (Example.day 89) 1 [Example.day 130] hsub
    hnext).anchored

/-- Up to the end of February the date is kept. -/
theorem anchor_day_kept_february :
    ∃ sub, (run (step Example.settings) {} Example.openedInJanuary).subscriptions[0]? = some sub
      ∧ AnchorKept (run (step Example.settings) {} Example.openedInJanuary) 0 sub (Example.day 89)
        1 [Example.day 100] := by
  have hrow : ∃ sub, (run (step Example.settings) {} Example.openedInJanuary).subscriptions[0]?
        = some sub
      ∧ sub.nextInvoiceAt = nthStart sub 1 (some (Example.day 89))
      ∧ RoomForDay sub (Example.day 89) (periodsSince sub 1 [Example.day 100]) := by
    refine ⟨_, rfl, ?_⟩
    decide
  obtain ⟨sub, hsub, hnext, hroom⟩ := hrow
  exact ⟨sub, hsub, (anchor_day_kept_iff _ 0 sub _ 1 _ hsub hnext).2 hroom⟩

end MultiAcademy.Control
