import MultiAcademy.Control.AnchorDays

/-!
# The price of an invoice and its window

`resolve_period_amount_minor` and `period_bounds` both read the billing cycle.  The window goes by
the normalised cycle, unless a schedule has a date; the price of a plan goes by the cycle as it is
spelled, and knows one month and, for `yearly`, twelve.
-/

namespace MultiAcademy.Control

open MultiAcademy.Lib

/-- The window is of so many months: a second after its end, they have passed. -/
def Spans (inv : SaasInvoice) (months : ℕ) : Prop :=
  ∃ start end_, inv.periodStart = some start ∧ inv.periodEnd = some end_
    ∧ end_ + Time.seconds 1 = addMonths start months

/-- **The amount is the plan's price for the months of the window.** -/
def BilledForWindow (plan : Plan) (inv : SaasInvoice) : Prop :=
  ∃ months, Spans inv months ∧ inv.amountMinor = plan.monthlyPriceMinor * months

/-- A catalogue subscription of a plan, without a price of its own. -/
structure Catalogue (db : Db) (sub : Subscription) (plan : Plan) : Prop where
  type : sub.type = .catalog
  plan : ∃ planId, sub.planId = some planId ∧ db.plans[planId]? = some plan
  price : sub.priceMinor = none
  flat : isPerStudent sub = false

def pricedMonths (sub : Subscription) : ℕ := if sub.billingCycle = "yearly" then 12 else 1

/-- The start of the window after one from `start`. -/
def windowNext (sub : Subscription) (start : Time) : Time :=
  (nextScheduledDate sub start).getD (addMonths start (cycleMonths sub.billingCycle))

/-- The price and the window agree: the plan is free, and the window of whole months, or the
window is of the months that the price is for.  By the cycle this is its spelling; by a schedule,
its next date. -/
def PricedAsSpanned (sub : Subscription) (plan : Plan) (start : Time) : Prop :=
  match nextScheduledDate sub start with
  | none =>
    plan.monthlyPriceMinor = 0 ∨ sub.billingCycle = "yearly"
      ∨ normalizeCycle sub.billingCycle = .monthly
  | some next =>
    next = addMonths start (pricedMonths sub)
      ∨ plan.monthlyPriceMinor = 0 ∧ ∃ months, next = addMonths start months

section Windows
variable {db : Db} {sub : Subscription} {plan : Plan} {now start : Time}

theorem addMonths_inj {months months' : ℕ} (h : addMonths start months = addMonths start months') :
    months = months' := by
  have hdate := congrArg (fun t => (Civil.ofTime t).date) h
  simp only [date_addMonths, Civil.dateAhead, Civil.monthAhead, Prod.mk.injEq] at hdate
  omega

theorem amount_of_catalogue (h : Catalogue db sub plan) :
    resolvePeriodAmountMinor db sub = plan.monthlyPriceMinor * pricedMonths sub := by
  obtain ⟨planId, hplanId, hplan⟩ := h.plan
  simp only [resolvePeriodAmountMinor, h.flat, h.price, hplanId, hplan, pricedMonths,
    Bool.false_eq_true, if_false]
  split <;> simp

/-- What the window is of. -/
theorem spans_newInvoice (s : ℕ) (dueDays : ℤ) (months : ℕ) :
    Spans (newInvoice db now s sub start dueDays) months
      ↔ windowNext sub start = addMonths start months := by
  have hend : (periodBounds sub start).1 = start
      ∧ (periodBounds sub start).2 + Time.seconds 1 = windowNext sub start := by
    rw [periodBounds, windowNext]
    cases nextScheduledDate sub start with
    | none =>
      dsimp only
      rw [Option.getD_none, Int.sub_add_cancel]
      exact ⟨rfl, rfl⟩
    | some next =>
      dsimp only
      rw [Option.getD_some, Int.sub_add_cancel]
      exact ⟨rfl, rfl⟩
  have hfirst : (newInvoice db now s sub start dueDays).periodStart
      = some (periodBounds sub start).1 := by simp only [newInvoice]
  have hlast : (newInvoice db now s sub start dueDays).periodEnd
      = some (periodBounds sub start).2 := by simp only [newInvoice]
  simp only [Spans, hfirst, hlast, Option.some.injEq, ← hend.2]
  constructor
  · rintro ⟨first, last, rfl, rfl, hspan⟩
    rwa [hend.1] at hspan
  intro h
  exact ⟨_, _, rfl, rfl, by rwa [hend.1]⟩

theorem billedForWindow_iff (h : Catalogue db sub plan) (s : ℕ) (dueDays : ℤ) :
    BilledForWindow plan (newInvoice db now s sub start dueDays)
      ↔ ∃ months, windowNext sub start = addMonths start months
        ∧ plan.monthlyPriceMinor * pricedMonths sub = plan.monthlyPriceMinor * months := by
  have hamount : (newInvoice db now s sub start dueDays).amountMinor
      = plan.monthlyPriceMinor * pricedMonths sub := by
    rw [← amount_of_catalogue h]
    simp only [newInvoice]
  simp only [BilledForWindow, spans_newInvoice, hamount]

/-- The price by a cycle is for its months exactly as the cycle is spelled. -/
theorem pricedMonths_eq_iff : pricedMonths sub = cycleMonths sub.billingCycle
    ↔ sub.billingCycle = "yearly" ∨ normalizeCycle sub.billingCycle = .monthly := by
  by_cases hyearly : sub.billingCycle = "yearly"
  · have hmonths : cycleMonths sub.billingCycle = 12 := by
      rw [hyearly]
      decide
    rw [pricedMonths, if_pos hyearly, hmonths]
    exact iff_of_true rfl (Or.inl hyearly)
  rw [pricedMonths, if_neg hyearly, cycleMonths]
  cases normalizeCycle sub.billingCycle <;> simp [hyearly]

theorem pricedAsSpanned_iff :
    PricedAsSpanned sub plan start
      ↔ ∃ months, windowNext sub start = addMonths start months
        ∧ plan.monthlyPriceMinor * pricedMonths sub = plan.monthlyPriceMinor * months := by
  rw [PricedAsSpanned, windowNext]
  cases nextScheduledDate sub start with
  | none =>
    rw [Option.getD_none, ← pricedMonths_eq_iff]
    constructor
    · intro h
      refine ⟨_, rfl, ?_⟩
      rcases h with hfree | hmonths
      · rw [hfree, Int.zero_mul, Int.zero_mul]
      · rw [hmonths]
    rintro ⟨months, hspan, hprice⟩
    rw [← addMonths_inj hspan] at hprice
    by_cases hfree : plan.monthlyPriceMinor = 0
    · exact Or.inl hfree
    · exact Or.inr (Int.natCast_inj.1 (Int.eq_of_mul_eq_mul_left hfree hprice))
  | some next =>
    rw [Option.getD_some]
    constructor
    · rintro (hspan | ⟨hfree, months, hspan⟩)
      · exact ⟨_, hspan, rfl⟩
      · exact ⟨months, hspan, by rw [hfree, Int.zero_mul, Int.zero_mul]⟩
    rintro ⟨months, hspan, hprice⟩
    by_cases hfree : plan.monthlyPriceMinor = 0
    · exact Or.inr ⟨hfree, months, hspan⟩
    have hmonths := Int.natCast_inj.1 (Int.eq_of_mul_eq_mul_left hfree hprice)
    exact Or.inl (hmonths ▸ hspan)

end Windows

namespace Example

/-- A school that is put on the basic plan, with a cycle as the staff spells it. -/
def withCycle (cycle : String) : Db :=
  run (step settings) {}
    [.catalogue [basicPlan] [],
     .staff (day 0) operator (.createTenant { externalId := "s", slug := "s", name := "School" }),
     .staff (day 0) operator (.createSubscription 0
      { planKey := some "basic", billingCycle := cycle })]

end Example

end MultiAcademy.Control
