import MultiAcademy.Control.Schema

/-!
# SaaS invoices and the dunning state machine

`services/billing.py`: the billing cycle and its windows, invoice generation,
payments and settlement, dunning, and the expiry of courtesy unlocks.

Each function reads the clock once.  A session here never flushes between a
write and a later query of the same pass (`autoflush=False`), and no loop below
queries a column it has rewritten, so reading the database as rewritten so far is
reading what the query would return.
-/

namespace MultiAcademy.Control

open MultiAcademy.Lib

def defaultGraceDays : ℤ := 7

def maxCatchupPeriods : ℕ := 24

/-! ## Cycles, windows and amounts -/

inductive Cycle
  | monthly | termly | yearly
  deriving DecidableEq

def normalizeCycle (cycle : String) : Cycle :=
  match lower (strip (if cycle = "" then "monthly" else cycle)) with
  | "termly" => .termly
  | "yearly" => .yearly
  | _ => .monthly

/-- `_add_months`: calendar-correct month arithmetic that keeps the anchor day. -/
def addMonths (when_ : Time) (months : ℕ) (anchorDay : Option ℕ := none) : Time :=
  let c := Civil.ofTime when_
  let total := c.month - 1 + months
  let year := c.year + total / 12
  let month := total % 12 + 1
  let anchor := match anchorDay with
    | some d => if d = 0 then c.day else d
    | none => c.day
  Civil.toTime
    { year, month, day := min anchor (daysInMonth year month)
      micros := c.micros / 1000000 * 1000000 }

def cycleMonths (cycle : String) : ℕ :=
  match normalizeCycle cycle with
  | .monthly => 1
  | .termly => 3
  | .yearly => 12

variable (cfg : Settings) (now : Time) (sub : Subscription)

def nextScheduledDate (after : Time) : Option Time :=
  (sub.billingSchedule.getD []).find? fun date => after < date

def invoiceNumber (tenantId : ℕ) (periodKey : String) (subscriptionId : ℕ) : String :=
  s!"SAAS-{tenantId}-{periodKey}-{subscriptionId}"

def periodKeyFor (periodStart : Time) : String :=
  let c := Civil.ofTime periodStart
  if sub.billingSchedule.isSome then isoDate periodStart
  else if normalizeCycle sub.billingCycle = .yearly then padded 4 c.year
  else padded 4 c.year ++ "-" ++ padded 2 c.month

/-- `period_bounds`: the service window an invoice covers. -/
def periodBounds (periodStart : Time) : Time × Time :=
  match nextScheduledDate sub periodStart with
  | some next => (periodStart, next - Time.seconds 1)
  | none =>
    (periodStart, addMonths periodStart (cycleMonths sub.billingCycle) - Time.seconds 1)

/-- `_next_period_start` at the current time. -/
def nextPeriodStart : Time :=
  if sub.billingSchedule.isSome then (nextScheduledDate sub now).getD now
  else
    let anchor := sub.nextInvoiceAt.getD now
    addMonths now (cycleMonths sub.billingCycle) (some (Civil.ofTime anchor).day)

def setNextInvoiceAt : Subscription :=
  { sub with nextInvoiceAt := some (nextPeriodStart now sub) }

def advanceNextInvoiceAt (fromWhen : Time) (sub : Subscription) : Subscription :=
  { sub with
    nextInvoiceAt :=
      if sub.billingSchedule.isSome then nextScheduledDate sub fromWhen
      else some (addMonths fromWhen (cycleMonths sub.billingCycle)
        (some (Civil.ofTime fromWhen).day)) }

/-- The pricing model is `per_student`. -/
def isPerStudent : Bool :=
  lower (strip (if sub.pricingModel = "" then "flat" else sub.pricingModel)) = "per_student"

/-- `resolve_period_amount_minor`: flat or per-student. -/
def resolvePeriodAmountMinor (db : Db) (sub : Subscription) : ℤ :=
  if isPerStudent sub then
    let rate := sub.perStudentMinor.getD 0
    let count := sub.studentCount.getD 0
    if 0 < rate ∧ 0 < count then rate * count else sub.priceMinor.getD 0
  else
    match sub.priceMinor, sub.planId with
    | some price, _ => price
    | none, none => 0
    | none, some planId =>
      match db.plans[planId]? with
      | none => 0
      | some plan =>
        if sub.billingCycle = "yearly" then plan.monthlyPriceMinor * 12
        else plan.monthlyPriceMinor

/-! ## Invoice generation -/

/-- The open invoice `create_invoice_for_subscription` inserts. -/
def newInvoice (db : Db) (now : Time) (subscriptionId : ℕ) (sub : Subscription)
    (start : Time) (dueDays : ℤ) : SaasInvoice :=
  let key := periodKeyFor sub start
  let window := periodBounds sub start
  let pricingNote :=
    if isPerStudent sub then
      let rate := sub.perStudentMinor.getD 0
      let count := sub.studentCount.getD 0
      s!" (per-student: {rate} × {count})"
    else ""
  { tenantId := sub.tenantId
    subscriptionId := some subscriptionId
    number := invoiceNumber sub.tenantId key subscriptionId
    periodKey := key
    amountMinor := resolvePeriodAmountMinor db sub
    amountPaidMinor := 0
    currency := if sub.currency = "" then "NGN" else sub.currency
    status := .open
    periodStart := some window.1
    periodEnd := some window.2
    dueAt := some (now + Time.days dueDays)
    notes := s!"Generated for subscription #{subscriptionId}{pricingNote}" }

/-- The subscription's own columns after its invoice: the cached per-student price
and, when it had none, the next billing date. -/
def afterInvoice (db : Db) (now : Time) (sub : Subscription) : Subscription :=
  let amount := resolvePeriodAmountMinor db sub
  let sub' := if isPerStudent sub ∧ amount ≠ 0 then { sub with priceMinor := some amount } else sub
  if sub.nextInvoiceAt = none then setNextInvoiceAt now sub' else sub'

/-- `create_invoice_for_subscription`: the new invoice's id, or `none` when the
period is already invoiced. -/
def createInvoiceForSubscription (subscriptionId : ℕ) (dueDays : ℤ)
    (periodStart : Option Time) (db : Db) : Option ℕ × Db :=
  match db.subscriptions[subscriptionId]? with
  | none => (none, db)
  | some sub =>
    let start := (periodStart.or sub.nextInvoiceAt).getD now
    let key := periodKeyFor sub start
    if db.invoices.existsRow fun inv =>
        inv.subscriptionId = some subscriptionId ∧ inv.periodKey = key then
      (none, db)
    else
      (some db.invoices.nextId,
        { db with
          invoices := db.invoices.insert (newInvoice db now subscriptionId sub start dueDays)
          subscriptions := db.subscriptions.modify subscriptionId (afterInvoice db now) })

/-- The catch-up loop of `generate_due_invoices` for one locked subscription, at
most `periods` further rounds. -/
def catchUp (now : Time) (subscriptionId : ℕ) : ℕ → List ℕ → Db → List ℕ × Db
  | 0, created, db => (created, db)
  | periods + 1, created, db =>
    match (db.subscriptions[subscriptionId]?).bind (·.nextInvoiceAt) with
    | none => (created, db)
    | some nia =>
      if now < nia then (created, db)
      else
        let (invoice, db) := createInvoiceForSubscription now subscriptionId 14 (some nia) db
        catchUp now subscriptionId periods (created ++ invoice.toList)
          { db with
            subscriptions := db.subscriptions.modify subscriptionId
              (advanceNextInvoiceAt nia) }

/-- The candidates of `generate_due_invoices`. -/
def isDue : Bool :=
  sub.isCurrent && (sub.status = .active || sub.status = .pastDue)
    && sub.nextInvoiceAt.any fun nia => nia ≤ now

/-- `generate_due_invoices`: the created invoices, in order. -/
def generateDueInvoices (db : Db) : List ℕ × Db :=
  (db.subscriptions.select (isDue now)).foldl
    (fun acc subscriptionId =>
      match acc.2.subscriptions[subscriptionId]? with
      | none => acc
      | some sub =>
        if sub.approvalStatus = .active ∨ sub.approvalStatus = .approved then
          catchUp now subscriptionId maxCatchupPeriods acc.1 acc.2
        else acc)
    ([], db)

/-! ## Payments and settlement -/

/-- The statuses of an invoice that still has to be paid. -/
def owing (inv : SaasInvoice) : Bool :=
  inv.status = .open || inv.status = .pastDue || inv.status = .partiallyPaid

/-- Another invoice than `invoiceId` satisfies `p`. -/
def existsOther (db : Db) (invoiceId : ℕ) (p : SaasInvoice → Bool) : Bool :=
  (db.invoices.select p).any fun i => i ≠ invoiceId

/-- Settlement of the invoice row itself. -/
def markPaid (inv : SaasInvoice) : SaasInvoice :=
  { inv with
    status := .paid
    paidAt := some now
    amountPaidMinor :=
      if inv.amountPaidMinor < inv.amountMinor then inv.amountMinor else inv.amountPaidMinor }

def reactivate : Subscription :=
  { sub with status := .active, dunningStep := .none, pastDueAt := none, graceUntil := none }

/-- The subscription `settle_invoice` reactivates: the invoice's own, when none of
its other invoices is outstanding. -/
def reactivatedSubscription (db : Db) (invoiceId : ℕ) (inv : SaasInvoice) : Option ℕ :=
  match inv.subscriptionId with
  | none => none
  | some subscriptionId =>
    match db.subscriptions[subscriptionId]? with
    | none => none
    | some _ =>
      if existsOther db invoiceId fun other =>
          other.subscriptionId = some subscriptionId ∧ owing other then none
      else some subscriptionId

/-- The guard under which `settle_invoice` lifts the tenant's suspension. -/
def liftsSuspension (db : Db) (invoiceId tenantId : ℕ) : Bool :=
  (db.tenants[tenantId]?).any (fun tenant =>
    tenant.status = .suspended && tenant.statusReason = "billing_dunning")
  && !existsOther db invoiceId fun other => other.tenantId = tenantId ∧ owing other

/-- `settle_invoice`: mark an invoice fully paid and lift a dunning suspension. -/
def settleInvoice (invoiceId : ℕ) (db : Db) : Db :=
  match db.invoices[invoiceId]? with
  | none => db
  | some inv =>
    let reactivated := reactivatedSubscription db invoiceId inv
    let lifts := liftsSuspension db invoiceId inv.tenantId
    let db :=
      { db with
        invoices := db.invoices.modify invoiceId (markPaid now)
        subscriptions := match reactivated with
          | some subscriptionId => db.subscriptions.modify subscriptionId reactivate
          | none => db.subscriptions
        tenants := if lifts then db.tenants.modify inv.tenantId lift else db.tenants }
    if reactivated.isSome then
      enqueueOutbox cfg now "config.invalidate" "tenant" (toString (publicId inv.tenantId))
        [("reason", "subscription_payment")] (bumpConfigVersion cfg now db)
    else if lifts then
      enqueueOutbox cfg now "config.invalidate" "tenant" (toString (publicId inv.tenantId))
        [("reason", "invoice_paid")] (bumpConfigVersion cfg now db)
    else db

/-- `apply_payment_to_invoice`; `none` is its `ValueError`. -/
def applyPaymentToInvoice (invoiceId : ℕ) (amountMinor : ℤ)
    (db : Db) : Option Db :=
  if amountMinor ≤ 0 then none
  else
    match db.invoices[invoiceId]? with
    | none => none
    | some inv =>
      let credited :=
        { db with
          invoices := db.invoices.modify invoiceId fun row =>
            { row with amountPaidMinor := row.amountPaidMinor + amountMinor } }
      if inv.amountMinor ≤ inv.amountPaidMinor + amountMinor then
        some (settleInvoice cfg now invoiceId credited)
      else
        some { credited with
          invoices := credited.invoices.modify invoiceId fun row =>
            { row with status := .partiallyPaid } }

/-! ## Dunning -/

/-- `subscription.dunning_step or "none"`. -/
def DunningStep.orNone : DunningStep → DunningStep
  | .other "" => .none
  | step => step

/-- What `advance_dunning` returns. -/
inductive DunningResult
  | tenantMissing
  | advanced (subscriptionId : ℕ) (dunningStep : DunningStep) (tenantStatus : TenantStatus)
  deriving DecidableEq

def dunningSuspend (tenant : Tenant) : Tenant :=
  { tenant with
    status := .suspended
    statusMessage := "Suspended for unpaid SaaS subscription (dunning)."
    statusReason := "billing_dunning" }

/-- The first warning: the subscription and its open invoices are past due. -/
def enterPastDue (graceDays : ℤ) (subscriptionId : ℕ) (db : Db) : Db :=
  { db with
    subscriptions := db.subscriptions.modify subscriptionId fun row =>
      { row with
        status := .pastDue
        dunningStep := .pastDue
        pastDueAt := some now
        graceUntil := some (now + Time.days graceDays) }
    invoices := db.invoices.updateWhere
      (fun inv => inv.subscriptionId = some subscriptionId ∧ inv.status = .open)
      fun inv => { inv with status := .pastDue } }

/-- The second warning: the grace window runs. -/
def enterGrace (graceDays : ℤ) (subscriptionId : ℕ) (db : Db) : Db :=
  { db with
    subscriptions := db.subscriptions.modify subscriptionId fun row =>
      { row with
        dunningStep := .grace
        graceUntil := row.graceUntil.or (some (now + Time.days graceDays)) } }

/-- The end of dunning: the tenant is suspended, whatever its status is. -/
def enterSuspended (subscriptionId tenantId : ℕ) (db : Db) : Db :=
  enqueueOutbox cfg now "config.invalidate" "tenant" (toString (publicId tenantId))
    [("reason", "dunning_suspend")]
    (bumpConfigVersion cfg now
      { db with
        subscriptions := db.subscriptions.modify subscriptionId fun row =>
          { row with dunningStep := .suspended, status := .pastDue }
        tenants := db.tenants.modify tenantId dunningSuspend })

/-- `advance_dunning`: one step of active → past_due → grace → suspended. -/
def advanceDunning (graceDays : ℤ) (subscriptionId : ℕ)
    (db : Db) : DunningResult × Db :=
  match db.subscriptions[subscriptionId]? with
  | none => (.tenantMissing, db)
  | some sub =>
    match db.tenants[sub.tenantId]? with
    | none => (.tenantMissing, db)
    | some tenant =>
      if sub.dunningStep.orNone = .none ∨ sub.status = .active then
        (.advanced subscriptionId .pastDue tenant.status,
          enterPastDue now graceDays subscriptionId db)
      else if sub.dunningStep.orNone = .pastDue then
        (.advanced subscriptionId .grace tenant.status,
          enterGrace now graceDays subscriptionId db)
      else
        (.advanced subscriptionId .suspended .suspended,
          enterSuspended cfg now subscriptionId sub.tenantId db)

/-- `advance_dunning` is past its two warnings. -/
def pastWarnings : Bool :=
  sub.dunningStep.orNone ≠ .none && sub.dunningStep.orNone ≠ .pastDue && sub.status ≠ .active

/-- **What `advance_dunning` can do**, and when. -/
theorem advanceDunning_cases (graceDays : ℤ) (s : ℕ) (db : Db) :
    (advanceDunning cfg now graceDays s db).2 = db
        ∧ ((db.subscriptions[s]?).bind fun sub => db.tenants[sub.tenantId]?) = none
      ∨ ∃ sub, db.subscriptions[s]? = some sub
        ∧ (pastWarnings sub = false
            ∧ ((advanceDunning cfg now graceDays s db).2 = enterPastDue now graceDays s db
              ∨ (advanceDunning cfg now graceDays s db).2 = enterGrace now graceDays s db)
          ∨ pastWarnings sub = true
            ∧ (advanceDunning cfg now graceDays s db).2
              = enterSuspended cfg now s sub.tenantId db) := by
  unfold advanceDunning
  cases hsub : db.subscriptions[s]? with
  | none => exact Or.inl ⟨rfl, rfl⟩
  | some sub =>
    cases htenant : db.tenants[sub.tenantId]? with
    | none => exact Or.inl ⟨by simp [htenant], by simp [htenant]⟩
    | some tenant =>
      refine Or.inr ⟨sub, rfl, ?_⟩
      by_cases h1 : sub.dunningStep.orNone = .none ∨ sub.status = .active
      · refine Or.inl ⟨?_, Or.inl (by simp [htenant, h1])⟩
        rcases h1 with h | h <;> simp [pastWarnings, h]
      by_cases h2 : sub.dunningStep.orNone = .pastDue
      · refine Or.inl ⟨by simp [pastWarnings, h2], Or.inr ?_⟩
        simp only [htenant]
        rw [if_neg h1, if_pos h2]
      refine Or.inr ⟨?_, ?_⟩
      · rw [not_or] at h1
        simp [pastWarnings, h1.1, h1.2, h2]
      simp only [htenant]
      rw [if_neg h1, if_neg h2]

/-- The invoice is overdue at `now`. -/
def overdue (inv : SaasInvoice) : Bool := inv.dueAt.any fun due => due < now

/-- The subscriptions `run_dunning_pass` advances, once it has found an overdue
invoice of theirs: in a step it knows and not inside a running grace window. -/
def dunnable : Bool :=
  (sub.dunningStep = .none || sub.dunningStep = .pastDue || sub.dunningStep = .grace
      || sub.status = .active)
    && !(sub.dunningStep = .grace && sub.graceUntil.any fun gu => now < gu)

/-- The running state of `run_dunning_pass`: the subscriptions met so far, the results
and the database. -/
structure DunningAcc where
  seen : List ℕ
  results : List DunningResult
  db : Db

/-- A subscription `run_dunning_pass` meets for the first time. -/
def dunSubscription (graceDays : ℤ) (acc : DunningAcc)
    (subscriptionId : ℕ) (sub : Subscription) : DunningAcc :=
  if !sub.isCurrent then acc
  else if dunnable now sub then
    let advanced := advanceDunning cfg now graceDays subscriptionId acc.db
    ⟨subscriptionId :: acc.seen, acc.results ++ [advanced.1], advanced.2⟩
  else { acc with seen := subscriptionId :: acc.seen }

/-- One invoice of `run_dunning_pass`. -/
def dunInvoice (graceDays : ℤ) (acc : DunningAcc)
    (invoiceId : ℕ) : DunningAcc :=
  match acc.db.invoices[invoiceId]? with
  | none => acc
  | some inv =>
    if !overdue now inv then acc
    else
      match inv.subscriptionId with
      | none => acc
      | some subscriptionId =>
        if subscriptionId ∈ acc.seen then acc
        else
          match acc.db.subscriptions[subscriptionId]? with
          | none => acc
          | some sub => dunSubscription cfg now graceDays acc subscriptionId sub

/-- The invoices `run_dunning_pass` scans. -/
def dunningCandidate (inv : SaasInvoice) : Bool := inv.status = .open || inv.status = .pastDue

def runDunningPass (graceDays : ℤ) (db : Db) :
    List DunningResult × Db :=
  let acc := (db.invoices.select dunningCandidate).foldl (dunInvoice cfg now graceDays) ⟨[], [], db⟩
  (acc.results, acc.db)

/-! ## Courtesy unlocks -/

/-- `_tenant_billing_resolved`: a healthy subscription and no open invoices. -/
def tenantBillingResolved (db : Db) (tenantId : ℕ) : Bool :=
  (db.subscriptions.existsRow fun sub =>
    sub.tenantId = tenantId ∧ sub.isCurrent ∧ (sub.status = .active ∨ sub.status = .trialing)
      ∧ sub.dunningStep = .none)
  && !db.invoices.existsRow fun inv => inv.tenantId = tenantId ∧ owing inv

def billingReasons : List String :=
  ["billing_dunning", "billing_grace_expired", "courtesy_unlock_expired"]

/-- An expired unlock of a tenant whose billing is in order. -/
def clearCourtesyUnlock (tenant : Tenant) : Tenant :=
  { tenant with
    courtesyUnlockUntil := none
    statusMessage := ""
    statusReason := if tenant.statusReason ∈ billingReasons then "" else tenant.statusReason }

/-- `tenant.status_reason or "courtesy_unlock_expired"`. -/
def priorReason (tenant : Tenant) : String :=
  if tenant.statusReason = "" then "courtesy_unlock_expired" else tenant.statusReason

def expireCourtesyUnlock (tenant : Tenant) : Tenant :=
  if priorReason tenant = "billing_dunning" then
    { tenant with
      status := .suspended
      courtesyUnlockUntil := none
      statusMessage := "Suspended for unpaid SaaS subscription (dunning)."
      statusReason := "billing_dunning" }
  else if priorReason tenant = "billing_grace_expired" then
    { tenant with
      status := .suspended
      courtesyUnlockUntil := none
      statusMessage := "This school is suspended because it has no active subscription."
      statusReason := "billing_grace_expired" }
  else
    { tenant with
      status := .suspended
      courtesyUnlockUntil := none
      statusMessage :=
        "Courtesy unlock expired. Please renew your subscription or contact support."
      statusReason := "courtesy_unlock_expired" }

/-- The tenant's courtesy unlock has ended at `now`. -/
def courtesyUnlockEnded (tenant : Tenant) : Bool :=
  tenant.courtesyUnlockUntil.any fun ends => ends ≤ now

/-- One tenant of `run_courtesy_unlock_expiry_pass`. -/
def expireCourtesyUnlockOf (acc : ℕ × Db) (tenantId : ℕ) : ℕ × Db :=
  let db := acc.2
  if tenantBillingResolved db tenantId then
    (acc.1,
      enqueueOutbox cfg now "config.invalidate" "tenant" (toString (publicId tenantId))
        [("reason", "courtesy_unlock_resolved")]
        (bumpConfigVersion cfg now
          { db with tenants := db.tenants.modify tenantId clearCourtesyUnlock }))
  else
    (acc.1 + 1,
      enqueueOutbox cfg now "config.invalidate" "tenant" (toString (publicId tenantId))
        [("reason", "courtesy_unlock_expired"),
          ("priorReason", ((db.tenants[tenantId]?).map priorReason).getD "")]
        (bumpConfigVersion cfg now
          { db with tenants := db.tenants.modify tenantId expireCourtesyUnlock }))

/-- `run_courtesy_unlock_expiry_pass`: re-suspend tenants whose unlock window has
ended without payment. -/
def runCourtesyUnlockExpiryPass (db : Db) : ℕ × Db :=
  (db.tenants.select (courtesyUnlockEnded now)).foldl (expireCourtesyUnlockOf cfg now) (0, db)

end MultiAcademy.Control
