import MultiAcademy.Control.TenantRoutes

/-!
# The billing and deal endpoints

`routers/billing.py` and `routers/deals.py`.
-/

namespace MultiAcademy.Control

open MultiAcademy.Lib

/-! ## Billing -/

structure SubscriptionStatusUpdate where
  status : Option String := none
  dunningStep : Option String := none

/-- The row `PATCH /v1/subscriptions/id` leaves. -/
def SubscriptionStatusUpdate.apply (body : SubscriptionStatusUpdate) (sub : Subscription) :
    Subscription :=
  let sub :=
    { sub with
      status := (body.status.map SubscriptionStatus.ofString).getD sub.status
      dunningStep := (body.dunningStep.map DunningStep.ofString).getD sub.dunningStep }
  if body.status = some "active" then
    { sub with dunningStep := .none, pastDueAt := none, graceUntil := none }
  else sub

/-- `PATCH /v1/subscriptions/id`. -/
def updateSubscriptionStatus (subscriptionId : ℕ) (body : SubscriptionStatusUpdate) (db : Db) :
    Outcome :=
  match db.subscriptions[subscriptionId]? with
  | none => raise db 404 "Subscription not found"
  | some _ =>
    commit { db with subscriptions := db.subscriptions.modify subscriptionId body.apply }

variable (cfg : Settings) (now : Time) (body : DealUpdate)

/-- `POST /v1/subscriptions/id/dunning/advance`. -/
def dunningAdvance (subscriptionId : ℕ) (db : Db) : Outcome :=
  match db.subscriptions[subscriptionId]? with
  | none => raise db 404 "Subscription not found"
  | some _ => commit (advanceDunning cfg now defaultGraceDays subscriptionId db).2

/-- `POST /v1/billing/dunning/run`. -/
def dunningRun (db : Db) : Outcome :=
  commit (runDunningPass cfg now defaultGraceDays db).2

/-- `POST /v1/billing/invoices/generate-due`. -/
def generateDue (db : Db) : Outcome := commit (generateDueInvoices now db).2

structure CourtesyUnlockRequest where
  tenantId : ℕ
  durationHours : ℤ := 72
  reason : String := ""
  hours_ge : 1 ≤ durationHours := by decide
  hours_le : durationHours ≤ 168 := by decide

def Example.goodwill : CourtesyUnlockRequest := { tenantId := 0, reason := "goodwill" }

/-- `POST /v1/billing/courtesy-unlock`. -/
def courtesyUnlock (body : CourtesyUnlockRequest) (db : Db) :
    Outcome :=
  match db.tenants[body.tenantId]? with
  | none => raise db 404 "Tenant not found"
  | some _ =>
    if strip body.reason = "" then raise db 400 "Reason required"
    else
      let ends := now + Time.hours body.durationHours
      commit (enqueueOutbox cfg now "config.invalidate" "tenant"
        (toString (publicId body.tenantId))
        [("reason", "courtesy_unlock"), ("until", isoformat ends)]
        (bumpConfigVersion cfg now
          { db with
            tenants := db.tenants.modify body.tenantId fun t =>
              { t with
                status := .active
                statusMessage := "Courtesy unlock until " ++ isoformat ends
                courtesyUnlockUntil := some ends }
            subscriptions := match db.subscriptions.last? (isCurrentOf body.tenantId) with
              | some subscriptionId => db.subscriptions.modify subscriptionId fun sub =>
                { sub with dunningStep := .none, pastDueAt := none, graceUntil := none }
              | none => db.subscriptions }))

structure SaasInvoiceCreate where
  tenantId : ℕ
  subscriptionId : Option ℕ := none
  amountMinor : Option ℤ := none
  currency : String := "NGN"
  dueDays : ℤ := 14
  notes : String := ""
  taxMinor : ℤ := 0
  taxLabel : String := "VAT"

/-- The body's overrides of a freshly created invoice; tax is folded into the total. -/
def SaasInvoiceCreate.apply (body : SaasInvoiceCreate) (inv : SaasInvoice) : SaasInvoice :=
  let tax := max 0 body.taxMinor
  let amount := body.amountMinor.getD inv.amountMinor
  { inv with
    amountMinor := if tax ≠ 0 then amount + tax else amount
    currency := if body.currency = "" then inv.currency else body.currency
    notes := if body.notes = "" then inv.notes else body.notes
    taxLabel := if body.taxLabel = "" then "VAT" else body.taxLabel
    taxMinor := tax }

/-- `POST /v1/billing/invoices`. -/
def createInvoice (body : SaasInvoiceCreate) (db : Db) : Outcome :=
  match db.tenants[body.tenantId]? with
  | none => raise db 404 "Tenant not found"
  | some _ =>
    match body.subscriptionId.or (db.subscriptions.last? (isCurrentOf body.tenantId)) with
    | none => raise db 400 "No subscription to invoice"
    | some subscriptionId =>
      match db.subscriptions[subscriptionId]? with
      | none => raise db 400 "No subscription to invoice"
      | some sub =>
        match createInvoiceForSubscription now subscriptionId body.dueDays none db with
        | (none, _) =>
          raise db 409
            "An invoice already exists for this subscription's current billing period"
        | (some invoiceId, created) =>
          commit { created with
            invoices := created.invoices.modify invoiceId body.apply
            subscriptions := created.subscriptions.modify subscriptionId
              (advanceNextInvoiceAt (sub.nextInvoiceAt.getD now)) }

structure SaasPaymentCreate where
  amountMinor : ℤ
  method : String := "manual"
  providerId : String := ""
  providerReference : String := ""
  notes : String := ""

def InvoiceStatus.text : InvoiceStatus → String
  | .draft => "draft"
  | .open => "open"
  | .partiallyPaid => "partially_paid"
  | .paid => "paid"
  | .pastDue => "past_due"
  | .void => "void"
  | .writtenOff => "written_off"

/-- What is left to pay, never negative. -/
def outstanding (inv : SaasInvoice) : ℤ := max 0 (inv.amountMinor - inv.amountPaidMinor)

def SaasPaymentCreate.toRow (body : SaasPaymentCreate) (staff : StaffContext) (invoiceId : ℕ)
    (inv : SaasInvoice) : SaasPayment :=
  { invoiceId
    tenantId := inv.tenantId
    amountMinor := body.amountMinor
    currency := inv.currency
    method := body.method
    providerId := body.providerId
    providerReference := body.providerReference
    recordedBy := staff.email
    notes := body.notes }

/-- Insert a payment and credit it to its invoice. -/
def recordPayment (payment : SaasPayment) (db : Db) : Option Db :=
  applyPaymentToInvoice cfg now payment.invoiceId payment.amountMinor
    { db with payments := db.payments.insert payment }

/-- `POST /v1/billing/invoices/id/pay`. -/
def payInvoice (staff : StaffContext) (invoiceId : ℕ)
    (body : SaasPaymentCreate) (db : Db) : Outcome :=
  match db.invoices[invoiceId]? with
  | none => raise db 404 "Invoice not found"
  | some inv =>
    if inv.status = .void ∨ inv.status = .writtenOff then
      raise db 409 ("Invoice is " ++ inv.status.text ++ " and cannot accept payments")
    else if body.amountMinor ≤ 0 then raise db 422 "Amount must be positive"
    else if outstanding inv < body.amountMinor then
      raise db 422 "Payment exceeds the invoice balance"
    else if body.providerReference ≠ "" ∧ db.payments.existsRow fun payment =>
        payment.providerReference = body.providerReference then
      raise db 409 ("Payment reference " ++ body.providerReference ++ " is already recorded")
    else
      match recordPayment cfg now (body.toRow staff invoiceId inv) db with
      | none => raise db 422 "Payment amount must be greater than zero"
      | some db => commit db

/-! ## Deals -/

/-- The schedule fields of a deal body. -/
structure TermBody where
  contractStart : Option Time := none
  termStartDates : Option (List Time) := none
  termIntervalMonths : Option ℕ := none
  termCount : ℕ := 3

/-- `_build_term_schedule`: the explicit dates, `none` when no schedule is configured,
or the text of its 400. -/
def buildTermSchedule (body : TermBody) (billingCycle : String) :
    Except String (Option (List Time)) :=
  let explicit := body.termStartDates.getD []
  if explicit = [] ∧ body.termIntervalMonths = none ∧ body.termCount = 3 then .ok none
  else if billingCycle ≠ "termly" then
    .error "Term dates and term intervals are only valid for termly billing"
  else if explicit ≠ [] ∧ body.termIntervalMonths ≠ none then
    .error "Choose explicit term dates or a start date with an interval"
  else if explicit ≠ [] then
    if explicit.length ≠ body.termCount then
      let count := body.termCount
      .error s!"Provide a start date for all {count} terms"
    else if 24 < explicit.length
        ∨ (explicit.zip explicit.tail).any fun pair => pair.2 ≤ pair.1 then
      .error "Term start dates must be in strictly increasing order"
    else .ok (some explicit)
  else
    match body.contractStart with
    | none => .error "A first term start date is required when using an interval"
    | some start =>
      let months := match body.termIntervalMonths with
        | some n => if n = 0 then 3 else n
        | none => 3
      .ok (some ((List.range body.termCount).map fun index => addMonths start (months * index)))

def dealPrice (pricingModel : String) (perStudentMinor studentCount : Option ℤ)
    (priceMinor : ℤ) : ℤ :=
  if (if pricingModel = "" then "flat" else pricingModel) = "per_student"
      ∧ perStudentMinor.getD 0 ≠ 0 ∧ studentCount.getD 0 ≠ 0 then
    perStudentMinor.getD 0 * studentCount.getD 0
  else priceMinor

structure DealTemplateCreate where
  name : String
  priceMinor : ℤ := 0
  currency : String := "NGN"
  billingCycle : String := "monthly"
  pricingModel : String := "flat"
  perStudentMinor : Option ℤ := none
  studentCount : Option ℤ := none
  entitlements : List (String × Bool) := []
  quotas : List (String × ℤ) := []

/-- `POST /v1/deals/templates`. -/
def createDealTemplate (body : DealTemplateCreate) (db : Db) : Outcome :=
  commit { db with
    dealTemplates := db.dealTemplates.insert
      { name := body.name, priceMinor := body.priceMinor, currency := body.currency
        billingCycle := body.billingCycle
        pricingModel := if body.pricingModel = "" then "flat" else body.pricingModel
        perStudentMinor := body.perStudentMinor, studentCount := body.studentCount
        entitlements := some body.entitlements, quotas := some body.quotas, isActive := true } }

/-- The first billing date of a new deal. -/
def startBilling (deal : Subscription) : Subscription :=
  if deal.contractStart.isSome then { deal with nextInvoiceAt := deal.contractStart }
  else setNextInvoiceAt now deal

def invoiceDeal (dealId : ℕ) (periodStart : Option Time) (db : Db) : Db :=
  match createInvoiceForSubscription now dealId 14 periodStart db with
  | (none, db') => db'
  | (some invoiceId, db') =>
    let start := ((db'.invoices[invoiceId]?).bind (·.periodStart)).getD now
    { db' with
      subscriptions := db'.subscriptions.modify dealId (advanceNextInvoiceAt start) }

structure DealCloneFromTemplate where
  tenantId : ℕ
  dealName : String := ""
  notes : String := ""
  studentCount : Option ℤ := none
  terms : TermBody := {}
  submitForApproval : Bool := true

/-- `POST /v1/deals/templates/id/clone`.  A clone is a draft or pending, so the
invoice that an `active` one would open never is. -/
def cloneTemplateToDeal (templateId : ℕ)
    (body : DealCloneFromTemplate) (db : Db) : Outcome :=
  match db.dealTemplates[templateId]? with
  | none => raise db 404 "Deal template not found"
  | some template =>
    if !template.isActive then raise db 404 "Deal template not found"
    else
      match db.tenants[body.tenantId]? with
      | none => raise db 404 "Tenant not found"
      | some _ =>
        match buildTermSchedule body.terms template.billingCycle with
        | .error detail => raise db 400 detail
        | .ok schedule =>
          let studentCount := body.studentCount.or template.studentCount
          let templateName := template.name
          let deal : Subscription :=
            { tenantId := body.tenantId
              type := .custom
              status := .trialing
              billingCycle := template.billingCycle
              priceMinor := some (dealPrice template.pricingModel template.perStudentMinor
                studentCount template.priceMinor)
              currency := template.currency
              pricingModel :=
                if template.pricingModel = "" then "flat" else template.pricingModel
              perStudentMinor := template.perStudentMinor
              studentCount
              customEntitlements := some (template.entitlements.getD [])
              customQuotas := some (template.quotas.getD [])
              notes := if body.notes ≠ "" then body.notes
                else s!"Cloned from template #{templateId}: {templateName}"
              dealName := if body.dealName ≠ "" then body.dealName else template.name
              isCurrent := false
              approvalStatus := if body.submitForApproval then .pending else .draft
              contractStart := body.terms.contractStart.or
                (body.terms.termStartDates.getD []).head?
              billingSchedule := schedule }
          commit (bumpConfigVersion cfg now
            { db with subscriptions := db.subscriptions.insert (startBilling now deal) })

structure DealCreate where
  tenantId : ℕ
  dealName : String
  billingCycle : String := "monthly"
  priceMinor : ℤ := 0
  currency : String := "NGN"
  pricingModel : String := "flat"
  perStudentMinor : Option ℤ := none
  studentCount : Option ℤ := none
  customEntitlements : List (String × Bool) := []
  customQuotas : List (String × ℤ) := []
  contractEnd : Option Time := none
  terms : TermBody := {}
  notes : String := ""
  createInvoice : Bool := true

/-- The row `create_deal` inserts, before its first billing date is set. -/
def DealCreate.toRow (body : DealCreate) (schedule : Option (List Time)) : Subscription :=
  { tenantId := body.tenantId
    type := .custom
    status := .trialing
    billingCycle := body.billingCycle
    priceMinor := some (dealPrice body.pricingModel body.perStudentMinor body.studentCount
      body.priceMinor)
    currency := body.currency
    pricingModel := if body.pricingModel = "" then "flat" else body.pricingModel
    perStudentMinor := body.perStudentMinor
    studentCount := body.studentCount
    customEntitlements := some body.customEntitlements
    customQuotas := some body.customQuotas
    contractStart := body.terms.contractStart.or (body.terms.termStartDates.getD []).head?
    contractEnd := body.contractEnd
    billingSchedule := schedule
    notes := body.notes
    dealName := body.dealName
    isCurrent := false
    approvalStatus := .pending }

/-- `POST /v1/deals`. -/
def createDeal (body : DealCreate) (db : Db) : Outcome :=
  match db.tenants[body.tenantId]? with
  | none => raise db 404 "Tenant not found"
  | some _ =>
    match buildTermSchedule body.terms body.billingCycle with
    | .error detail => raise db 400 detail
    | .ok schedule =>
      let deal := startBilling now (body.toRow schedule)
      let dealId := db.subscriptions.nextId
      let db := { db with subscriptions := db.subscriptions.insert deal }
      let db :=
        if body.createInvoice ∧ deal.nextInvoiceAt.all (· ≤ now) then
          invoiceDeal now dealId none db
        else db
      commit (bumpConfigVersion cfg now db)

def ApprovalStatus.text : ApprovalStatus → String
  | .draft => "draft"
  | .pending => "pending"
  | .approved => "approved"
  | .active => "active"

/-- The deal row after approval: past due until its first invoice is settled. -/
def approved (deal : Subscription) : Subscription :=
  let deal := { deal with approvalStatus := .approved, status := .pastDue, isCurrent := true }
  if deal.nextInvoiceAt = none then setNextInvoiceAt now deal else deal

/-- `POST /v1/deals/id/approve`. -/
def approveDeal (dealId : ℕ) (db : Db) : Outcome :=
  match db.subscriptions[dealId]? with
  | none => raise db 404 "Deal not found"
  | some deal =>
    if deal.type ≠ .custom then raise db 404 "Deal not found"
    else if deal.approvalStatus ≠ .draft ∧ deal.approvalStatus ≠ .pending then
      raise db 400 ("Deal approval_status is '" ++ deal.approvalStatus.text
        ++ "' — only draft/pending can be approved")
    else
      let db :=
        { db with
          subscriptions := (retireCurrent deal.tenantId db.subscriptions).modify dealId
            (approved now) }
      let db :=
        if (approved now deal).nextInvoiceAt.all (· ≤ now) then
          invoiceDeal now dealId (some (deal.contractStart.getD now)) db
        else db
      commit (bumpConfigVersion cfg now db)

structure DealUpdate where
  dealName : Option String := none
  billingCycle : Option String := none
  priceMinor : Option ℤ := none
  currency : Option String := none
  pricingModel : Option String := none
  perStudentMinor : Option ℤ := none
  studentCount : Option ℤ := none
  customEntitlements : Option (List (String × Bool)) := none
  customQuotas : Option (List (String × ℤ)) := none
  contractStart : Option Time := none
  contractEnd : Option Time := none
  termStartDates : Option (List Time) := none
  termIntervalMonths : Option ℕ := none
  termCount : Option ℕ := none
  notes : Option String := none
  status : Option String := none
  approvalStatus : Option String := none

def ApprovalStatus.ofString? : String → Option ApprovalStatus
  | "draft" => some .draft
  | "pending" => some .pending
  | "approved" => some .approved
  | "active" => some .active
  | _ => none

def DealUpdate.commercialChange : Bool :=
  body.billingCycle.isSome || body.priceMinor.isSome || body.currency.isSome
    || body.pricingModel.isSome || body.perStudentMinor.isSome || body.studentCount.isSome
    || body.customEntitlements.isSome || body.customQuotas.isSome || body.contractStart.isSome
    || body.contractEnd.isSome || body.termStartDates.isSome || body.termIntervalMonths.isSome
    || body.termCount.isSome

/-- The body's plain fields written to the deal. -/
def DealUpdate.apply (deal : Subscription) : Subscription :=
  { deal with
    dealName := body.dealName.getD deal.dealName
    billingCycle := body.billingCycle.getD deal.billingCycle
    priceMinor := body.priceMinor.or deal.priceMinor
    currency := body.currency.getD deal.currency
    pricingModel := body.pricingModel.getD deal.pricingModel
    perStudentMinor := body.perStudentMinor.or deal.perStudentMinor
    studentCount := body.studentCount.or deal.studentCount
    customEntitlements := body.customEntitlements.or deal.customEntitlements
    customQuotas := body.customQuotas.or deal.customQuotas
    contractStart := body.contractStart.or deal.contractStart
    contractEnd := body.contractEnd.or deal.contractEnd
    notes := body.notes.getD deal.notes
    status := (body.status.map SubscriptionStatus.ofString).getD deal.status
    approvalStatus := (body.approvalStatus.bind ApprovalStatus.ofString?).getD deal.approvalStatus }

def DealUpdate.terms (deal : Subscription) : TermBody :=
  let dates := body.termStartDates.getD []
  let count := match body.termCount with
    | some n => if n = 0 then dates.length else n
    | none => dates.length
  { contractStart := body.contractStart.or deal.contractStart
    termStartDates := body.termStartDates
    termIntervalMonths := body.termIntervalMonths
    termCount := if count = 0 then 3 else count }

/-- The rebuilt schedule of an updated deal, when the body touches the terms. -/
def DealUpdate.reschedule (deal : Subscription) :
    Except String Subscription :=
  if body.termStartDates.isNone ∧ body.termIntervalMonths.isNone ∧ body.termCount.isNone then
    .ok deal
  else
    match buildTermSchedule (body.terms deal) deal.billingCycle with
    | .error detail => .error detail
    | .ok schedule =>
      let contractStart :=
        (body.termStartDates.getD []).head?.or (body.contractStart.or deal.contractStart)
      .ok { deal with billingSchedule := schedule, contractStart, nextInvoiceAt := contractStart }

/-- The cached total of a per-student deal. -/
def cachePrice (deal : Subscription) : Subscription :=
  if (if deal.pricingModel = "" then "flat" else deal.pricingModel) = "per_student"
      ∧ deal.perStudentMinor.getD 0 ≠ 0 ∧ deal.studentCount.getD 0 ≠ 0 then
    { deal with priceMinor := some (deal.perStudentMinor.getD 0 * deal.studentCount.getD 0) }
  else deal

/-- After a commercial change an approved deal needs approval again. -/
def DealUpdate.settle (deal : Subscription) : Subscription :=
  if body.commercialChange
      ∧ (deal.approvalStatus = .approved ∨ deal.approvalStatus = .active) then
    { cachePrice deal with approvalStatus := .pending, status := .trialing, isCurrent := false }
  else cachePrice deal

/-- `PATCH /v1/deals/id`. -/
def updateDeal (dealId : ℕ) (body : DealUpdate) (db : Db) :
    Outcome :=
  match db.subscriptions[dealId]? with
  | none => raise db 404 "Deal not found"
  | some deal =>
    if deal.type ≠ .custom then raise db 404 "Deal not found"
    else if body.status = some "active" ∨ body.approvalStatus = some "approved"
        ∨ body.approvalStatus = some "active" then
      raise db 400 "Use the approval endpoint to activate a deal"
    else if body.pricingModel.any fun model => model ≠ "flat" ∧ model ≠ "per_student" then
      raise db 400 ("Invalid pricing_model: " ++ body.pricingModel.getD "")
    else if body.approvalStatus.any fun text => (ApprovalStatus.ofString? text).isNone then
      raise db 400 ("Invalid approval_status: " ++ body.approvalStatus.getD "")
    else
      match body.reschedule (body.apply deal) with
      | .error detail => raise db 400 detail
      | .ok deal =>
        commit (bumpConfigVersion cfg now
          { db with
            subscriptions := db.subscriptions.modify dealId fun _ => body.settle deal })

end MultiAcademy.Control
