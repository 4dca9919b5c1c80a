import MultiAcademy.Control.BillingRoutes

/-!
# Machine-to-machine endpoints

`routers/internal.py`: what a school server may call with a service token.  A body
that the source reads as a dictionary is a structure whose missing keys have the
source's defaults.
-/

namespace MultiAcademy.Control

open MultiAcademy.Lib

/-- `_tenant_by_ref`: by external id, then by slug, then the client's allowlist. -/
def tenantByRef (db : Db) (tenantRef : String) (svc : ServiceContext) :
    Except (ℕ × String) (ℕ × Tenant) :=
  match ((db.tenants.first? fun t => t.externalId = tenantRef).or
      (db.tenants.first? fun t => t.slug = tenantRef)) with
  | none => .error (404, "Tenant not registered in control plane")
  | some tenantId =>
    match db.tenants[tenantId]? with
    | none => .error (404, "Tenant not registered in control plane")
    | some tenant =>
      if svc.allowedTenantRefs ≠ [] ∧ tenant.externalId ∉ svc.allowedTenantRefs
          ∧ tenant.slug ∉ svc.allowedTenantRefs then
        .error (403, "Service client is not scoped to this tenant")
      else .ok (tenantId, tenant)

/-- A handler for the tenant behind a reference. -/
def forTenant (db : Db) (tenantRef : String) (svc : ServiceContext)
    (handler : ℕ → Tenant → Outcome) : Outcome :=
  match tenantByRef db tenantRef svc with
  | .error (code, detail) => raise db code detail
  | .ok (tenantId, tenant) => handler tenantId tenant

/-! ## Subscriptions and invoices -/

structure CatalogSubscriptionChange where
  planKey : String
  billingCycle : String := "monthly"

/-- The payment-gated subscription a plan change starts. -/
def catalogSubscription (tenantId planId : ℕ) (plan : Plan) (billingCycle : String) :
    Subscription :=
  { tenantId, type := .catalog, planId := some planId, status := .pastDue, billingCycle
    priceMinor := some (if billingCycle = "yearly" then plan.monthlyPriceMinor * 12
      else plan.monthlyPriceMinor)
    currency := plan.currency }

variable (cfg : Settings) (now : Time) (tenantRef : String)

/-- `POST /internal/v1/tenants/ref/subscription`. -/
def changeTenantSubscription
    (body : CatalogSubscriptionChange) (svc : ServiceContext) (db : Db) : Outcome :=
  forTenant db tenantRef svc fun tenantId _ =>
    if body.billingCycle ≠ "monthly" ∧ body.billingCycle ≠ "yearly" then
      raise db 400 "Invalid billing cycle"
    else
      match db.plans.first? fun plan => plan.key = body.planKey ∧ plan.isActive with
      | none => raise db 400 "Unknown or inactive plan"
      | some planId =>
        match db.plans[planId]? with
        | none => raise db 400 "Unknown or inactive plan"
        | some plan =>
          let subscriptionId := db.subscriptions.nextId
          commit (createInvoiceForSubscription now subscriptionId 14 none
            { db with
              subscriptions := (retireCurrent tenantId db.subscriptions).insert
                (catalogSubscription tenantId planId plan body.billingCycle) }).2

structure SettleBody where
  amountMinor : ℤ := 0
  providerReference : String := ""
  providerId : String := ""

def SettleBody.toRow (body : SettleBody) (svc : ServiceContext) (tenantId invoiceId : ℕ)
    (inv : SaasInvoice) : SaasPayment :=
  { invoiceId, tenantId
    amountMinor := body.amountMinor
    currency := inv.currency
    method := "gateway"
    providerId := if body.providerId = "" then "unknown" else body.providerId
    providerReference := body.providerReference
    recordedBy := "m2m:" ++ svc.clientId
    notes := "School SaaS subscription checkout" }

/-- `POST /internal/v1/tenants/ref/invoices/id/settle`. -/
def settleTenantInvoice (invoiceId : ℕ)
    (body : SettleBody) (svc : ServiceContext) (db : Db) : Outcome :=
  forTenant db tenantRef svc fun tenantId _ =>
    match db.invoices[invoiceId]? with
    | none => raise db 404 "Invoice not found"
    | some inv =>
      if inv.tenantId ≠ tenantId then raise db 404 "Invoice not found"
      else if body.providerReference = "" then raise db 422 "Payment reference is required"
      else
        match (db.payments.first? fun payment =>
            payment.providerReference = body.providerReference).bind (db.payments[·]?) with
        | some duplicate =>
          if duplicate.tenantId ≠ tenantId ∨ duplicate.invoiceId ≠ invoiceId then
            raise db 409 "Payment reference already used"
          else commit db
        | none =>
          if body.amountMinor ≤ 0 ∨ outstanding inv < body.amountMinor then
            raise db 422 "Invalid invoice payment amount"
          else
            match recordPayment cfg now (body.toRow svc tenantId invoiceId inv) db with
            | none => raise db 500 "Internal Server Error"
            | some db => commit db

/-! ## Results reported by the school server -/

structure OffboardResultBody where
  result : String := ""
  exportUri : String := ""
  detail : String := ""

/-- `POST /internal/v1/tenants/ref/offboard/job/result`. -/
def offboardResult (jobId : ℕ) (body : OffboardResultBody)
    (svc : ServiceContext) (db : Db) : Outcome :=
  forTenant db tenantRef svc fun tenantId _ =>
    match db.offboardJobs[jobId]? with
    | none => raise db 404 "Offboard job not found"
    | some job =>
      if job.tenantId ≠ tenantId then raise db 404 "Offboard job not found"
      else if body.result = "export_ready" then
        commit { db with
          offboardJobs := db.offboardJobs.modify jobId fun row =>
            { row with
              status := .wipeScheduled
              exportPackageUri :=
                if body.exportUri = "" then row.exportPackageUri else body.exportUri } }
      else if body.result = "wipe_completed" ∨ body.result = "failed" then
        commit (completeOffboardJob jobId (body.result = "wipe_completed") body.detail db)
      else raise db 422 "Unknown offboard result"

def JobStatus.ofReported? : String → Option JobStatus
  | "running" => some .running
  | "succeeded" => some .succeeded
  | "failed" => some .failed
  | _ => none

def SchoolDbStatus.ofString? : String → Option SchoolDbStatus
  | "pending" => some .pending
  | "initializing" => some .initializing
  | "ready" => some .ready
  | "failed" => some .failed
  | _ => none

structure ProvisioningResult where
  status : String
  schoolDbStatus : String
  error : String := ""

/-- `POST /internal/v1/tenants/ref/provision/job/result`. -/
def provisioningResult (jobId : ℕ)
    (body : ProvisioningResult) (svc : ServiceContext) (db : Db) : Outcome :=
  forTenant db tenantRef svc fun tenantId _ =>
    match db.provisioningJobs[jobId]? with
    | none => raise db 404 "Provisioning job not found"
    | some job =>
      if job.tenantId ≠ tenantId then raise db 404 "Provisioning job not found"
      else
        match JobStatus.ofReported? body.status with
        | none => raise db 422 "Unknown provisioning status"
        | some status =>
          match SchoolDbStatus.ofString? body.schoolDbStatus with
          | none => raise db 422 "Unknown school DB status"
          | some schoolDbStatus =>
            if status = .succeeded ∧ schoolDbStatus ≠ .ready then
              raise db 422 "succeeded requires school_db_status=ready"
            else
              commit (applyInitializationResult cfg now tenantId jobId status
                schoolDbStatus body.error db)

/-! ## Registration and activation -/

structure RegisterBody where
  slug : String := ""
  deviceHash : String := ""
  installToken : String := ""
  adminEmail : String := ""
  name : String := ""
  adminPhone : String := ""
  region : String := ""

/-- An active blacklist entry matches on a strong fingerprint, or on two of any. -/
def blocksRegistration (slug email schoolName : String) (entry : SchoolBlacklistEntry) : Bool :=
  let bySlug : Bool := entry.slug ≠ "" ∧ entry.slug = slug
  let byEmail : Bool := entry.adminEmail ≠ "" ∧ entry.adminEmail = email
  let byName : Bool := entry.schoolNameNormalized ≠ "" ∧ entry.schoolNameNormalized = schoolName
  let byDomain : Bool := entry.emailDomain ≠ "" ∧ entry.emailDomain = emailDomain email
  entry.isActive && ((bySlug || byEmail || byName)
    || 2 ≤ ([bySlug, byEmail, byName, byDomain].filter id).length)

/-- The first non-empty text, `a or b`. -/
def orElse (a b : String) : String := if a = "" then b else a

/-- `POST /internal/v1/tenants/ref/register`; `freshToken` is the install token issued
when the body carries none.  A clash on a unique column is an integrity error. -/
def registerTenant (freshToken : String)
    (body : RegisterBody) (db : Db) : Outcome :=
  let slug := lower (strip (orElse body.slug tenantRef))
  let email := lower (strip body.adminEmail)
  let schoolName := lower (strip (orElse body.name tenantRef))
  if db.blacklist.existsRow (blocksRegistration slug email schoolName) then
    raise db 403 "Registration cannot be completed. Please contact support."
  else
    match db.tenants.first? fun t => t.externalId = tenantRef with
    | some tenantId =>
      let (install, db') := ensureInstall cfg tenantId freshToken body.deviceHash db
      if body.installToken ≠ "" ∧ !installMatches cfg install body.installToken body.deviceHash
      then raise db 403 "Installation credentials are invalid"
      else commit db'
    | none =>
      let token := orElse body.installToken freshToken
      if db.tenants.existsRow fun t => t.slug = slug then raise db 500 "Internal Server Error"
      else if db.installs.existsRow fun i => i.installTokenHash = cfg.fingerprint token then
        raise db 500 "Internal Server Error"
      else
        let tenantId := db.tenants.nextId
        commit (ensureInstall cfg tenantId token body.deviceHash
          { db with
            tenants := db.tenants.insert
              { externalId := tenantRef, slug, name := orElse body.name tenantRef
                status := .pendingVerification, statusMessage := "", statusReason := ""
                region := orElse body.region "NG", residencyTag := "NG"
                legalHold := false, legalHoldReason := ""
                adminEmail := email, adminPhone := body.adminPhone
                tags := [], notes := "", courtesyUnlockUntil := none, createdAt := now }
            subscriptions := match db.plans.first? fun plan => plan.key = "basic" with
              | some planId => db.subscriptions.insert
                  { tenantId, type := .catalog, planId := some planId, status := .trialing
                    notes := "Automatic one-time 90-day onboarding trial" }
              | none => db.subscriptions }).2

/-- `POST /internal/v1/tenants/ref/activate`. -/
def activateTenant (svc : ServiceContext)
    (db : Db) : Outcome :=
  forTenant db tenantRef svc fun tenantId tenant =>
    if tenant.status = .blacklisted then raise db 403 "Tenant is blacklisted"
    else if tenant.status ≠ .pendingVerification ∧ tenant.status ≠ .provisioning
        ∧ tenant.status ≠ .active then
      raise db 409 "Tenant cannot be activated from its current state"
    else
      commit (initializeTrialOnce cfg now tenantId
        { db with
          tenants :=
            if tenant.status ≠ .active then db.tenants.modify tenantId lift else db.tenants })

end MultiAcademy.Control
