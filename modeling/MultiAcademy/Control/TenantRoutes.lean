import MultiAcademy.Control.Billing
import MultiAcademy.Control.Lifecycle

/-!
# The tenant endpoints

`routers/tenants.py`: one handler per mutating endpoint.  A request body that the
schema bounds carries its bounds as fields, so a handler is only ever given a body
that validation let through.  Hostnames of a tenant are not modelled: no function
here reads them.
-/

namespace MultiAcademy.Control

open MultiAcademy.Lib

variable (cfg : Settings) (now : Time) (tenantId : ℕ)

/-- `create_request`: queue a dual-control request; the request's id. -/
def createRequest (staff : StaffContext) (action : DualAction)
    (targetType : String) (targetId : TargetId) (payload : DualPayload) (reason : String)
    (db : Db) : ℕ × Db :=
  (db.dualRequests.nextId,
    { db with
      dualRequests := db.dualRequests.insert
        { action, targetType, targetId, payload, reason
          requestedBy := staff.email
          requestedById := staff.id
          expiresAt := some (now + Time.hours cfg.dualControlExpiryHours) } })

/-! ## Creating and editing a tenant -/

/-- `[a-z0-9](?:[a-z0-9-]{0,61}[a-z0-9])?`, matched in full. -/
def isDnsLabel (s : String) : Bool :=
  let alnum (c : Char) : Bool := ('a' ≤ c && c ≤ 'z') || ('0' ≤ c && c ≤ '9')
  let cs := s.toList
  cs.head?.any alnum && cs.getLast?.any alnum && cs.length ≤ 63
    && cs.all fun c => alnum c || c = '-'

structure TenantCreate where
  externalId : String
  slug : String
  name : String
  region : String := "NG"
  residencyTag : String := "NG"
  adminEmail : String := ""
  adminPhone : String := ""
  planKey : Option String := some "basic"

/-- `POST /v1/tenants`. -/
def createTenant (body : TenantCreate) (db : Db) : Outcome :=
  let slug := lower (strip body.slug)
  if !isDnsLabel slug then raise db 422 "slug must be a lowercase DNS label"
  else if db.blacklist.existsRow fun entry => entry.isActive ∧ entry.slug = slug then
    raise db 403 "Registration is blocked for this school"
  else if db.tenants.existsRow fun t => t.slug = slug ∨ t.externalId = body.externalId then
    raise db 409 "Tenant slug or external id already exists"
  else
    let tenantId := db.tenants.nextId
    let created :=
      { db with
        tenants := db.tenants.insert
          { externalId := body.externalId, slug, name := body.name, status := .active
            statusMessage := "", statusReason := "", region := body.region
            residencyTag := if body.residencyTag ≠ "" then body.residencyTag
              else if body.region ≠ "" then body.region else "NG"
            legalHold := false, legalHoldReason := ""
            adminEmail := body.adminEmail, adminPhone := body.adminPhone
            tags := [], notes := "", courtesyUnlockUntil := none, createdAt := now } }
    match body.planKey with
    | none => commit (bumpConfigVersion cfg now created)
    | some planKey =>
      if planKey = "" then commit (bumpConfigVersion cfg now created)
      else
        match db.plans.first? fun plan => plan.key = planKey with
        | none => raise db 400 s!"Unknown plan: {planKey}"
        | some planId =>
          commit (bumpConfigVersion cfg now
            { created with
              subscriptions := db.subscriptions.insert
                { tenantId, type := .catalog, planId := some planId } })

structure TenantUpdate where
  name : Option String := none
  region : Option String := none
  residencyTag : Option String := none
  legalHold : Option Bool := none
  legalHoldReason : Option String := none
  adminEmail : Option String := none
  adminPhone : Option String := none
  tags : Option (List String) := none
  notes : Option String := none

/-- `PATCH /v1/tenants/id`. -/
def updateTenant (body : TenantUpdate) (db : Db) : Outcome :=
  match db.tenants[tenantId]? with
  | none => raise db 404 "Tenant not found"
  | some _ =>
    commit { db with
      tenants := db.tenants.modify tenantId fun t =>
        { t with
          name := body.name.getD t.name
          region := body.region.getD t.region
          residencyTag := body.residencyTag.getD t.residencyTag
          legalHold := body.legalHold.getD t.legalHold
          legalHoldReason := body.legalHoldReason.getD t.legalHoldReason
          adminEmail := body.adminEmail.getD t.adminEmail
          adminPhone := body.adminPhone.getD t.adminPhone
          tags := body.tags.getD t.tags
          notes := body.notes.getD t.notes } }

/-! ## Status -/

def TenantStatus.ofString? : String → Option TenantStatus
  | "pending_verification" => some .pendingVerification
  | "active" => some .active
  | "suspended" => some .suspended
  | "restricted" => some .restricted
  | "blacklisted" => some .blacklisted
  | "provisioning" => some .provisioning
  | "archived" => some .archived
  | _ => none

structure TenantStatusChange where
  status : String
  reason : String := ""
  message : String := ""

/-- `POST /v1/tenants/id/status`. -/
def changeStatus (body : TenantStatusChange)
    (db : Db) : Outcome :=
  match TenantStatus.ofString? body.status with
  | none =>
    let text := body.status
    raise db 400 s!"Unknown status: {text}"
  | some status =>
    if status = .blacklisted then raise db 400 "Use POST /\x7bid\x7d/blacklist"
    else if body.reason = "" then raise db 400 "Reason required for status changes"
    else
      match db.tenants[tenantId]? with
      | none => raise db 404 "Tenant not found"
      | some _ =>
        commit (bumpConfigVersion cfg now
          { db with
            tenants := db.tenants.modify tenantId fun t =>
              { t with
                status
                statusMessage := body.message
                statusReason := truncate 32 body.reason } })

structure BlacklistRequest where
  reason : String
  evidence : String := ""
  severity : String := "high"
  permanent : Bool := true
  reviewBy : Option Time := none

def isCurrentOf (sub : Subscription) : Bool :=
  sub.tenantId = tenantId ∧ sub.isCurrent

def cancelBlacklisted (sub : Subscription) : Subscription :=
  { sub with status := .cancelledBlacklisted }

/-- The fingerprints both blacklisting paths record. -/
def blacklistEntry (tenant : Tenant) (reason evidence severity : String)
    (permanent : Bool) (reviewBy : Option Time) (createdBy : String) : SchoolBlacklistEntry :=
  { tenantId
    schoolNameNormalized := lower (strip tenant.name)
    slug := tenant.slug
    adminEmail := lower tenant.adminEmail
    emailDomain := lower (emailDomain tenant.adminEmail)
    phone := tenant.adminPhone
    reason, evidence, severity, permanent, reviewBy, createdBy }

/-- `POST /v1/tenants/id/blacklist`. -/
def blacklistTenant (staff : StaffContext) (tenantId : ℕ)
    (body : BlacklistRequest) (db : Db) : Outcome :=
  match db.tenants[tenantId]? with
  | none => raise db 404 "Tenant not found"
  | some tenant =>
    if dualControlEnabled cfg then
      let (reqId, db) := createRequest cfg now staff .tenantBlacklist "tenant" (.row tenantId)
        { evidence := some body.evidence, severity := some body.severity
          permanent := some body.permanent } body.reason db
      ⟨db, .error 202 s!"Dual-control required for blacklist. Pending approval id={reqId}"⟩
    else
      commit (bumpConfigVersion cfg now
        { db with
          tenants := db.tenants.modify tenantId fun t =>
            { t with
              status := .blacklisted
              statusMessage :=
                "This school has been blocked from the platform. Contact support." }
          subscriptions := db.subscriptions.updateWhere (isCurrentOf tenantId) cancelBlacklisted
          blacklist := db.blacklist.insert
            (blacklistEntry tenantId tenant body.reason body.evidence body.severity
              body.permanent body.reviewBy staff.email) })

/-- The tenant's blacklist entries in force. -/
def activeEntryOf (entry : SchoolBlacklistEntry) : Bool :=
  entry.tenantId = tenantId ∧ entry.isActive

def deactivate (entry : SchoolBlacklistEntry) : SchoolBlacklistEntry :=
  { entry with isActive := false }

/-- `POST /v1/tenants/id/unblacklist`. -/
def unblacklistTenant (staff : StaffContext) (tenantId : ℕ)
    (reason : String) (db : Db) : Outcome :=
  if reason = "" then raise db 400 "Reason required"
  else
    match db.tenants[tenantId]? with
    | none => raise db 404 "Tenant not found"
    | some _ =>
      if dualControlEnabled cfg then
        let (reqId, db) := createRequest cfg now staff .tenantUnblacklist "tenant"
          (.row tenantId) {} reason db
        ⟨db, .error 202
          s!"Dual-control required for un-blacklist. Pending approval id={reqId}"⟩
      else
        commit (bumpConfigVersion cfg now
          { db with
            tenants := db.tenants.modify tenantId fun t =>
              { t with status := .active, statusMessage := "" }
            blacklist := db.blacklist.updateWhere (activeEntryOf tenantId) deactivate })

/-! ## Offboarding -/

/-- The body of an offboarding request, with the bounds the schema puts on it. -/
structure OffboardCreate where
  notes : String := ""
  wipeInDays : ℤ := 30
  reason : String := ""
  wipe_ge : 1 ≤ wipeInDays := by decide
  wipe_le : wipeInDays ≤ 365 := by decide

/-- `POST /v1/tenants/id/offboard`. -/
def scheduleOffboard (staff : StaffContext) (tenantId : ℕ)
    (body : OffboardCreate) (db : Db) : Outcome :=
  if strip body.reason = "" then raise db 400 "Reason is required to offboard a tenant"
  else
    match db.tenants[tenantId]? with
    | none => raise db 404 "Tenant not found"
    | some tenant =>
      if tenant.legalHold then
        let why := if tenant.legalHoldReason = "" then "no reason" else tenant.legalHoldReason
        let notes := body.notes
        commit { db with
          offboardJobs := db.offboardJobs.insert
            { tenantId, status := .blockedLegalHold, legalHoldBlocked := true
              notes := s!"Legal hold: {why}. {notes}", createdBy := staff.email } }
      else if dualControlEnabled cfg then
        let (reqId, db) := createRequest cfg now staff .tenantOffboard "tenant" (.row tenantId)
          { wipeInDays := some body.wipeInDays, notes := some body.notes } body.reason db
        ⟨db, .error 202
          s!"Dual-control required to offboard a tenant. Pending approval id={reqId}"⟩
      else
        commit (scheduleOffboardJob cfg now tenantId tenant body.wipeInDays body.notes
          staff.email db db)

def OffboardStatus.text : OffboardStatus → String
  | .scheduled => "scheduled"
  | .exportPending => "export_pending"
  | .wipeScheduled => "wipe_scheduled"
  | .wipeDispatched => "wipe_dispatched"
  | .completed => "completed"
  | .failed => "failed"
  | .cancelled => "cancelled"
  | .blockedLegalHold => "blocked_legal_hold"

/-- `POST /v1/tenants/id/offboard/job/cancel`. -/
def cancelOffboard (tenantId jobId : ℕ) (reason : String)
    (db : Db) : Outcome :=
  if strip reason = "" then raise db 400 "Reason required"
  else
    match db.tenants[tenantId]? with
    | none => raise db 404 "Tenant not found"
    | some _ =>
      match db.offboardJobs[jobId]? with
      | none => raise db 404 "Offboard job not found"
      | some job =>
        if job.tenantId ≠ tenantId then raise db 404 "Offboard job not found"
        else if job.status = .completed ∨ job.status = .wipeDispatched then
          raise db 409 ("Job is " ++ job.status.text
            ++ " — the wipe has already been dispatched and cannot be recalled")
        else commit (cancelOffboardJob cfg now jobId reason db)

/-! ## Provisioning, trials and subscriptions -/

def TenantStatus.text : TenantStatus → String
  | .pendingVerification => "pending_verification"
  | .active => "active"
  | .suspended => "suspended"
  | .restricted => "restricted"
  | .blacklisted => "blacklisted"
  | .provisioning => "provisioning"
  | .archived => "archived"

/-- `POST /v1/tenants/id/provision`; `idempotencyKey` is the body's, or a fresh one. -/
def provisionTenant (staff : StaffContext) (tenantId : ℕ)
    (idempotencyKey : String) (db : Db) : Outcome :=
  match db.tenants[tenantId]? with
  | none => raise db 404 "Tenant not found"
  | some tenant =>
    if tenant.status = .provisioning ∨ tenant.status = .active ∨ tenant.status = .archived then
      commit (bumpConfigVersion cfg now
        (queueInitialization cfg now tenantId staff.email staff.id idempotencyKey db).2)
    else raise db 400 ("Cannot provision from status " ++ tenant.status.text)

structure TrialUpdate where
  durationDays : Option ℤ := none
  endsAt : Option Time := none
  enabled : Option Bool := none
  reason : String := ""
  duration_ge : ∀ d ∈ durationDays, 1 ≤ d := by simp
  duration_le : ∀ d ∈ durationDays, d ≤ 3650 := by simp

/-- `notes ILIKE '%Automatic one-time%'`. -/
def isOnboardingTrial (sub : Subscription) : Bool :=
  (lower sub.notes).toList.tails.any fun cs => "automatic one-time".toList.isPrefixOf cs

/-- `trial.ends_at` and `trial.duration_days` after the body. -/
def retime (body : TrialUpdate) (trial : TenantTrial) : TenantTrial :=
  let trial := match body.durationDays with
    | some d => { trial with durationDays := d, endsAt := trial.startedAt + Time.days d }
    | none => trial
  { trial with endsAt := body.endsAt.getD trial.endsAt }

/-- Switching a trial back on, when it has not ended. -/
def enableTrial (trialId tenantId : ℕ) (db : Db) : Db :=
  { db with
    trials := db.trials.modify trialId fun row => { row with status := .active }
    subscriptions := match db.subscriptions.first? fun sub =>
        sub.tenantId = tenantId ∧ sub.isCurrent ∧ sub.status = .cancelled
          ∧ isOnboardingTrial sub with
      | some subscriptionId => db.subscriptions.modify subscriptionId fun sub =>
        { sub with status := .trialing }
      | none => db.subscriptions
    tenants := db.tenants.modify tenantId fun t =>
      if (t.status = .restricted ∨ t.status = .suspended)
          ∧ (t.statusReason = "trial_expired" ∨ t.statusReason = "trial_manual") then lift t
      else t }

def restrictManually (tenant : Tenant) : Tenant :=
  { tenant with
    status := .restricted
    statusReason := "trial_manual"
    statusMessage := "Trial access has been disabled by platform support." }

/-- The tenant has a current subscription in status `active`. -/
def hasActiveSubscription (db : Db) (tenantId : ℕ) : Bool :=
  db.subscriptions.existsRow fun sub =>
    sub.tenantId = tenantId ∧ sub.isCurrent ∧ sub.status = .active

def disableTrial (trialId tenantId : ℕ) (db : Db) : Db :=
  { db with
    trials := db.trials.modify trialId fun row => { row with status := .disabled }
    subscriptions := match db.subscriptions.first? fun sub =>
        sub.tenantId = tenantId ∧ sub.isCurrent ∧ sub.status = .trialing
          ∧ isOnboardingTrial sub with
      | some subscriptionId => db.subscriptions.modify subscriptionId fun sub =>
        { sub with status := .cancelled }
      | none => db.subscriptions
    tenants :=
      if hasActiveSubscription db tenantId then db.tenants
      else db.tenants.modify tenantId restrictManually }

/-- The trial's row with its new dates and switch. -/
def retimeTrial (trialId : ℕ) (body : TrialUpdate) (db : Db) : Db :=
  { db with
    trials := db.trials.modify trialId fun row =>
      { retime body row with enabled := body.enabled.getD row.enabled } }

/-- What the body does to the trial and, when it switches it, to the tenant. -/
def applyTrialUpdate (trialId tenantId : ℕ) (body : TrialUpdate) (db : Db) : Db :=
  let retimed := retimeTrial trialId body db
  match body.enabled with
  | none => retimed
  | some true =>
    if (retimed.trials[trialId]?).any fun row => row.endsAt ≤ now then retimed
    else enableTrial trialId tenantId retimed
  | some false => disableTrial trialId tenantId retimed

/-- `PATCH /v1/tenants/id/trial`. -/
def updateTrial (body : TrialUpdate) (db : Db) :
    Outcome :=
  match db.tenants[tenantId]? with
  | none => raise db 404 "Tenant not found"
  | some tenant =>
    let initialized := initializeTrialOnce cfg now tenantId db
    match initialized.trials.first? fun trial => trial.tenantId = tenantId with
    | none => raise db 500 "Internal Server Error"
    | some trialId =>
      commit (enqueueOutbox cfg now "config.invalidate" "tenant" tenant.externalId
        [("tenantId", tenant.externalId), ("reason", "trial_update")]
        (bumpConfigVersion cfg now
          (applyTrialUpdate now trialId tenantId body initialized)))

structure SubscriptionCreate where
  type : String := "catalog"
  planKey : Option String := none
  billingCycle : String := "monthly"
  priceMinor : Option ℤ := none
  currency : String := "NGN"
  customEntitlements : Option (List (String × Bool)) := none
  customQuotas : Option (List (String × ℤ)) := none
  contractStart : Option Time := none
  contractEnd : Option Time := none
  notes : String := ""
  dealName : String := ""

def retireCurrent (subs : Table Subscription) : Table Subscription :=
  subs.updateWhere (isCurrentOf tenantId) fun sub => { sub with isCurrent := false }

/-- The row `create_subscription` inserts; the body's pricing model is not stored. -/
def SubscriptionCreate.toRow (body : SubscriptionCreate) (tenantId : ℕ)
    (type : SubscriptionType) (planId : Option ℕ) : Subscription :=
  { tenantId, type, planId
    billingCycle := body.billingCycle
    priceMinor := body.priceMinor
    currency := body.currency
    customEntitlements := body.customEntitlements
    customQuotas := body.customQuotas
    contractStart := body.contractStart
    contractEnd := body.contractEnd
    notes := body.notes
    dealName := body.dealName }

/-- `POST /v1/tenants/id/subscriptions`. -/
def createSubscription (body : SubscriptionCreate)
    (db : Db) : Outcome :=
  match db.tenants[tenantId]? with
  | none => raise db 404 "Tenant not found"
  | some _ =>
    let store (type : SubscriptionType) (planId : Option ℕ) : Outcome :=
      commit (bumpConfigVersion cfg now
        { db with
          subscriptions := (retireCurrent tenantId db.subscriptions).insert
            (body.toRow tenantId type planId) })
    if body.type = "catalog" then
      match body.planKey with
      | none => raise db 400 "plan_key required for catalog subscriptions"
      | some planKey =>
        if planKey = "" then raise db 400 "plan_key required for catalog subscriptions"
        else
          match db.plans.first? fun plan => plan.key = planKey with
          | none => raise db 400 s!"Unknown plan: {planKey}"
          | some planId => store .catalog (some planId)
    else if body.type = "custom" then store .custom none
    else raise db 400 "type must be catalog or custom"

end MultiAcademy.Control
