import MultiAcademy.Control.Schema

/-!
# Trials, provisioning and offboarding

`services/trials.py`, `services/provisioning.py` and `services/offboarding.py`: the
parts of a tenant's life that are not billing, and the passes that end them.
-/

namespace MultiAcademy.Control

open MultiAcademy.Lib

/-! ## Trials -/

def defaultTrialDays : ℤ := 90

/-- The trial of a tenant; the table holds at most one. -/
def trialOf (db : Db) (tenantId : ℕ) : Option TenantTrial :=
  (db.trials.first? fun trial => trial.tenantId = tenantId).bind (db.trials[·]?)

variable (cfg : Settings) (now : Time) (tenantId : ℕ)

def initializeTrialOnce (db : Db) : Db :=
  if db.trials.existsRow fun trial => trial.tenantId = tenantId then db
  else
    let externalId := ((db.tenants[tenantId]?).map (·.externalId)).getD ""
    let endsAt := now + Time.days defaultTrialDays
    enqueueOutbox cfg now "tenant.trial.started" "tenant" externalId
      [("tenantId", externalId), ("startedAt", isoformat now), ("endsAt", isoformat endsAt),
        ("durationDays", .number defaultTrialDays)]
      { db with
        trials := db.trials.insert
          { tenantId, durationDays := defaultTrialDays, enabled := true, status := .active
            startedAt := now, endsAt } }

/-- The subscription an expiring trial cancels. -/
def isTrialing (sub : Subscription) : Bool :=
  sub.tenantId = tenantId ∧ sub.isCurrent ∧ sub.status = .trialing

def cancelAtTrialEnd (sub : Subscription) : Subscription :=
  { sub with
    status := .cancelled
    notes := strip (sub.notes ++ " Trial expired at " ++ isoformat now) }

def restrictAtTrialEnd (tenant : Tenant) : Tenant :=
  { tenant with
    status := .restricted
    statusReason := "trial_expired"
    statusMessage := "Your trial has expired. Please contact support to continue." }

/-- A due trial of `run_trial_pass`: the grant, its subscription and, when the tenant
is active, the tenant. -/
def expireTrial (trialId : ℕ) (trial : TenantTrial)
    (tenant : Tenant) (db : Db) : Db :=
  let db :=
    { db with
      trials := db.trials.modify trialId fun row =>
        { row with status := .expired, expiredAt := some now }
      subscriptions := match db.subscriptions.first? (isTrialing trial.tenantId) with
        | some subscriptionId => db.subscriptions.modify subscriptionId (cancelAtTrialEnd now)
        | none => db.subscriptions }
  let db :=
    if tenant.status = .active then
      bumpConfigVersion cfg now
        { db with tenants := db.tenants.modify trial.tenantId restrictAtTrialEnd }
    else db
  enqueueOutbox cfg now "config.invalidate" "tenant" tenant.externalId
    [("tenantId", tenant.externalId), ("reason", "trial_expired")]
    (enqueueOutbox cfg now "trial.notification" "tenant" tenant.externalId
      [("tenantId", tenant.externalId), ("adminEmail", tenant.adminEmail),
        ("title", "Your school trial has expired"),
        ("message", "Your 90-day free trial has ended. Please contact support or activate a valid subscription to restore access."),
        ("endsAt", isoformat trial.endsAt)] db)

/-- A reminder of `run_trial_pass`, `days` before the end. -/
def remind (days : ℤ) (trial : TenantTrial) (tenant : Tenant)
    (db : Db) : Db :=
  let plural := if days = 1 then "" else "s"
  let endDate := isoDate trial.endsAt
  enqueueOutbox cfg now "trial.notification" "tenant" tenant.externalId
    [("tenantId", tenant.externalId), ("adminEmail", tenant.adminEmail),
      ("title", s!"Your school trial expires in {days} day{plural}"),
      ("message", s!"Your school trial expires on {endDate}. Please activate a subscription before then to avoid interruption."),
      ("daysRemaining", .number days), ("endsAt", isoformat trial.endsAt)] db

/-- The counters `run_trial_pass` returns. -/
structure TrialCounts where
  reminders : ℕ := 0
  expired : ℕ := 0
  deriving DecidableEq

/-- One reminder: the grant is stamped and the notification counted. -/
def sendReminder (days : ℤ) (trialId : ℕ) (trial : TenantTrial)
    (tenant : Tenant) (stamp : TenantTrial → TenantTrial) (acc : TrialCounts × Db) :
    TrialCounts × Db :=
  ({ acc.1 with reminders := acc.1.reminders + 1 },
    remind cfg now days trial tenant
      { acc.2 with trials := acc.2.trials.modify trialId stamp })

def sendReminders (trialId : ℕ) (trial : TenantTrial)
    (tenant : Tenant) (acc : TrialCounts × Db) : TrialCounts × Db :=
  let acc :=
    if trial.status = .active ∧ trial.reminder7SentAt = none
        ∧ trial.endsAt - Time.days 7 ≤ now then
      sendReminder cfg now 7 trialId trial tenant
        (fun row => { row with reminder7SentAt := some now }) acc
    else acc
  if trial.status = .active ∧ trial.reminder1SentAt = none
      ∧ trial.endsAt - Time.days 1 ≤ now then
    sendReminder cfg now 1 trialId trial tenant
      (fun row => { row with reminder1SentAt := some now }) acc
  else acc

/-- One trial of `run_trial_pass`. -/
def trialStep (acc : TrialCounts × Db) (trialId : ℕ) :
    TrialCounts × Db :=
  match acc.2.trials[trialId]? with
  | none => acc
  | some trial =>
    match acc.2.tenants[trial.tenantId]? with
    | none => acc
    | some tenant =>
      if trial.status = .active ∧ trial.endsAt ≤ now then
        ({ acc.1 with expired := acc.1.expired + 1 },
          expireTrial cfg now trialId trial tenant acc.2)
      else sendReminders cfg now trialId trial tenant acc

def runTrialPass (db : Db) : TrialCounts × Db :=
  (db.trials.select (·.enabled)).foldl (trialStep cfg now) ({}, db)

/-- The tenant's trial is enabled and active. -/
def onTrial (db : Db) (tenantId : ℕ) : Bool :=
  (trialOf db tenantId).any fun trial => trial.enabled && trial.status = .active

/-- The tenant has a current subscription that is active or trialing. -/
def subscribed (db : Db) (tenantId : ℕ) : Bool :=
  db.subscriptions.existsRow fun sub =>
    sub.tenantId = tenantId ∧ sub.isCurrent ∧ (sub.status = .active ∨ sub.status = .trialing)

def graceExpired (tenant : Tenant) : Tenant :=
  { tenant with
    status := .suspended
    statusReason := "billing_grace_expired"
    statusMessage := "This school is suspended because it has no active subscription." }

/-- The tenants `run_unsubscribed_pass` scans. -/
def unsubscribedCandidate (graceDays : ℤ) (tenant : Tenant) : Bool :=
  tenant.status = .active && tenant.createdAt ≤ now - Time.days (max 1 graceDays)

/-- One tenant of `run_unsubscribed_pass`. -/
def unsubscribedStep (acc : ℕ × Db) (tenantId : ℕ) : ℕ × Db :=
  let db := acc.2
  if onTrial db tenantId || subscribed db tenantId then acc
  else
    let externalId := ((db.tenants[tenantId]?).map (·.externalId)).getD ""
    let adminEmail := ((db.tenants[tenantId]?).map (·.adminEmail)).getD ""
    (acc.1 + 1,
      enqueueOutbox cfg now "config.invalidate" "tenant" externalId
        [("tenantId", externalId), ("reason", "billing_grace_expired")]
        (enqueueOutbox cfg now "billing.notification" "tenant" externalId
          [("tenantId", externalId), ("adminEmail", adminEmail),
            ("title", "School account suspended"),
            ("message", "Your school account has been suspended because the grace period ended without an active subscription.")]
          (bumpConfigVersion cfg now
            { db with tenants := db.tenants.modify tenantId graceExpired })))

/-- `run_unsubscribed_pass`: suspend active tenants with neither a trial nor a valid
subscription. -/
def runUnsubscribedPass (graceDays : ℤ) (db : Db) : ℕ × Db :=
  (db.tenants.select (unsubscribedCandidate now graceDays)).foldl
    (unsubscribedStep cfg now) (0, db)

/-! ## Installations -/

def installMatches (install : TenantInstall) (token deviceHash : String) : Bool :=
  install.revokedAt.isNone && install.installTokenHash = cfg.fingerprint token
    && (install.deviceHash = "" || install.deviceHash = cfg.fingerprint deviceHash
      || install.deviceHash = strip deviceHash)

/-- `ensure_install`: the tenant's installation, created with `token` when missing. -/
def ensureInstall (token deviceHash : String) (db : Db) :
    TenantInstall × Db :=
  match (db.installs.first? fun row => row.tenantId = tenantId).bind (db.installs[·]?) with
  | some row => (row, db)
  | none =>
    let row : TenantInstall :=
      { tenantId, installTokenHash := cfg.fingerprint token
        deviceHash := if deviceHash = "" then "" else cfg.fingerprint deviceHash }
    (row, { db with installs := db.installs.insert row })

/-! ## Provisioning -/

def provisioningPending (tenant : Tenant) : Tenant :=
  { tenant with
    status := .provisioning
    statusMessage := "School database initialization is pending."
    statusReason := "provisioning" }

/-- `queue_initialization`: the job's id and whether it was created. -/
def queueInitialization
    (requestedBy requestedById idempotencyKey : String) (db : Db) : (ℕ × Bool) × Db :=
  match db.provisioningJobs.first? fun job =>
      job.tenantId = tenantId ∧ job.idempotencyKey = idempotencyKey with
  | some jobId => ((jobId, false), db)
  | none =>
    let jobId := db.provisioningJobs.nextId
    let externalId := ((db.tenants[tenantId]?).map (·.externalId)).getD ""
    let slug := ((db.tenants[tenantId]?).map (·.slug)).getD ""
    let db :=
      { db with
        provisioningJobs := db.provisioningJobs.insert
          { tenantId, status := .queued, schoolDbStatus := .pending, idempotencyKey
            requestedBy, requestedById }
        tenants := db.tenants.modify tenantId provisioningPending }
    ((jobId, true),
      enqueueOutbox cfg now "tenant.initialization.requested" "tenant_provisioning_job"
        (toString (publicId jobId))
        [("schemaVersion", .number 1), ("event", "tenant.initialization.requested"),
          ("jobId", .number (publicId jobId)), ("tenantId", externalId), ("tenantSlug", slug),
          ("defaultsVersion", "v1")] db)

def provisioningFailed (tenant : Tenant) : Tenant :=
  { tenant with
    status := .provisioning
    statusMessage := "School database initialization failed."
    statusReason := "provisioning" }

/-- The reported result on the job's row. -/
def recordResult (status : JobStatus) (schoolDbStatus : SchoolDbStatus)
    (error : String) (job : TenantProvisioningJob) : TenantProvisioningJob :=
  { job with
    status, schoolDbStatus
    error := truncate 4000 error
    completedAt := if status = .succeeded ∨ status = .failed then some now else job.completedAt }

def applyInitializationResult (tenantId jobId : ℕ)
    (status : JobStatus) (schoolDbStatus : SchoolDbStatus) (error : String) (db : Db) : Db :=
  let db :=
    { db with
      provisioningJobs := db.provisioningJobs.modify jobId
        (recordResult now status schoolDbStatus error) }
  if status = .succeeded ∧ schoolDbStatus = .ready then
    initializeTrialOnce cfg now tenantId { db with tenants := db.tenants.modify tenantId lift }
  else if status = .failed then
    { db with tenants := db.tenants.modify tenantId provisioningFailed }
  else db

/-! ## Offboarding -/

/-- The statuses of a job that is still on its way to a wipe. -/
def activeJob (job : TenantOffboardJob) : Bool :=
  job.status = .scheduled || job.status = .exportPending || job.status = .wipeScheduled

def archiveForOffboarding (wipeAt : Time) (tenant : Tenant) : Tenant :=
  { tenant with
    status := .archived
    statusMessage := "Offboarding scheduled — data wipe on " ++ isoDate wipeAt
    statusReason := "offboarding" }

/-- The tenant's job that is still on its way to a wipe. -/
def activeJobOf (db : Db) (tenantId : ℕ) : Option ℕ :=
  db.offboardJobs.first? fun job => job.tenantId = tenantId ∧ activeJob job

/-- The writes of a new offboarding, in a session that has read the tenant and the
config version. -/
def openOffboardJob (tenant : Tenant) (version : ℕ)
    (wipeInDays : ℤ) (notes createdBy : String) (db : Db) : Db :=
  let wipeAt := now + Time.days wipeInDays
  let jobId := db.offboardJobs.nextId
  let slug := tenant.slug
  bumpFrom cfg now version
    (enqueueOutbox cfg now "tenant.offboard.export_requested" "tenant"
      (toString (publicId tenantId))
      [("tenantId", .number (publicId tenantId)), ("tenantRef", tenant.externalId),
        ("slug", slug), ("jobId", .number (publicId jobId)), ("wipeScheduledAt", isoformat wipeAt)]
      { db with
        offboardJobs := db.offboardJobs.insert
          { tenantId, status := .exportPending
            exportPackageUri := s!"stub://exports/tenant-{slug}-{tenantId}.zip"
            wipeScheduledAt := some wipeAt, notes, createdBy }
        tenants := db.tenants.modify tenantId (archiveForOffboarding wipeAt) })

/-- `schedule_offboard_job`: create, or return, the tenant's active job; the writes. -/
def scheduleOffboardJob (tenant : Tenant)
    (wipeInDays : ℤ) (notes createdBy : String) (db : Db) : Db → Db :=
  match activeJobOf db tenantId with
  | some _ => id
  | none => openOffboardJob cfg now tenantId tenant db.configVersion wipeInDays notes createdBy

def cancelOffboardJob (jobId : ℕ) (reason : String) (db : Db) : Db :=
  match db.offboardJobs[jobId]? with
  | none => db
  | some job =>
    if job.status = .completed ∨ job.status = .cancelled then db
    else
      let db :=
        { db with
          offboardJobs := db.offboardJobs.modify jobId fun row =>
            { row with
              status := .cancelled
              notes := strip (row.notes ++ "\nCancelled: " ++ reason) } }
      let db :=
        if (db.tenants[job.tenantId]?).any fun tenant => tenant.statusReason = "offboarding" then
          bumpConfigVersion cfg now
            { db with tenants := db.tenants.modify job.tenantId lift }
        else db
      enqueueOutbox cfg now "tenant.offboard.cancelled" "tenant"
        (toString (publicId job.tenantId))
        [("tenantId", .number (publicId job.tenantId)), ("jobId", .number (publicId jobId)),
          ("reason", reason)] db

/-- The jobs `dispatch_due_wipes` selects, before its limit. -/
def wipeDue (job : TenantOffboardJob) : Bool :=
  job.status = .wipeScheduled && job.wipeScheduledAt.any fun due => due ≤ now

/-- The request `dispatch_due_wipes` sends to the school server. -/
def requestWipe (jobId : ℕ) (job : TenantOffboardJob)
    (tenant : Tenant) (db : Db) : Db :=
  enqueueOutbox cfg now "tenant.offboard.wipe_requested" "tenant"
    (toString (publicId job.tenantId))
    [("tenantId", .number (publicId job.tenantId)), ("tenantRef", tenant.externalId),
      ("slug", tenant.slug), ("jobId", .number (publicId jobId)),
      ("scheduledAt", job.wipeScheduledAt.elim .null fun due => isoformat due)]
    { db with offboardJobs := db.offboardJobs.modify jobId fun row =>
        { row with status := .wipeDispatched } }

/-- A job that a legal hold, placed since it was scheduled, stops. -/
def blockByHold (tenant : Tenant) (job : TenantOffboardJob) : TenantOffboardJob :=
  let why := if tenant.legalHoldReason = "" then "no reason given" else tenant.legalHoldReason
  { job with
    status := .blockedLegalHold
    legalHoldBlocked := true
    notes := strip (job.notes ++ "\nWipe blocked at dispatch by legal hold: " ++ why) }

/-- A job whose tenant is gone. -/
def cancelOrphan (job : TenantOffboardJob) : TenantOffboardJob :=
  { job with
    status := .cancelled
    notes := strip (job.notes ++ "\nTenant record no longer exists.") }

/-- One job of `dispatch_due_wipes`; the counter is the number of results. -/
def dispatchWipe (acc : ℕ × Db) (jobId : ℕ) : ℕ × Db :=
  let db := acc.2
  match db.offboardJobs[jobId]? with
  | none => acc
  | some job =>
    match db.tenants[job.tenantId]? with
    | none => (acc.1 + 1, { db with offboardJobs := db.offboardJobs.modify jobId cancelOrphan })
    | some tenant =>
      if tenant.legalHold then
        (acc.1 + 1,
          { db with offboardJobs := db.offboardJobs.modify jobId (blockByHold tenant) })
      else (acc.1 + 1, requestWipe cfg now jobId job tenant db)

/-- `dispatch_due_wipes`, at most `limit` jobs. -/
def dispatchDueWipes (limit : ℕ) (db : Db) : ℕ × Db :=
  ((db.offboardJobs.select (wipeDue now)).take limit).foldl (dispatchWipe cfg now) (0, db)

def completeOffboardJob (jobId : ℕ) (ok : Bool) (detail : String) (db : Db) : Db :=
  { db with offboardJobs := db.offboardJobs.modify jobId fun row =>
      { row with
        status := if ok then .completed else .failed
        notes := if detail = "" then row.notes else strip (row.notes ++ "\n" ++ detail) } }

end MultiAcademy.Control
