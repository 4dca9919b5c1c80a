import MultiAcademy.Lib.Calendar
import MultiAcademy.Lib.Table

/-!
# The control plane's tables

The rows the modelled services and routers read or write, and the database that
holds them.  A row's id is its position in its table (`MultiAcademy.Lib.Table`), and
a foreign key is such a position.  Money is in minor units.  A column whose values
the code fixes is an enumeration; a column that an operator may set to any text
keeps that text in an `other` value, or is a `String` where the code only compares
it with a few words.

Audit events are not modelled: nothing here reads them back.
-/

namespace MultiAcademy.Control

open MultiAcademy.Lib

/-- `TENANT_STATUSES`. -/
inductive TenantStatus
  | pendingVerification | active | suspended | restricted | blacklisted | provisioning | archived
  deriving DecidableEq

structure Tenant where
  externalId : String
  slug : String
  name : String
  status : TenantStatus
  statusMessage : String
  /-- Machine-readable cause of a non-active status. -/
  statusReason : String
  region : String
  residencyTag : String
  legalHold : Bool
  legalHoldReason : String
  adminEmail : String
  adminPhone : String
  tags : List String
  notes : String
  /-- Temporary billing unlock (courtesy). -/
  courtesyUnlockUntil : Option Time
  createdAt : Time

/-- `Subscription.status`; the subscriptions router stores any text. -/
inductive SubscriptionStatus
  | active | trialing | pastDue | cancelled | cancelledBlacklisted
  | other (text : String)
  deriving DecidableEq

def SubscriptionStatus.ofString : String → SubscriptionStatus
  | "active" => .active
  | "trialing" => .trialing
  | "past_due" => .pastDue
  | "cancelled" => .cancelled
  | "cancelled_blacklisted" => .cancelledBlacklisted
  | text => .other text

/-- `Subscription.dunning_step`; the subscriptions router stores any text. -/
inductive DunningStep
  | none | pastDue | grace | suspended
  | other (text : String)
  deriving DecidableEq

def DunningStep.ofString : String → DunningStep
  | "none" => .none
  | "past_due" => .pastDue
  | "grace" => .grace
  | "suspended" => .suspended
  | text => .other text

inductive SubscriptionType
  | catalog | custom
  deriving DecidableEq

/-- `APPROVAL_STATUSES` of a deal. -/
inductive ApprovalStatus
  | draft | pending | approved | active
  deriving DecidableEq

structure Plan where
  key : String
  monthlyPriceMinor : ℤ
  currency : String
  isActive : Bool

structure Subscription where
  tenantId : ℕ
  type : SubscriptionType
  planId : Option ℕ := none
  status : SubscriptionStatus := .active
  billingCycle : String := "monthly"
  priceMinor : Option ℤ := none
  currency : String := "NGN"
  pricingModel : String := "flat"
  perStudentMinor : Option ℤ := none
  studentCount : Option ℤ := none
  customEntitlements : Option (List (String × Bool)) := none
  customQuotas : Option (List (String × ℤ)) := none
  contractStart : Option Time := none
  contractEnd : Option Time := none
  notes : String := ""
  isCurrent : Bool := true
  dunningStep : DunningStep := .none
  pastDueAt : Option Time := none
  graceUntil : Option Time := none
  dealName : String := ""
  approvalStatus : ApprovalStatus := .active
  nextInvoiceAt : Option Time := none
  /-- Explicit term dates, when the deal has them. -/
  billingSchedule : Option (List Time) := none

inductive InvoiceStatus
  | draft | open | partiallyPaid | paid | pastDue | void | writtenOff
  deriving DecidableEq

structure SaasInvoice where
  tenantId : ℕ
  subscriptionId : Option ℕ
  number : String
  periodKey : String
  amountMinor : ℤ
  amountPaidMinor : ℤ
  currency : String
  status : InvoiceStatus
  periodStart : Option Time
  periodEnd : Option Time
  dueAt : Option Time
  paidAt : Option Time := none
  notes : String
  taxMinor : ℤ := 0
  taxLabel : String := "VAT"

structure SaasPayment where
  invoiceId : ℕ
  tenantId : ℕ
  amountMinor : ℤ
  currency : String
  method : String
  providerId : String
  providerReference : String
  recordedBy : String
  notes : String

inductive TrialStatus
  | active | expired | disabled
  deriving DecidableEq

structure TenantTrial where
  tenantId : ℕ
  durationDays : ℤ
  enabled : Bool
  status : TrialStatus
  startedAt : Time
  endsAt : Time
  reminder7SentAt : Option Time := none
  reminder1SentAt : Option Time := none
  expiredAt : Option Time := none

structure TenantInstall where
  tenantId : ℕ
  installTokenHash : String
  deviceHash : String
  revokedAt : Option Time := none

inductive JobStatus
  | queued | running | succeeded | failed
  deriving DecidableEq

inductive SchoolDbStatus
  | pending | initializing | ready | failed
  deriving DecidableEq

structure TenantProvisioningJob where
  tenantId : ℕ
  status : JobStatus
  schoolDbStatus : SchoolDbStatus
  idempotencyKey : String
  requestedBy : String
  requestedById : String
  error : String := ""
  completedAt : Option Time := none

inductive OffboardStatus
  | scheduled | exportPending | wipeScheduled | wipeDispatched | completed | failed | cancelled
  | blockedLegalHold
  deriving DecidableEq

structure TenantOffboardJob where
  tenantId : ℕ
  status : OffboardStatus
  exportPackageUri : String := ""
  wipeScheduledAt : Option Time := none
  legalHoldBlocked : Bool := false
  notes : String
  createdBy : String

structure SchoolBlacklistEntry where
  tenantId : ℕ
  schoolNameNormalized : String
  slug : String
  adminEmail : String
  emailDomain : String
  phone : String
  reason : String
  evidence : String
  severity : String
  permanent : Bool
  reviewBy : Option Time := none
  isActive : Bool := true
  createdBy : String

/-- `DUAL_ACTIONS`; the column itself holds any text. -/
inductive DualAction
  | tenantBlacklist | tenantUnblacklist | tenantDestroy | tenantOffboard
  | flagKillSwitch | flagKillSwitchLift | providerSwitchLive | providerSwitchFromLive
  | other (text : String)
  deriving DecidableEq

inductive DualStatus
  | pending | approved | rejected | executed | expired | cancelled
  deriving DecidableEq

/-- A request's `target_id`: the text of a row id, the key of a flag, or the
`new:capability:tenant` placeholder of a provider that has no row yet. -/
inductive TargetId
  | row (id : ℕ)
  | flag (key : String)
  | newProvider (capability : String) (tenantId : Option ℕ)
  deriving DecidableEq

/-- The JSON payload of a request; a key the request does not carry is `none`. -/
structure DualPayload where
  evidence : Option String := none
  severity : Option String := none
  permanent : Option Bool := none
  wipeInDays : Option ℤ := none
  notes : Option String := none
  enabled : Option Bool := none
  providerId : Option String := none
  settings : Option (List (String × String)) := none
  capability : Option String := none
  tenantId : Option ℕ := none
  mode : Option String := none

structure DualControlRequest where
  action : DualAction
  targetType : String
  targetId : TargetId
  payload : DualPayload
  reason : String
  status : DualStatus := .pending
  requestedBy : String
  requestedById : String
  approvedBy : String := ""
  approvedById : String := ""
  decisionReason : String := ""
  expiresAt : Option Time
  decidedAt : Option Time := none
  executedAt : Option Time := none

structure ProviderConfig where
  capability : String
  /-- `none` is the global default; a row with a tenant overrides it there. -/
  tenantId : Option ℕ
  providerId : String := ""
  mode : String := "sandbox"
  settings : List (String × String) := []
  isEnabled : Bool := true
  healthStatus : String := "unknown"

structure ProviderFailoverPolicy where
  capability : String
  tenantId : Option ℕ
  primaryProviderId : String
  secondaryProviderId : String
  enabled : Bool
  failureThreshold : ℤ
  cooldownSeconds : ℤ
  isTripped : Bool := false
  trippedAt : Option Time := none
  consecutiveFailures : ℤ := 0
  reason : String

structure FeatureFlag where
  key : String
  defaultEnabled : Bool := false
  /-- The lowest plan that covers the feature. -/
  minPlan : Option String := none
  killSwitch : Bool
  /-- `stable`, `beta` or `deprecated`. -/
  status : String := "stable"
  deprecationNote : String := ""
  removalDate : Option Time := none

structure DealTemplate where
  name : String
  priceMinor : ℤ
  currency : String
  billingCycle : String
  pricingModel : String
  perStudentMinor : Option ℤ
  studentCount : Option ℤ
  entitlements : Option (List (String × Bool))
  quotas : Option (List (String × ℤ))
  isActive : Bool

inductive Json
  | text (s : String)
  | number (n : ℤ)
  | bool (b : Bool)
  | null
  deriving DecidableEq

instance : Coe String Json := ⟨.text⟩

/-- The id that texts and payloads carry for a row: the database counts from one. -/
def publicId (row : ℕ) : ℕ := row + 1

structure DeliveryLogEntry where
  loggedAt : Time
  ok : Bool
  channel : String
  message : String
  deriving DecidableEq

structure OutboxEvent where
  eventType : String
  aggregateType : String := ""
  aggregateId : String := ""
  payload : List (String × Json) := []
  published : Bool := false
  publishedAt : Option Time := none
  attempts : ℕ := 0
  nextAttemptAt : Option Time := none
  lastError : String := ""
  /-- `pending`, `delivered` or `dead_letter`. -/
  deliveryStatus : String := "pending"
  deliveryLog : List DeliveryLogEntry := []

/-- The committed rows of the control plane's database. -/
structure Db where
  tenants : Table Tenant := []
  subscriptions : Table Subscription := []
  plans : Table Plan := []
  dealTemplates : Table DealTemplate := []
  invoices : Table SaasInvoice := []
  payments : Table SaasPayment := []
  trials : Table TenantTrial := []
  installs : Table TenantInstall := []
  provisioningJobs : Table TenantProvisioningJob := []
  offboardJobs : Table TenantOffboardJob := []
  blacklist : Table SchoolBlacklistEntry := []
  dualRequests : Table DualControlRequest := []
  providerConfigs : Table ProviderConfig := []
  failoverPolicies : Table ProviderFailoverPolicy := []
  flags : Table FeatureFlag := []
  outbox : Table OutboxEvent := []
  configVersion : ℕ := 1

/-- The settings the modelled code reads. -/
structure Settings where
  environment : String
  nestConfigWebhookUrl : String
  dunningGraceDays : ℤ
  dualControlRequired : Option Bool
  dualControlExpiryHours : ℤ
  /-- `fingerprint`: the SHA-256 hex digest of the stripped text. -/
  fingerprint : String → String

/-- The defaults of `config.py`, in an environment; no token is ever fingerprinted. -/
def Settings.default (environment : String) : Settings :=
  { environment, nestConfigWebhookUrl := "", dunningGraceDays := 7, dualControlRequired := none
    dualControlExpiryHours := 24, fingerprint := id }

/-- A signed-in operator. -/
structure StaffContext where
  id : String
  email : String
  permissions : List String

/-- An authenticated machine-to-machine client. -/
structure ServiceContext where
  clientId : String
  allowedTenantRefs : List String

/-- What a request answers. -/
inductive Reply
  | ok
  | error (code : ℕ) (detail : String)
  deriving DecidableEq

/-- The committed database after a request, and its answer. -/
structure Outcome where
  db : Db
  reply : Reply

/-- `raise HTTPException` before any commit: the session is closed, so the
transaction rolls back. -/
def raise (db : Db) (code : ℕ) (detail : String) : Outcome := ⟨db, .error code detail⟩

/-- `db.commit()` and a normal answer. -/
def commit (db : Db) : Outcome := ⟨db, .ok⟩

@[simp] theorem raise_db (db : Db) (code : ℕ) (detail : String) :
    (raise db code detail).db = db := rfl
@[simp] theorem commit_db (db : Db) : (commit db).db = db := rfl

/-! ## Text -/

/-- The characters `str.strip` removes, in the Latin-1 range. -/
def isSpace (c : Char) : Bool :=
  c = ' ' || ('\t' ≤ c && c ≤ '\r') || ('\x1c' ≤ c && c ≤ '\x1f') || c = '\x85' || c = '\xa0'

def strip (s : String) : String :=
  String.ofList ((s.toList.dropWhile isSpace).reverse.dropWhile isSpace).reverse

/-- `str.lower` on ASCII letters. -/
def lower (s : String) : String := String.ofList (s.toList.map Char.toLower)

/-- `s.split("@")[-1] if "@" in s else ""`. -/
def emailDomain (s : String) : String :=
  if '@' ∈ s.toList then String.ofList (s.toList.reverse.takeWhile (· ≠ '@')).reverse else ""

/-- `s[:n]`. -/
def truncate (n : ℕ) (s : String) : String := String.ofList (s.toList.take n)

/-- A number padded with zeros to a width. -/
def padded (width n : ℕ) : String :=
  String.ofList (List.replicate (width - (toString n).length) '0') ++ toString n

/-- The date part of `isoformat`. -/
def isoDate (t : Time) : String :=
  let c := Civil.ofTime t
  padded 4 c.year ++ "-" ++ padded 2 c.month ++ "-" ++ padded 2 c.day

/-- `datetime.isoformat` in UTC. -/
def isoformat (t : Time) : String :=
  let c := Civil.ofTime t
  let secs := c.micros / 1000000
  let micros := c.micros % 1000000
  isoDate t ++ "T" ++ padded 2 (secs / 3600) ++ ":" ++ padded 2 (secs / 60 % 60) ++ ":"
    ++ padded 2 (secs % 60) ++ (if micros = 0 then "" else "." ++ padded 6 micros) ++ "+00:00"

/-! ## Tenants -/

/-- Clear a tenant's status text and reason and let it in again. -/
def lift (tenant : Tenant) : Tenant :=
  { tenant with status := .active, statusMessage := "", statusReason := "" }

/-! ## The outbox and the config version -/

/-- `_auto_publish_default`: only in development with no webhook. -/
def autoPublishDefault (cfg : Settings) : Bool :=
  if strip cfg.nestConfigWebhookUrl ≠ "" then false else cfg.environment = "development"

/-- The row `enqueue_outbox` appends. -/
def outboxRow (cfg : Settings) (now : Time) (eventType aggregateType aggregateId : String)
    (payload : List (String × Json)) : OutboxEvent :=
  let auto := autoPublishDefault cfg
  { eventType, aggregateType, aggregateId, payload
    published := auto
    publishedAt := if auto then some now else none
    attempts := 0
    nextAttemptAt := if auto then none else some now
    deliveryStatus := if auto then "delivered" else "pending"
    deliveryLog :=
      if auto then
        [{ loggedAt := now, ok := true, channel := "dev_stub"
           message := "Development mode with no webhook configured" }]
      else [] }

def enqueueOutbox (cfg : Settings) (now : Time) (eventType aggregateType aggregateId : String)
    (payload : List (String × Json)) (db : Db) : Db :=
  { db with
    outbox := db.outbox.insert (outboxRow cfg now eventType aggregateType aggregateId payload) }

/-- The write of `bump_config_version` in a session that has read this version. -/
def bumpFrom (cfg : Settings) (now : Time) (version : ℕ) (db : Db) : Db :=
  enqueueOutbox cfg now "config.invalidate" "system" "config_version"
    [("configVersion", .number (version + 1)), ("invalidateAll", .bool true)]
    { db with configVersion := version + 1 }

def bumpConfigVersion (cfg : Settings) (now : Time) (db : Db) : Db :=
  bumpFrom cfg now db.configVersion db

/-! What is queued for delivery leaves every other table alone. -/

section Frame
variable (cfg : Settings) (now : Time) (db : Db)
  (eventType aggregateType aggregateId : String) (payload : List (String × Json))

@[simp] theorem enqueueOutbox_tenants :
    (enqueueOutbox cfg now eventType aggregateType aggregateId payload db).tenants
      = db.tenants := rfl
@[simp] theorem enqueueOutbox_subscriptions :
    (enqueueOutbox cfg now eventType aggregateType aggregateId payload db).subscriptions
      = db.subscriptions := rfl
@[simp] theorem enqueueOutbox_plans :
    (enqueueOutbox cfg now eventType aggregateType aggregateId payload db).plans = db.plans := rfl
@[simp] theorem enqueueOutbox_invoices :
    (enqueueOutbox cfg now eventType aggregateType aggregateId payload db).invoices
      = db.invoices := rfl
@[simp] theorem enqueueOutbox_payments :
    (enqueueOutbox cfg now eventType aggregateType aggregateId payload db).payments
      = db.payments := rfl
@[simp] theorem enqueueOutbox_trials :
    (enqueueOutbox cfg now eventType aggregateType aggregateId payload db).trials = db.trials := rfl
@[simp] theorem enqueueOutbox_installs :
    (enqueueOutbox cfg now eventType aggregateType aggregateId payload db).installs
      = db.installs := rfl
@[simp] theorem enqueueOutbox_offboardJobs :
    (enqueueOutbox cfg now eventType aggregateType aggregateId payload db).offboardJobs
      = db.offboardJobs := rfl
@[simp] theorem enqueueOutbox_blacklist :
    (enqueueOutbox cfg now eventType aggregateType aggregateId payload db).blacklist
      = db.blacklist := rfl
@[simp] theorem enqueueOutbox_dualRequests :
    (enqueueOutbox cfg now eventType aggregateType aggregateId payload db).dualRequests
      = db.dualRequests := rfl
@[simp] theorem enqueueOutbox_providerConfigs :
    (enqueueOutbox cfg now eventType aggregateType aggregateId payload db).providerConfigs
      = db.providerConfigs := rfl
@[simp] theorem enqueueOutbox_failoverPolicies :
    (enqueueOutbox cfg now eventType aggregateType aggregateId payload db).failoverPolicies
      = db.failoverPolicies := rfl
@[simp] theorem enqueueOutbox_flags :
    (enqueueOutbox cfg now eventType aggregateType aggregateId payload db).flags = db.flags := rfl

@[simp] theorem bumpConfigVersion_tenants :
    (bumpConfigVersion cfg now db).tenants = db.tenants := rfl
@[simp] theorem bumpConfigVersion_subscriptions :
    (bumpConfigVersion cfg now db).subscriptions = db.subscriptions := rfl
@[simp] theorem bumpConfigVersion_plans :
    (bumpConfigVersion cfg now db).plans = db.plans := rfl
@[simp] theorem bumpConfigVersion_invoices :
    (bumpConfigVersion cfg now db).invoices = db.invoices := rfl
@[simp] theorem bumpConfigVersion_payments :
    (bumpConfigVersion cfg now db).payments = db.payments := rfl
@[simp] theorem bumpConfigVersion_trials :
    (bumpConfigVersion cfg now db).trials = db.trials := rfl
@[simp] theorem bumpConfigVersion_installs :
    (bumpConfigVersion cfg now db).installs = db.installs := rfl
@[simp] theorem bumpConfigVersion_offboardJobs :
    (bumpConfigVersion cfg now db).offboardJobs = db.offboardJobs := rfl
@[simp] theorem bumpConfigVersion_blacklist :
    (bumpConfigVersion cfg now db).blacklist = db.blacklist := rfl
@[simp] theorem bumpConfigVersion_dualRequests :
    (bumpConfigVersion cfg now db).dualRequests = db.dualRequests := rfl
@[simp] theorem bumpConfigVersion_providerConfigs :
    (bumpConfigVersion cfg now db).providerConfigs = db.providerConfigs := rfl
@[simp] theorem bumpConfigVersion_failoverPolicies :
    (bumpConfigVersion cfg now db).failoverPolicies = db.failoverPolicies := rfl
@[simp] theorem bumpConfigVersion_flags :
    (bumpConfigVersion cfg now db).flags = db.flags := rfl

end Frame

def dualControlEnabled (cfg : Settings) : Bool :=
  match cfg.dualControlRequired with
  | some required => required
  | none => cfg.environment = "production"

end MultiAcademy.Control
