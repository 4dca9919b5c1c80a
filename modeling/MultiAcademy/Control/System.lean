import MultiAcademy.Control.DualControl
import MultiAcademy.Control.InternalRoutes
import MultiAcademy.Control.Worker
import MultiAcademy.Lib.Run

/-!
# The control plane as a system

Everything that can change the modelled tables, as events of one transition system:
the stages of the billing worker, the calls of school servers, the calls of operators
and edits of the catalogue.  Requests are handled one at a time here; interleavings of
the steps inside a request have their own models.
-/

namespace MultiAcademy.Control

open MultiAcademy.Lib

inductive StaffCall
  | createTenant (body : TenantCreate)
  | updateTenant (tenantId : ℕ) (body : TenantUpdate)
  | changeStatus (tenantId : ℕ) (body : TenantStatusChange)
  | blacklistTenant (tenantId : ℕ) (body : BlacklistRequest)
  | unblacklistTenant (tenantId : ℕ) (reason : String)
  | scheduleOffboard (tenantId : ℕ) (body : OffboardCreate)
  | cancelOffboard (tenantId jobId : ℕ) (reason : String)
  | provisionTenant (tenantId : ℕ) (idempotencyKey : String)
  | updateTrial (tenantId : ℕ) (body : TrialUpdate)
  | createSubscription (tenantId : ℕ) (body : SubscriptionCreate)
  | updateSubscriptionStatus (subscriptionId : ℕ) (body : SubscriptionStatusUpdate)
  | dunningAdvance (subscriptionId : ℕ)
  | dunningRun
  | generateDue
  | courtesyUnlock (body : CourtesyUnlockRequest)
  | createInvoice (body : SaasInvoiceCreate)
  | payInvoice (invoiceId : ℕ) (body : SaasPaymentCreate)
  | createDealTemplate (body : DealTemplateCreate)
  | cloneTemplateToDeal (templateId : ℕ) (body : DealCloneFromTemplate)
  | createDeal (body : DealCreate)
  | approveDeal (dealId : ℕ)
  | updateDeal (dealId : ℕ) (body : DealUpdate)
  | setConfig (body : ProviderConfigSet)
  | testConnection (configId : ℕ) (health : String)
  | setSecret (configId : ℕ)
  | setFailover (body : FailoverPolicySet)
  | tripFailover (policyId : ℕ)
  | resetFailover (policyId : ℕ)
  | setKillSwitch (key : String) (enabled : Bool) (reason : String)
  | decide (requestId : ℕ) (body : DualControlDecide)
  | listRequests (listed : ℕ → Bool)

/-- The permission `require_permissions` asks for. -/
def StaffCall.permission : StaffCall → String
  | .createTenant _ | .updateTenant _ _ | .changeStatus _ _ | .scheduleOffboard _ _
  | .cancelOffboard _ _ _ | .provisionTenant _ _ | .updateTrial _ _ => "tenants:write"
  | .blacklistTenant _ _ | .unblacklistTenant _ _ => "tenants:blacklist"
  | .createSubscription _ _ | .updateSubscriptionStatus _ _ => "subscriptions:write"
  | .dunningAdvance _ | .dunningRun | .generateDue | .courtesyUnlock _ | .createInvoice _
  | .payInvoice _ _ => "billing:write"
  | .createDealTemplate _ | .cloneTemplateToDeal _ _ | .createDeal _ | .approveDeal _
  | .updateDeal _ _ => "deals:write"
  | .setConfig _ | .testConnection _ _ | .setFailover _ | .tripFailover _
  | .resetFailover _ => "providers:write"
  | .setSecret _ => "secrets:write"
  | .setKillSwitch _ _ _ => "flags:write"
  | .decide _ _ | .listRequests _ => "dual_control:approve"

variable (cfg : Settings)

def StaffCall.handle (now : Time) (staff : StaffContext) :
    StaffCall → Db → Outcome
  | .createTenant body => Control.createTenant cfg now body
  | .updateTenant tenantId body => Control.updateTenant tenantId body
  | .changeStatus tenantId body => Control.changeStatus cfg now tenantId body
  | .blacklistTenant tenantId body => Control.blacklistTenant cfg now staff tenantId body
  | .unblacklistTenant tenantId reason => Control.unblacklistTenant cfg now staff tenantId reason
  | .scheduleOffboard tenantId body => Control.scheduleOffboard cfg now staff tenantId body
  | .cancelOffboard tenantId jobId reason => Control.cancelOffboard cfg now tenantId jobId reason
  | .provisionTenant tenantId key => Control.provisionTenant cfg now staff tenantId key
  | .updateTrial tenantId body => Control.updateTrial cfg now tenantId body
  | .createSubscription tenantId body => Control.createSubscription cfg now tenantId body
  | .updateSubscriptionStatus subscriptionId body =>
    Control.updateSubscriptionStatus subscriptionId body
  | .dunningAdvance subscriptionId => Control.dunningAdvance cfg now subscriptionId
  | .dunningRun => Control.dunningRun cfg now
  | .generateDue => Control.generateDue now
  | .courtesyUnlock body => Control.courtesyUnlock cfg now body
  | .createInvoice body => Control.createInvoice now body
  | .payInvoice invoiceId body => Control.payInvoice cfg now staff invoiceId body
  | .createDealTemplate body => Control.createDealTemplate body
  | .cloneTemplateToDeal templateId body => Control.cloneTemplateToDeal cfg now templateId body
  | .createDeal body => Control.createDeal cfg now body
  | .approveDeal dealId => Control.approveDeal cfg now dealId
  | .updateDeal dealId body => Control.updateDeal cfg now dealId body
  | .setConfig body => Control.setConfig cfg now staff body
  | .testConnection configId health => Control.testConnection configId health
  | .setSecret configId => Control.setSecret cfg now configId
  | .setFailover body => Control.setFailover cfg now body
  | .tripFailover policyId => Control.tripFailover cfg now policyId
  | .resetFailover policyId => Control.resetFailover cfg now policyId
  | .setKillSwitch key enabled reason => Control.setKillSwitch cfg now staff key enabled reason
  | .decide requestId body => decideRequest cfg now staff requestId body
  | .listRequests listed => Control.listRequests now listed

inductive ServiceCall
  | changeTenantSubscription (tenantRef : String) (body : CatalogSubscriptionChange)
  | settleTenantInvoice (tenantRef : String) (invoiceId : ℕ) (body : SettleBody)
  | offboardResult (tenantRef : String) (jobId : ℕ) (body : OffboardResultBody)
  | provisioningResult (tenantRef : String) (jobId : ℕ) (body : ProvisioningResult)
  | registerTenant (tenantRef freshToken : String) (body : RegisterBody)
  | activateTenant (tenantRef : String)

def ServiceCall.handle (now : Time) (svc : ServiceContext) :
    ServiceCall → Db → Outcome
  | .changeTenantSubscription tenantRef body =>
    Control.changeTenantSubscription now tenantRef body svc
  | .settleTenantInvoice tenantRef invoiceId body =>
    Control.settleTenantInvoice cfg now tenantRef invoiceId body svc
  | .offboardResult tenantRef jobId body => Control.offboardResult tenantRef jobId body svc
  | .provisioningResult tenantRef jobId body =>
    Control.provisioningResult cfg now tenantRef jobId body svc
  | .registerTenant tenantRef freshToken body =>
    Control.registerTenant cfg now tenantRef freshToken body
  | .activateTenant tenantRef => Control.activateTenant cfg now tenantRef svc

/-- What can happen to the control plane. -/
inductive Event
  /-- A stage of the billing worker. -/
  | stage (now : Time) (stage : Stage)
  /-- `advance_dunning` called by itself. -/
  | advanceDunning (now : Time) (graceDays : ℤ) (subscriptionId : ℕ)
  /-- A call of a school server, with a token whose scope allows it. -/
  | service (now : Time) (svc : ServiceContext) (call : ServiceCall)
  /-- A call of a signed-in operator. -/
  | staff (now : Time) (staff : StaffContext) (call : StaffCall)
  /-- The plans and flags are edited, in any way. -/
  | catalogue (plans : Table Plan) (flags : Table FeatureFlag)

/-- The committed database and the answer after an event. -/
def respond (e : Event) (db : Db) : Outcome :=
  match e with
  | .stage now stage => commit (runStage cfg now stage db)
  | .advanceDunning now graceDays subscriptionId =>
    commit (advanceDunning cfg now graceDays subscriptionId db).2
  | .service now svc call => call.handle cfg now svc db
  | .staff now staff call =>
    if call.permission ∈ staff.permissions then call.handle cfg now staff db
    else raise db 403 ("Missing permissions: " ++ call.permission)
  | .catalogue plans flags => commit { db with plans, flags }

/-- The committed database after an event. -/
def step (e : Event) (db : Db) : Db := (respond cfg e db).db

/-- The databases of a control plane that started empty. -/
def Reach (db : Db) : Prop := Reachable (step cfg) {} db

/-! ## An example school

The first steps of the runs that instantiate the results below. -/

namespace Example

def settings : Settings := Settings.default "development"

/-- Whole days, counted from an arbitrary one. -/
def day (n : ℤ) : Time := Time.days (737000 + n)

def operator : StaffContext :=
  { id := "1", email := "ops@example.edu"
    permissions := ["tenants:write", "tenants:blacklist", "billing:write", "subscriptions:write",
      "providers:write", "dual_control:approve"] }

def basicPlan : Plan :=
  { key := "basic", monthlyPriceMinor := 500000, currency := "NGN", isActive := true }

/-- A school on the basic plan, with its first invoice. -/
def opened : List Event :=
  [.catalogue [basicPlan] [],
   .staff (day 0) operator (.createTenant { externalId := "s", slug := "s", name := "School" }),
   .staff (day 0) operator (.createInvoice { tenantId := 0 })]

end Example

end MultiAcademy.Control
