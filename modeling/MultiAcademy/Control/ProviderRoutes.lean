import MultiAcademy.Control.TenantRoutes

/-!
# Providers, failover and kill switches

`routers/providers.py` and the kill switch of `routers/flags.py`, together with the
resolution of `services/runtime_config.py` that decides which provider a school is
actually served with.
-/

namespace MultiAcademy.Control

open MultiAcademy.Lib

def capabilities : List String :=
  ["payment", "sms", "email", "ai", "meeting", "storage", "push", "maps", "oauth"]

def knownProviders : String → List String
  | "payment" => ["paystack", "flutterwave", "opay", "palmpay", "momo", "monnify", "stripe"]
  | "sms" => ["africas_talking", "termii", "twilio", "hubtel"]
  | "email" => ["resend", "cpanel", "ses", "sendgrid", "mailgun"]
  | "ai" => ["openai", "gemini", "kilo", "nvidia", "anthropic", "azure_openai"]
  | "meeting" => ["google_meet", "zoom", "microsoft_teams", "whereby"]
  | "storage" => ["s3", "r2", "gcs", "local"]
  | "push" => ["fcm", "onesignal"]
  | "maps" => ["google", "mapbox"]
  | "oauth" => ["google"]
  | _ => []

def listText (texts : List String) : String :=
  "[" ++ ", ".intercalate (texts.map fun text => "'" ++ text ++ "'") ++ "]"

/-! ## Provider configuration -/

structure ProviderConfigSet where
  capability : String
  providerId : String
  tenantId : Option ℕ := none
  mode : String := "sandbox"
  settings : List (String × String) := []
  reason : String := ""

/-- The configuration row of a capability and a tenant; `(capability, tenant_id)` is
unique. -/
def configOf (db : Db) (capability : String) (tenantId : Option ℕ) : Option ℕ :=
  db.providerConfigs.first? fun config =>
    config.capability = capability ∧ config.tenantId = tenantId

def currentlyLive (db : Db) (configId : Option ℕ) : Bool :=
  (configId.bind (db.providerConfigs[·]?)).any fun config => config.mode = "live"

/-- The row a change leaves. -/
def ProviderConfigSet.apply (body : ProviderConfigSet) (config : ProviderConfig) :
    ProviderConfig :=
  { config with
    providerId := body.providerId, mode := body.mode, settings := body.settings
    isEnabled := true }

/-- Write a configuration row, a new one when the capability has none. -/
def storeConfig (configId : Option ℕ) (capability : String) (tenantId : Option ℕ)
    (f : ProviderConfig → ProviderConfig) (configs : Table ProviderConfig) :
    Table ProviderConfig :=
  match configId with
  | some i => configs.modify i f
  | none => configs.insert (f { capability, tenantId })

/-- The checks of the body, in order: what is wrong with it. -/
def ProviderConfigSet.problem (db : Db) (body : ProviderConfigSet) : Option (ℕ × String) :=
  let known := knownProviders body.capability
  if body.capability ∉ capabilities then
    some (400, "Unknown capability: " ++ body.capability)
  else if known ≠ [] ∧ body.providerId ∉ known then
    some (400, "Unknown provider '" ++ body.providerId ++ "' for " ++ body.capability
      ++ ". Known: " ++ listText known)
  else if body.mode ≠ "sandbox" ∧ body.mode ≠ "live" then
    some (400, "mode must be sandbox or live")
  else if body.tenantId.any fun t => (db.tenants[t]?).isNone then some (404, "Tenant not found")
  else if body.reason = "" then some (400, "Reason required for provider changes")
  else none

/-- The change crosses the live boundary: to live, or away from a row that is live.  A
repointed live row is covered by both. -/
def ProviderConfigSet.needsDual (db : Db) (body : ProviderConfigSet) : Bool :=
  body.mode = "live" || currentlyLive db (configOf db body.capability body.tenantId)

variable (cfg : Settings) (now : Time) (policy : ProviderFailoverPolicy)

/-- `PUT /v1/providers`. -/
def setConfig (staff : StaffContext) (body : ProviderConfigSet)
    (db : Db) : Outcome :=
  match body.problem db with
  | some (code, detail) => raise db code detail
  | none =>
    let configId := configOf db body.capability body.tenantId
    if dualControlEnabled cfg ∧ body.needsDual db then
      let (reqId, db) := createRequest cfg now staff
        (if body.mode = "live" then .providerSwitchLive else .providerSwitchFromLive) "provider"
        (match configId with
          | some i => .row i
          | none => .newProvider body.capability body.tenantId)
        { providerId := some body.providerId, settings := some body.settings
          capability := some body.capability, tenantId := body.tenantId
          mode := some body.mode } body.reason db
      ⟨db, .error 202
        s!"Dual-control required for this live-provider change. Pending approval id={reqId}"⟩
    else
      commit (bumpConfigVersion cfg now
        { db with
          providerConfigs := storeConfig configId body.capability body.tenantId body.apply
            db.providerConfigs })

/-- `POST /v1/providers/id/test`; `health` is what the vendor ping reports. -/
def testConnection (configId : ℕ) (health : String) (db : Db) : Outcome :=
  match db.providerConfigs[configId]? with
  | none => raise db 404 "Provider config not found"
  | some _ =>
    commit { db with
      providerConfigs := db.providerConfigs.modify configId fun config =>
        { config with healthStatus := health } }

/-- `PUT /v1/providers/id/secrets`; the sealed secret itself is not modelled. -/
def setSecret (configId : ℕ) (db : Db) : Outcome :=
  match db.providerConfigs[configId]? with
  | none => raise db 404 "Provider config not found"
  | some _ => commit (bumpConfigVersion cfg now db)

/-! ## Failover policies -/

structure FailoverPolicySet where
  capability : String
  primaryProviderId : String
  secondaryProviderId : String
  tenantId : Option ℕ := none
  enabled : Bool := true
  failureThreshold : ℤ := 3
  cooldownSeconds : ℤ := 300
  reason : String := ""
  threshold_ge : 1 ≤ failureThreshold := by decide
  threshold_le : failureThreshold ≤ 100 := by decide
  cooldown_ge : 30 ≤ cooldownSeconds := by decide
  cooldown_le : cooldownSeconds ≤ 86400 := by decide

/-- A policy of payments that trips at the first failure. -/
def Example.failover : FailoverPolicySet :=
  { capability := "payment", primaryProviderId := "paystack", secondaryProviderId := "stripe"
    failureThreshold := 1 }

/-- The policy row of a capability and a tenant. -/
def policyOf (db : Db) (capability : String) (tenantId : Option ℕ) : Option ℕ :=
  db.failoverPolicies.first? fun policy =>
    policy.capability = capability ∧ policy.tenantId = tenantId

/-- A policy as the body writes it; what the breaker has recorded stays. -/
def FailoverPolicySet.apply (body : FailoverPolicySet) (policy : ProviderFailoverPolicy) :
    ProviderFailoverPolicy :=
  { policy with
    primaryProviderId := body.primaryProviderId
    secondaryProviderId := body.secondaryProviderId
    enabled := body.enabled
    failureThreshold := body.failureThreshold
    cooldownSeconds := body.cooldownSeconds
    reason := body.reason }

/-- The row of a policy that has none yet. -/
def FailoverPolicySet.fresh (body : FailoverPolicySet) : ProviderFailoverPolicy :=
  { capability := body.capability
    tenantId := body.tenantId
    primaryProviderId := body.primaryProviderId
    secondaryProviderId := body.secondaryProviderId
    enabled := body.enabled
    failureThreshold := body.failureThreshold
    cooldownSeconds := body.cooldownSeconds
    reason := body.reason }

def FailoverPolicySet.store (body : FailoverPolicySet) (db : Db) :
    Table ProviderFailoverPolicy :=
  match policyOf db body.capability body.tenantId with
  | some policyId => db.failoverPolicies.modify policyId body.apply
  | none => db.failoverPolicies.insert body.fresh

/-- The checks of the body, in order: what is wrong with it. -/
def FailoverPolicySet.problem (body : FailoverPolicySet) : Option (ℕ × String) :=
  if body.capability ∉ capabilities then
    some (400, "Unknown capability: " ++ body.capability)
  else if body.primaryProviderId = body.secondaryProviderId then
    some (400, "primary and secondary must differ")
  else none

/-- `PUT /v1/providers/failover`. -/
def setFailover (body : FailoverPolicySet) (db : Db) : Outcome :=
  match body.problem with
  | some (code, detail) => raise db code detail
  | none => commit (bumpConfigVersion cfg now { db with failoverPolicies := body.store db })

/-- One more failure of the primary; at the threshold the policy trips. -/
def recordFailure : ProviderFailoverPolicy :=
  let failures := policy.consecutiveFailures + 1
  if policy.failureThreshold ≤ failures then
    { policy with consecutiveFailures := failures, isTripped := true, trippedAt := some now }
  else { policy with consecutiveFailures := failures }

def clearFailures : ProviderFailoverPolicy :=
  { policy with isTripped := false, trippedAt := none, consecutiveFailures := 0 }

/-- `POST /v1/providers/failover/id/trip`. -/
def tripFailover (policyId : ℕ) (db : Db) : Outcome :=
  match db.failoverPolicies[policyId]? with
  | none => raise db 404 "Failover policy not found"
  | some _ =>
    commit (bumpConfigVersion cfg now
      { db with failoverPolicies := db.failoverPolicies.modify policyId (recordFailure now) })

/-- `POST /v1/providers/failover/id/reset`. -/
def resetFailover (policyId : ℕ) (db : Db) : Outcome :=
  match db.failoverPolicies[policyId]? with
  | none => raise db 404 "Failover policy not found"
  | some _ =>
    commit (bumpConfigVersion cfg now
      { db with failoverPolicies := db.failoverPolicies.modify policyId clearFailures })

/-! ## Kill switches -/

/-- `POST /v1/flags/key/kill-switch`. -/
def setKillSwitch (staff : StaffContext) (key : String)
    (enabled : Bool) (reason : String) (db : Db) : Outcome :=
  if reason = "" then raise db 400 "Reason required for kill switch changes"
  else
    match db.flags.first? fun flag => flag.key = key with
    | none => raise db 404 ("Unknown flag: " ++ key)
    | some flagId =>
      if (db.flags[flagId]?).any fun flag => flag.killSwitch = enabled then commit db
      else if dualControlEnabled cfg then
        let (reqId, db) := createRequest cfg now staff
          (if enabled then .flagKillSwitch else .flagKillSwitchLift) "flag" (.flag key)
          { enabled := some enabled } reason db
        let verb := if enabled then "set" else "lift"
        ⟨db, .error 202
          s!"Dual-control required to {verb} this kill switch. Pending approval id={reqId}"⟩
      else
        commit (bumpConfigVersion cfg now
          { db with flags := db.flags.modify flagId fun flag =>
              { flag with killSwitch := enabled } })

/-! ## Resolution -/

/-- One row of the loop over the rows of a capability: a tenant's own row replaces the
global one, and otherwise the first stays. -/
def keepRow {α : Type} (tenantId : α → Option ℕ) (existing : Option α) (row : α) : Option α :=
  match existing with
  | none => some row
  | some kept => if (tenantId kept).isNone ∧ (tenantId row).isSome then some row else some kept

def chooseRow {α : Type} (tenantId : α → Option ℕ) (rows : List α) : Option α :=
  rows.foldl (keepRow tenantId) none

/-- The row is global or the tenant's own. -/
def appliesTo (tenantId : ℕ) (row : Option ℕ) : Bool := row = none ∨ row = some tenantId

def chosenConfig (db : Db) (tenantId : ℕ) (capability : String) : Option ProviderConfig :=
  chooseRow (·.tenantId) (db.providerConfigs.filter fun config =>
    config.isEnabled ∧ config.capability = capability ∧ appliesTo tenantId config.tenantId)

def chosenPolicy (policies : Table ProviderFailoverPolicy) (tenantId : ℕ) (capability : String) :
    Option ProviderFailoverPolicy :=
  chooseRow (·.tenantId) (policies.filter fun policy =>
    policy.enabled ∧ policy.capability = capability ∧ appliesTo tenantId policy.tenantId)

def failoverActive : Bool :=
  policy.enabled && policy.isTripped
    && policy.trippedAt.all fun tripped => now ≤ tripped + Time.seconds policy.cooldownSeconds

def trippedFor (config : ProviderConfig) : Bool :=
  failoverActive now policy
    && (config.providerId = policy.primaryProviderId || policy.isTripped)

def redPrimary (config : ProviderConfig) : Bool :=
  policy.enabled && config.providerId = policy.primaryProviderId && config.healthStatus = "red"

/-- What a school server is told about a capability. -/
structure ProviderEntry where
  providerId : String
  mode : String
  settings : List (String × String)
  /-- Primary and secondary of the failover in force. -/
  failover : Option (String × String)
  deriving DecidableEq

/-- One entry of `resolve_providers`.  The settings are merged over the provider and
the mode, and a red primary is replaced after that. -/
def providerEntry (policy : Option ProviderFailoverPolicy)
    (config : ProviderConfig) : ProviderEntry :=
  let tripped := policy.filter fun p => trippedFor now p config
  let red := policy.filter fun p => redPrimary p config
  let providerId := (tripped.map (·.secondaryProviderId)).getD config.providerId
  { providerId := match red with
      | some p => p.secondaryProviderId
      | none => (config.settings.lookup "providerId").getD providerId
    mode := (config.settings.lookup "mode").getD config.mode
    settings := config.settings
    failover := (red.or tripped).map fun p => (p.primaryProviderId, p.secondaryProviderId) }

/-- The provider a tenant is served with for a capability. -/
def resolveProvider (db : Db) (now : Time) (tenantId : ℕ) (capability : String) :
    Option ProviderEntry :=
  (chosenConfig db tenantId capability).map
    (providerEntry now (chosenPolicy db.failoverPolicies tenantId capability))

def liveProvider (db : Db) (now : Time) (tenantId : ℕ) (capability : String) : Option String :=
  ((resolveProvider db now tenantId capability).filter fun entry => entry.mode = "live").map
    (·.providerId)

end MultiAcademy.Control
