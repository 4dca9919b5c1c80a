import MultiAcademy.Control.ConfigTables

/-!
# What changes a runtime config

The endpoints of the flags, plans, blocks, maintenance and tenant domains, and the health
snapshot of the monitoring router.  Together with the operator's calls on providers, tenants
and dual-control requests they are the mutations of what a runtime config is built from.
-/

namespace MultiAcademy.Control

open MultiAcademy.Lib

/-! ## Answers -/

/-- The tables after a request, and its answer. -/
structure ConfigOutcome where
  store : ConfigStore
  reply : Reply

/-- `raise HTTPException` before any commit. -/
def ConfigStore.refuse (s : ConfigStore) (code : ℕ) (detail : String) : ConfigOutcome :=
  ⟨s, .error code detail⟩

/-- `db.commit()` and a normal answer. -/
def ConfigStore.saved (s : ConfigStore) : ConfigOutcome := ⟨s, .ok⟩

/-- `bump_config_version`. -/
def ConfigStore.bump (cfg : Settings) (now : Time) (s : ConfigStore) : ConfigStore :=
  { s with db := bumpConfigVersion cfg now s.db, keys := s.keys }

/-- A flag is edited; its key stays. -/
def ConfigStore.modifyFlag (s : ConfigStore) (i : ℕ) (f : FeatureFlag → FeatureFlag)
    (hkey : ∀ flag, (f flag).key = flag.key) : ConfigStore :=
  { s with
    db := { s.db with flags := s.db.flags.modify i f }
    keys := by
      dsimp only
      rw [Table.map_modify hkey]
      exact s.keys }

/-! ## Flags -/

/-- The row of `_get_flag`. -/
def flagOf (s : ConfigStore) (key : String) : Option ℕ :=
  s.db.flags.first? fun flag => flag.key = key

structure FlagUpdate where
  defaultEnabled : Option Bool := none
  minPlan : Option String := none
  status : Option String := none

/-- `PATCH /v1/flags/key`. -/
def updateFlag (cfg : Settings) (now : Time) (key : String) (body : FlagUpdate)
    (s : ConfigStore) : ConfigOutcome :=
  match flagOf s key with
  | none => s.refuse 404 ("Unknown flag: " ++ key)
  | some i =>
    ((s.modifyFlag i (fun flag =>
        { flag with
          defaultEnabled := body.defaultEnabled.getD flag.defaultEnabled
          minPlan := body.minPlan.or flag.minPlan
          status := body.status.getD flag.status }) fun _ => rfl).bump cfg now).saved

structure FlagDeprecateRequest where
  removalDate : Time
  note : String := ""
  reason : String := ""

/-- `POST /v1/flags/key/deprecate`. -/
def deprecateFlag (cfg : Settings) (now : Time) (key : String) (body : FlagDeprecateRequest)
    (s : ConfigStore) : ConfigOutcome :=
  match flagOf s key with
  | none => s.refuse 404 ("Unknown flag: " ++ key)
  | some i =>
    ((s.modifyFlag i (fun flag =>
        { flag with
          status := "deprecated"
          deprecationNote := if body.note = "" then body.reason else body.note
          removalDate := some body.removalDate }) fun _ => rfl).bump cfg now).saved

/-- The body of a rollout, with the bounds the schema puts on it. -/
structure CohortRolloutSet where
  featureKey : String
  percentage : ℤ
  cohortTags : List String := []
  enabled : Bool := true
  percentage_ge : 0 ≤ percentage := by decide
  percentage_le : percentage ≤ 100 := by decide

/-- `PUT /v1/flags/rollouts/cohort`. -/
def setCohortRollout (cfg : Settings) (now : Time) (body : CohortRolloutSet) (s : ConfigStore) :
    ConfigOutcome :=
  match flagOf s body.featureKey with
  | none => s.refuse 404 ("Unknown flag: " ++ body.featureKey)
  | some _ =>
    (ConfigStore.bump cfg now
      { s with
        rollouts := s.rollouts.upsert (fun row => row.featureKey = body.featureKey)
          { featureKey := body.featureKey, percentage := body.percentage
            cohortTags := body.cohortTags, enabled := body.enabled } }).saved

structure OverrideSet where
  featureKey : String
  /-- `global`, `plan` or `tenant`. -/
  scope : String
  planKey : Option String := none
  tenantId : Option ℕ := none
  enabled : Bool

/-- The plan and the tenant of an override, after the checks of its scope. -/
def OverrideSet.target (db : Db) (body : OverrideSet) :
    Except (ℕ × String) (Option ℕ × Option ℕ) :=
  if body.scope = "plan" then
    match body.planKey.filter fun planKey => planKey ≠ "" with
    | none => .error (400, "plan_key required for plan scope")
    | some planKey =>
      match db.plans.first? fun plan => plan.key = planKey with
      | none => .error (400, "Unknown plan: " ++ planKey)
      | some planId => .ok (some planId, none)
  else if body.scope = "tenant" then
    match body.tenantId with
    | none => .error (400, "tenant_id required for tenant scope")
    | some tenantId =>
      match db.tenants[tenantId]? with
      | none => .error (404, "Tenant not found")
      | some _ => .ok (none, some tenantId)
  else if body.scope = "global" then .ok (none, none)
  else .error (400, "scope must be global | plan | tenant")

/-- The override of a feature, a scope and a target is switched, or made. -/
def OverrideSet.store (body : OverrideSet) (target : Option ℕ × Option ℕ) (s : ConfigStore) :
    ConfigStore :=
  let named (row : FlagOverride) : Bool :=
    row.featureKey = body.featureKey ∧ row.scope = body.scope ∧ row.planId = target.1
      ∧ row.tenantId = target.2
  match s.overrides.find? fun row => named row.2 with
  | some row =>
    { s with
      overrides := s.overrides.map fun other =>
        if other.1 = row.1 then (other.1, { other.2 with enabled := body.enabled }) else other }
  | none =>
    { s with
      overrides := s.overrides ++
        [(s.nextOverrideId,
          { featureKey := body.featureKey, scope := body.scope, planId := target.1
            tenantId := target.2, enabled := body.enabled })]
      nextOverrideId := s.nextOverrideId + 1 }

/-- `PUT /v1/flags/overrides`. -/
def setOverride (cfg : Settings) (now : Time) (body : OverrideSet) (s : ConfigStore) :
    ConfigOutcome :=
  match flagOf s body.featureKey with
  | none => s.refuse 404 ("Unknown flag: " ++ body.featureKey)
  | some _ =>
    match body.target s.db with
    | .error (code, detail) => s.refuse code detail
    | .ok target => ((body.store target s).bump cfg now).saved

/-- `DELETE /v1/flags/overrides/id`. -/
def deleteOverride (cfg : Settings) (now : Time) (overrideId : ℕ) (s : ConfigStore) :
    ConfigOutcome :=
  match s.overrides.find? fun row => row.1 = overrideId with
  | none => s.refuse 404 "Override not found"
  | some _ =>
    (ConfigStore.bump cfg now
      { s with overrides := s.overrides.filter fun row => row.1 ≠ overrideId }).saved

/-! ## Plans -/

structure PlanUpdate where
  monthlyPriceMinor : Option ℤ := none
  currency : Option String := none
  isActive : Option Bool := none

def PlanUpdate.apply (body : PlanUpdate) (plan : Plan) : Plan :=
  { plan with
    monthlyPriceMinor := body.monthlyPriceMinor.getD plan.monthlyPriceMinor
    currency := body.currency.getD plan.currency
    isActive := body.isActive.getD plan.isActive }

/-- `PATCH /v1/plans/key`. -/
def updatePlan (key : String) (body : PlanUpdate) (s : ConfigStore) : ConfigOutcome :=
  match s.db.plans.first? fun plan => plan.key = key with
  | none => s.refuse 404 ("Unknown plan: " ++ key)
  | some i =>
    ConfigStore.saved
      { s with
        db := { s.db with plans := s.db.plans.modify i body.apply }
        keys := s.keys }

structure EntitlementSet where
  featureKey : String
  enabled : Bool := true
  quota : Option ℤ := none

/-- `PUT /v1/plans/key/entitlements`. -/
def setEntitlement (cfg : Settings) (now : Time) (key : String) (body : EntitlementSet)
    (s : ConfigStore) : ConfigOutcome :=
  match s.db.plans.first? fun plan => plan.key = key with
  | none => s.refuse 404 ("Unknown plan: " ++ key)
  | some planId =>
    match flagOf s body.featureKey with
    | none => s.refuse 404 ("Unknown flag: " ++ body.featureKey)
    | some _ =>
      (ConfigStore.bump cfg now
        { s with
          entitlements := s.entitlements.upsert
            (fun row => row.planId = planId ∧ row.featureKey = body.featureKey)
            { planId, featureKey := body.featureKey, enabled := body.enabled
              quota := body.quota } }).saved

/-! ## Blocks -/

def blockTargetTypes : List String := ["user", "email", "phone", "ip", "device", "capability"]

structure BlockCreate where
  targetType : String
  value : String
  tenantId : Option ℕ := none
  reason : String
  expiresAt : Option Time := none

/-- `POST /v1/blocks`. -/
def createBlock (cfg : Settings) (now : Time) (body : BlockCreate) (s : ConfigStore) :
    ConfigOutcome :=
  if body.targetType ∉ blockTargetTypes then
    s.refuse 400 ("Unknown target type: " ++ body.targetType)
  else if body.reason = "" then s.refuse 400 "Reason required"
  else if body.tenantId.any fun t => (s.db.tenants[t]?).isNone then
    s.refuse 404 "Tenant not found"
  else
    (ConfigStore.bump cfg now
      { s with
        blocks := s.blocks.insert
          { targetType := body.targetType, value := body.value, tenantId := body.tenantId
            expiresAt := body.expiresAt } }).saved

/-- `DELETE /v1/blocks/id`. -/
def liftBlock (cfg : Settings) (now : Time) (blockId : ℕ) (s : ConfigStore) : ConfigOutcome :=
  match s.blocks[blockId]? with
  | none => s.refuse 404 "Block not found"
  | some _ =>
    (ConfigStore.bump cfg now
      { s with
        blocks := s.blocks.modify blockId fun block => { block with isActive := false } }).saved

/-- The characters `str.splitlines` breaks at. -/
def isLineBreak (c : Char) : Bool :=
  ('\n' ≤ c && c ≤ '\r') || ('\x1c' ≤ c && c ≤ '\x1e') || c = '\x85' || c = '\u2028'
    || c = '\u2029'

/-- `str.isdigit` on ASCII. -/
def isDigits (cs : List Char) : Bool := cs ≠ [] && cs.all fun c => '0' ≤ c && c ≤ '9'

/-- `int` of ASCII digits. -/
def digitsValue (cs : List Char) : ℕ := cs.foldl (fun n c => 10 * n + (c.toNat - '0'.toNat)) 0

/-- The target a line of the import names, and the public id of its tenant. -/
structure ImportedBlock where
  targetType : String
  value : String
  tenantRef : Option ℕ := none

/-- One line of the import; `none` is a line that is passed over or skipped. -/
def importLine (raw : String) : Option ImportedBlock :=
  let line := strip raw
  let cs := line.toList
  if line = "" ∨ cs.head? = some '#' then none
  else
    let parts := (cs.splitOn ',').map fun part => strip (String.ofList part)
    let first := parts.headD ""
    if 2 ≤ parts.length ∧ first ∈ blockTargetTypes then
      some
        { targetType := first
          value := parts.getD 1 ""
          tenantRef := (parts[3]?.filter fun part => isDigits part.toList).map fun part =>
            digitsValue part.toList }
    else if '@' ∈ cs then some { targetType := "email", value := lower line }
    else if isDigits (cs.filter fun c => c ≠ '.' ∧ c ≠ ':') ∨ '/' ∈ cs then
      some { targetType := "ip", value := line }
    else if ':' ∈ cs then
      let targetType := String.ofList (cs.takeWhile (· ≠ ':'))
      if targetType ∈ blockTargetTypes then
        some { targetType, value := String.ofList ((cs.dropWhile (· ≠ ':')).drop 1) }
      else none
    else some { targetType := "email", value := line }

def rowOfPublicId (db : Db) (ref : ℕ) : Option ℕ :=
  if ref = 0 then none
  else if (db.tenants[ref - 1]?).isSome then some (ref - 1) else none

/-- `POST /v1/blocks/import`. -/
def importBlocks (cfg : Settings) (now : Time) (csvText : String) (s : ConfigStore) :
    ConfigOutcome :=
  let text := strip csvText
  if text = "" then s.refuse 400 "CSV body required"
  else
    let imported := (text.toList.splitOnP isLineBreak).filterMap fun line =>
      importLine (String.ofList line)
    if imported.any fun row => row.tenantRef.any fun ref => (rowOfPublicId s.db ref).isNone then
      s.refuse 500 "Internal Server Error"
    else
      let rows : List Block := imported.map fun row =>
        { targetType := row.targetType, value := row.value
          tenantId := row.tenantRef.bind (rowOfPublicId s.db) }
      if rows = [] then s.saved
      else (ConfigStore.bump cfg now { s with blocks := s.blocks ++ rows }).saved

/-! ## Maintenance -/

structure MaintenanceCreate where
  message : String
  startsAt : Time
  endsAt : Time
  tenantIds : List ℕ := []

/-- `POST /v1/maintenance`. -/
def createMaintenance (cfg : Settings) (now : Time) (body : MaintenanceCreate)
    (s : ConfigStore) : ConfigOutcome :=
  (ConfigStore.bump cfg now
    { s with
      maintenanceWindows := s.maintenanceWindows.insert
        { message := body.message, startsAt := body.startsAt, endsAt := body.endsAt
          tenantIds := body.tenantIds } }).saved

/-- `DELETE /v1/maintenance/id`. -/
def cancelMaintenance (cfg : Settings) (now : Time) (windowId : ℕ) (s : ConfigStore) :
    ConfigOutcome :=
  match s.maintenanceWindows[windowId]? with
  | none => s.refuse 404 "Window not found"
  | some _ =>
    (ConfigStore.bump cfg now
      { s with
        maintenanceWindows := s.maintenanceWindows.modify windowId fun w =>
          { w with isActive := false } }).saved

/-! ## Domains -/

structure TenantDomainCreate where
  hostname : String := ""
  kind : String := "subdomain"

/-- `_HOSTNAME_RE`, matched in full. -/
def isHostname (s : String) : Bool :=
  let labels := s.toList.splitOn '.'
  let tld := labels.getLastD []
  1 ≤ s.length && s.length ≤ 255 && 2 ≤ labels.length
    && labels.dropLast.all (fun label => isDnsLabel (String.ofList label))
    && 2 ≤ tld.length && tld.length ≤ 63 && tld.all fun c => 'a' ≤ c && c ≤ 'z'

/-- `hostname.strip().lower().rstrip(".")`. -/
def normalizeHostname (s : String) : String :=
  String.ofList (((lower (strip s)).toList.reverse.dropWhile (· = '.')).reverse)

/-- The checks of a new domain, in order: what is wrong with it. -/
def TenantDomainCreate.problem (s : ConfigStore) (tenantId : ℕ) (body : TenantDomainCreate) :
    Option (ℕ × String) :=
  let hostname := normalizeHostname body.hostname
  if (s.db.tenants[tenantId]?).isNone then some (404, "Tenant not found")
  else if !isHostname hostname then some (422, "hostname must be a valid DNS name")
  else if body.kind ≠ "subdomain" ∧ body.kind ≠ "custom" then
    some (422, "kind must be subdomain or custom")
  else if s.domains.existsRow fun row => row.hostname = hostname then
    some (409, "Hostname is already assigned")
  else none

def TenantDomainCreate.toRow (s : ConfigStore) (tenantId : ℕ) (body : TenantDomainCreate) :
    TenantDomain :=
  { tenantId
    hostname := normalizeHostname body.hostname
    kind := body.kind
    status := if body.kind = "subdomain" then "active" else "pending"
    sslStatus := if body.kind = "custom" then "pending" else "active"
    isPrimary := !s.domains.existsRow fun row => row.tenantId = tenantId ∧ row.isPrimary }

/-- `POST /v1/tenants/id/domains`. -/
def addTenantDomain (tenantId : ℕ) (body : TenantDomainCreate) (s : ConfigStore) :
    ConfigOutcome :=
  match body.problem s tenantId with
  | some (code, detail) => s.refuse code detail
  | none =>
    ConfigStore.saved { s with domains := s.domains.insert (body.toRow s tenantId) }

/-! ## Health -/

/-- Configurations after pings, some of which report a health. -/
def recordHealth (results : ℕ → Option String) (configs : Table ProviderConfig) :
    Table ProviderConfig :=
  configs.mapIdx fun i config =>
    match results i with
    | some health => { config with healthStatus := health }
    | none => config

/-- The configurations that `synthetics` pings, with what the vendors report. -/
def syntheticResults (ping : ℕ → String) (configs : Table ProviderConfig) (i : ℕ) :
    Option String :=
  if (configs[i]?).any fun config => config.tenantId = none then some (ping i) else none

def ConfigStore.recordHealth (s : ConfigStore) (results : ℕ → Option String) : ConfigStore :=
  { s with
    db := { s.db with
      providerConfigs := Control.recordHealth results s.db.providerConfigs }
    keys := s.keys }

/-- `GET /v1/monitoring/synthetics`; `ping` is what each vendor ping reports. -/
def synthetics (run : Bool) (ping : ℕ → String) (s : ConfigStore) : ConfigOutcome :=
  if run then (s.recordHealth (syntheticResults ping s.db.providerConfigs)).saved else s.saved

/-! ## What an operator's call does to these tables -/

/-- The operator's calls on providers, tenants, kill switches and dual-control requests. -/
def StaffCall.mutatesConfig : StaffCall → Bool
  | .createTenant _ | .updateTenant _ _ | .changeStatus _ _ | .blacklistTenant _ _
  | .unblacklistTenant _ _ | .scheduleOffboard _ _ | .cancelOffboard _ _ _ | .provisionTenant _ _
  | .updateTrial _ _ | .createSubscription _ _ | .setConfig _ | .testConnection _ _ | .setSecret _
  | .setFailover _ | .tripFailover _ | .resetFailover _ | .setKillSwitch _ _ _ | .decide _ _ => true
  | _ => false

/-- The tables of `Db` that a runtime config is built from are as they were. -/
structure SameConfig (db db' : Db) : Prop where
  tenants : db'.tenants = db.tenants
  subscriptions : db'.subscriptions = db.subscriptions
  plans : db'.plans = db.plans
  trials : db'.trials = db.trials
  flags : db'.flags = db.flags
  providerConfigs : db'.providerConfigs = db.providerConfigs
  failoverPolicies : db'.failoverPolicies = db.failoverPolicies
  configVersion : db'.configVersion = db.configVersion

/-- A tenant as the body of `PATCH /v1/tenants/id` writes it. -/
def TenantUpdate.apply (body : TenantUpdate) (t : Tenant) : Tenant :=
  { t with
    name := body.name.getD t.name
    region := body.region.getD t.region
    residencyTag := body.residencyTag.getD t.residencyTag
    legalHold := body.legalHold.getD t.legalHold
    legalHoldReason := body.legalHoldReason.getD t.legalHoldReason
    adminEmail := body.adminEmail.getD t.adminEmail
    adminPhone := body.adminPhone.getD t.adminPhone
    tags := body.tags.getD t.tags
    notes := body.notes.getD t.notes }

/-- The one configuration that a connection test reports on. -/
def testResult (configId : ℕ) (health : String) (i : ℕ) : Option String :=
  if i = configId then some health else none

/-- **What a call can do to the tables**: bump the version, leave them alone, record a health
or edit a tenant. -/
inductive StaffEffect (db : Db) : StaffCall → Db → Prop
  | bumped {call : StaffCall} {db' : Db} : db'.flags.map (·.key) = db.flags.map (·.key) →
      db.configVersion < db'.configVersion → StaffEffect db call db'
  | same {call : StaffCall} {db' : Db} : SameConfig db db' → StaffEffect db call db'
  | health (configId : ℕ) (health : String) :
      StaffEffect db (.testConnection configId health)
        { db with
          providerConfigs := recordHealth (testResult configId health) db.providerConfigs }
  | tenant (t : ℕ) (body : TenantUpdate) :
      StaffEffect db (.updateTenant t body)
        { db with tenants := db.tenants.modify t body.apply }

section Effect
variable {cfg : Settings} {now : Time} {staff : StaffContext} {db : Db} {call : StaffCall}

theorem SameConfig.rfl : SameConfig db db :=
  ⟨Eq.refl _, Eq.refl _, Eq.refl _, Eq.refl _, Eq.refl _, Eq.refl _, Eq.refl _, Eq.refl _⟩

theorem StaffEffect.bump {db' : Db} (hflags : db'.flags.map (·.key) = db.flags.map (·.key))
    (hversion : db'.configVersion = db.configVersion) :
    StaffEffect db call (bumpConfigVersion cfg now db') := by
  refine .bumped hflags ?_
  have hbump : (bumpConfigVersion cfg now db').configVersion = db'.configVersion + 1 := rfl
  rw [hbump, hversion]
  exact Nat.lt_succ_self _

/-- A recorded health as an edit of one row. -/
theorem recordHealth_testResult (configId : ℕ) (health : String)
    (configs : Table ProviderConfig) :
    recordHealth (testResult configId health) configs
      = configs.modify configId fun config => { config with healthStatus := health } := by
  refine List.ext_getElem? fun i => ?_
  rw [recordHealth, List.getElem?_mapIdx, List.getElem?_modify]
  by_cases hi : i = configId
  · cases configs[i]? with
    | none => rfl
    | some config => simp [testResult, hi]
  cases configs[i]? with
  | none => rfl
  | some config => simp [testResult, hi, Ne.symm hi]

theorem queueInitialization_same (cfg : Settings) (now : Time) (db : Db) (t : ℕ)
    (requestedBy requestedById key : String) :
    (queueInitialization cfg now t requestedBy requestedById key db).2.flags = db.flags
      ∧ (queueInitialization cfg now t requestedBy requestedById key db).2.configVersion
        = db.configVersion := by
  simp only [queueInitialization]
  split <;> exact ⟨rfl, rfl⟩

theorem initializeTrialOnce_same (cfg : Settings) (now : Time) (db : Db) (t : ℕ) :
    (initializeTrialOnce cfg now t db).flags = db.flags
      ∧ (initializeTrialOnce cfg now t db).configVersion = db.configVersion := by
  simp only [initializeTrialOnce]
  split <;> exact ⟨rfl, rfl⟩

theorem applyTrialUpdate_same (now : Time) (db : Db) (trialId t : ℕ) (body : TrialUpdate) :
    (applyTrialUpdate now trialId t body db).flags = db.flags
      ∧ (applyTrialUpdate now trialId t body db).configVersion = db.configVersion := by
  simp only [applyTrialUpdate]
  split
  · exact ⟨rfl, rfl⟩
  · split <;> exact ⟨rfl, rfl⟩
  · exact ⟨rfl, rfl⟩

theorem cancelOffboardJob_effect (jobId : ℕ) (reason : String) :
    StaffEffect db call (cancelOffboardJob cfg now jobId reason db) := by
  simp only [cancelOffboardJob]
  split
  · exact .same .rfl
  split
  · exact .same .rfl
  split
  · exact .bumped rfl (Nat.lt_succ_self _)
  · exact .same ⟨rfl, rfl, rfl, rfl, rfl, rfl, rfl, rfl⟩

/-- An approved action bumps the version, over writes that keep the flags' keys. -/
theorem effect_keys {req : DualControlRequest} {writes : Writes} (requestId : ℕ)
    (f : DualControlRequest → DualControlRequest) (h : EffectWrites cfg now req db writes) :
    (writes { db with dualRequests := db.dualRequests.modify requestId f }).flags.map (·.key)
        = db.flags.map (·.key)
      ∧ db.configVersion ≤ (writes db).configVersion := by
  cases h with
  | blacklist | unblacklist | destroy | switch => exact ⟨rfl, Nat.le_refl _⟩
  | offboard t tenant _ _ _ =>
    simp only [scheduleOffboardJob]
    cases activeJobOf db t with
    | some jobId => exact ⟨rfl, Nat.le_refl _⟩
    | none => exact ⟨rfl, Nat.le_succ _⟩
  | killSwitch flagId on =>
    refine ⟨Table.map_modify ?_ db.flags flagId, Nat.le_refl _⟩
    exact fun flag => rfl

theorem decideRequest_effect (requestId : ℕ) (body : DualControlDecide) :
    StaffEffect db call (decideRequest cfg now staff requestId body db).db := by
  simp only [decideRequest]
  split
  · exact .same .rfl
  rename_i req hreq
  have hspec := verdict_spec cfg now staff requestId body req db
  cases hverdict : verdict cfg now staff requestId body req db with
  | refused code detail => exact .same .rfl
  | expired writes =>
    rw [hverdict] at hspec
    cases hspec
    exact .same ⟨rfl, rfl, rfl, rfl, rfl, rfl, rfl, rfl⟩
  | rejected writes =>
    rw [hverdict] at hspec
    cases hspec
    exact .same ⟨rfl, rfl, rfl, rfl, rfl, rfl, rfl, rfl⟩
  | approved writes =>
    rw [hverdict] at hspec
    cases hspec with
    | approved _ _ _ _ _ happrove =>
      obtain ⟨done, hdone, rfl⟩ := approve_eq_ok happrove
      obtain ⟨hkeys, hversion⟩ := effect_keys requestId
        (decided now staff body.reason .approved) (effect_spec hdone)
      exact .bumped hkeys (Nat.lt_succ_of_le hversion)

/-- **One case for each way through the calls.** -/
theorem staffCall_effect (cfg : Settings) (now : Time) (staff : StaffContext) (db : Db)
    (hscope : call.mutatesConfig = true) :
    StaffEffect db call (call.handle cfg now staff db).db := by
  cases call with
  | createTenant body =>
    simp only [StaffCall.handle, createTenant]
    split
    · exact .same .rfl
    split
    · exact .same .rfl
    split
    · exact .same .rfl
    split
    · exact .bump rfl rfl
    split
    · exact .bump rfl rfl
    split
    · exact .same .rfl
    · exact .bump rfl rfl
  | updateTenant t body =>
    simp only [StaffCall.handle, updateTenant]
    split
    · exact .same .rfl
    · exact .tenant t body
  | changeStatus t body =>
    simp only [StaffCall.handle, changeStatus]
    split
    · exact .same .rfl
    split
    · exact .same .rfl
    split
    · exact .same .rfl
    split
    · exact .same .rfl
    · exact .bump rfl rfl
  | blacklistTenant t body =>
    simp only [StaffCall.handle, blacklistTenant]
    split
    · exact .same .rfl
    split
    · exact .same ⟨rfl, rfl, rfl, rfl, rfl, rfl, rfl, rfl⟩
    · exact .bump rfl rfl
  | unblacklistTenant t reason =>
    simp only [StaffCall.handle, unblacklistTenant]
    split
    · exact .same .rfl
    split
    · exact .same .rfl
    split
    · exact .same ⟨rfl, rfl, rfl, rfl, rfl, rfl, rfl, rfl⟩
    · exact .bump rfl rfl
  | scheduleOffboard t body =>
    simp only [StaffCall.handle, scheduleOffboard]
    split
    · exact .same .rfl
    split
    · exact .same .rfl
    split
    · exact .same ⟨rfl, rfl, rfl, rfl, rfl, rfl, rfl, rfl⟩
    split
    · exact .same ⟨rfl, rfl, rfl, rfl, rfl, rfl, rfl, rfl⟩
    simp only [commit_db, scheduleOffboardJob]
    cases activeJobOf db t with
    | some jobId => exact .same .rfl
    | none => exact .bumped rfl (Nat.lt_succ_self _)
  | cancelOffboard t jobId reason =>
    simp only [StaffCall.handle, cancelOffboard]
    split
    · exact .same .rfl
    split
    · exact .same .rfl
    split
    · exact .same .rfl
    split
    · exact .same .rfl
    split
    · exact .same .rfl
    · exact cancelOffboardJob_effect jobId reason
  | provisionTenant t key =>
    simp only [StaffCall.handle, provisionTenant]
    split
    · exact .same .rfl
    split
    · obtain ⟨hflags, hversion⟩ := queueInitialization_same cfg now db t
        staff.email staff.id key
      exact .bump (by rw [hflags]) hversion
    · exact .same .rfl
  | updateTrial t body =>
    simp only [StaffCall.handle, updateTrial]
    split
    · exact .same .rfl
    split
    · exact .same .rfl
    rename_i trialId htrial
    obtain ⟨hflags, hversion⟩ := initializeTrialOnce_same cfg now db t
    obtain ⟨hflags', hversion'⟩ :=
      applyTrialUpdate_same now (initializeTrialOnce cfg now t db) trialId t body
    refine .bumped ?_ ?_
    · rw [commit_db, enqueueOutbox_flags, bumpConfigVersion_flags, hflags', hflags]
    rw [← hversion, ← hversion']
    exact Nat.lt_succ_self _
  | createSubscription t body =>
    simp only [StaffCall.handle, createSubscription]
    split
    · exact .same .rfl
    split
    · split
      · exact .same .rfl
      split
      · exact .same .rfl
      split
      · exact .same .rfl
      · exact .bump rfl rfl
    split
    · exact .bump rfl rfl
    · exact .same .rfl
  | setConfig body =>
    simp only [StaffCall.handle, setConfig]
    split
    · exact .same .rfl
    split
    · exact .same ⟨rfl, rfl, rfl, rfl, rfl, rfl, rfl, rfl⟩
    · exact .bump rfl rfl
  | testConnection configId health =>
    simp only [StaffCall.handle, testConnection]
    split
    · exact .same .rfl
    rw [commit_db, ← recordHealth_testResult]
    exact .health configId health
  | setSecret configId =>
    simp only [StaffCall.handle, setSecret]
    split
    · exact .same .rfl
    · exact .bump rfl rfl
  | setFailover body =>
    simp only [StaffCall.handle, setFailover]
    split
    · exact .same .rfl
    · exact .bump rfl rfl
  | tripFailover policyId =>
    simp only [StaffCall.handle, tripFailover]
    split
    · exact .same .rfl
    · exact .bump rfl rfl
  | resetFailover policyId =>
    simp only [StaffCall.handle, resetFailover]
    split
    · exact .same .rfl
    · exact .bump rfl rfl
  | setKillSwitch key enabled reason =>
    simp only [StaffCall.handle, setKillSwitch]
    split
    · exact .same .rfl
    split
    · exact .same .rfl
    split
    · exact .same .rfl
    split
    · exact .same ⟨rfl, rfl, rfl, rfl, rfl, rfl, rfl, rfl⟩
    refine .bump (Table.map_modify ?_ db.flags _) rfl
    exact fun flag => rfl
  | decide requestId body => exact decideRequest_effect requestId body
  | updateSubscriptionStatus | dunningAdvance | dunningRun | generateDue | courtesyUnlock
  | createInvoice | payInvoice | createDealTemplate | cloneTemplateToDeal | createDeal
  | approveDeal | updateDeal | listRequests => cases hscope

end Effect

/-! ## The mutations of a runtime config -/

theorem StaffEffect.keys {db db' : Db} {call : StaffCall} (h : StaffEffect db call db') :
    db'.flags.map (·.key) = db.flags.map (·.key) := by
  cases h with
  | bumped hkeys _ => exact hkeys
  | same hsame => rw [hsame.flags]
  | health | tenant => rfl

/-- The mutations. -/
inductive ConfigCall
  | updateFlag (key : String) (body : FlagUpdate)
  | deprecateFlag (key : String) (body : FlagDeprecateRequest)
  | setCohortRollout (body : CohortRolloutSet)
  | setOverride (body : OverrideSet)
  | deleteOverride (overrideId : ℕ)
  | updatePlan (key : String) (body : PlanUpdate)
  | setEntitlement (key : String) (body : EntitlementSet)
  | createBlock (body : BlockCreate)
  | liftBlock (blockId : ℕ)
  | importBlocks (csvText : String)
  | createMaintenance (body : MaintenanceCreate)
  | cancelMaintenance (windowId : ℕ)
  | addTenantDomain (tenantId : ℕ) (body : TenantDomainCreate)
  | synthetics (run : Bool) (ping : ℕ → String)
  | staff (call : StaffCall) (scope : call.mutatesConfig = true)

/-- The permission `require_permissions` asks for. -/
def ConfigCall.permission : ConfigCall → String
  | .updateFlag _ _ | .deprecateFlag _ _ | .setCohortRollout _ | .setOverride _
  | .deleteOverride _ => "flags:write"
  | .updatePlan _ _ | .setEntitlement _ _ => "plans:write"
  | .createBlock _ | .liftBlock _ | .importBlocks _ => "blocks:write"
  | .createMaintenance _ | .cancelMaintenance _ => "maintenance:write"
  | .addTenantDomain _ _ => "tenants:write"
  | .synthetics _ _ => "monitoring:read"
  | .staff call _ => call.permission

/-- A call that the system already has, on its tables. -/
def handleStaff (cfg : Settings) (now : Time) (staff : StaffContext) (call : StaffCall)
    (scope : call.mutatesConfig = true) (s : ConfigStore) : ConfigOutcome :=
  { store :=
      { s with
        db := (call.handle cfg now staff s.db).db
        keys := by
          rw [(staffCall_effect cfg now staff s.db scope).keys]
          exact s.keys }
    reply := (call.handle cfg now staff s.db).reply }

def ConfigCall.handle (cfg : Settings) (now : Time) (staff : StaffContext) :
    ConfigCall → ConfigStore → ConfigOutcome
  | .updateFlag key body => Control.updateFlag cfg now key body
  | .deprecateFlag key body => Control.deprecateFlag cfg now key body
  | .setCohortRollout body => Control.setCohortRollout cfg now body
  | .setOverride body => Control.setOverride cfg now body
  | .deleteOverride overrideId => Control.deleteOverride cfg now overrideId
  | .updatePlan key body => Control.updatePlan key body
  | .setEntitlement key body => Control.setEntitlement cfg now key body
  | .createBlock body => Control.createBlock cfg now body
  | .liftBlock blockId => Control.liftBlock cfg now blockId
  | .importBlocks csvText => Control.importBlocks cfg now csvText
  | .createMaintenance body => Control.createMaintenance cfg now body
  | .cancelMaintenance windowId => Control.cancelMaintenance cfg now windowId
  | .addTenantDomain tenantId body => Control.addTenantDomain tenantId body
  | .synthetics run ping => Control.synthetics run ping
  | .staff call scope => handleStaff cfg now staff call scope

/-- The tables and the answer after a mutation. -/
def respondConfig (cfg : Settings) (now : Time) (staff : StaffContext) (call : ConfigCall)
    (s : ConfigStore) : ConfigOutcome :=
  if call.permission ∈ staff.permissions then call.handle cfg now staff s
  else s.refuse 403 ("Missing permissions: " ++ call.permission)

/-- **What a mutation can do**: bump the version; leave what is read alone; or, without a bump,
edit a plan, record health, edit a tenant or add a domain. -/
inductive ConfigEffect (s : ConfigStore) : ConfigCall → ConfigStore → Prop
  | bumped {call : ConfigCall} {s' : ConfigStore} : s.db.configVersion < s'.db.configVersion →
      ConfigEffect s call s'
  | same {call : ConfigCall} (db' : Db) (keys : (db'.flags.map (·.key)).Nodup) :
      SameConfig s.db db' → ConfigEffect s call { s with db := db', keys }
  | plan {call : ConfigCall} (i : ℕ) (body : PlanUpdate) :
      ConfigEffect s call
        { s with
          db := { s.db with plans := s.db.plans.modify i body.apply }
          keys := s.keys }
  | test (configId : ℕ) (health : String) (scope : _) :
      ConfigEffect s (.staff (.testConnection configId health) scope)
        (s.recordHealth (testResult configId health))
  | synthetics (ping : ℕ → String) :
      ConfigEffect s (.synthetics true ping)
        (s.recordHealth (syntheticResults ping s.db.providerConfigs))
  | tenant (t : ℕ) (body : TenantUpdate) (scope : _) :
      ConfigEffect s (.staff (.updateTenant t body) scope)
        { s with
          db := { s.db with tenants := s.db.tenants.modify t body.apply }
          keys := s.keys }
  | domain (t : ℕ) (body : TenantDomainCreate) : body.problem s t = none →
      ConfigEffect s (.addTenantDomain t body)
        { s with domains := s.domains.insert (body.toRow s t) }

section Respond
variable {cfg : Settings} {now : Time} {staff : StaffContext} {s : ConfigStore} {call : ConfigCall}

theorem ConfigEffect.rfl : ConfigEffect s call s := .same s.db s.keys .rfl

theorem ConfigEffect.bump {s' : ConfigStore} (h : s'.db.configVersion = s.db.configVersion) :
    ConfigEffect s call (s'.bump cfg now) := by
  refine .bumped ?_
  have hbump : (s'.bump cfg now).db.configVersion = s'.db.configVersion + 1 := Eq.refl _
  rw [hbump, h]
  exact Nat.lt_succ_self _

theorem OverrideSet.store_db (body : OverrideSet) (target : Option ℕ × Option ℕ)
    (s : ConfigStore) : (body.store target s).db = s.db := by
  simp only [OverrideSet.store]
  split <;> rfl

theorem StaffEffect.config {staffCall : StaffCall} (scope : staffCall.mutatesConfig = true)
    {db' : Db} (h : StaffEffect s.db staffCall db') (keys : (db'.flags.map (·.key)).Nodup) :
    ConfigEffect s (.staff staffCall scope) { s with db := db', keys } := by
  cases h with
  | bumped _ hversion => exact .bumped hversion
  | same hsame => exact .same db' keys hsame
  | health configId health => exact .test configId health scope
  | tenant t body => exact .tenant t body scope

/-- **One case for each way through the mutations.** -/
theorem respondConfig_effect (cfg : Settings) (now : Time) (staff : StaffContext)
    (s : ConfigStore) (call : ConfigCall) :
    ConfigEffect s call (respondConfig cfg now staff call s).store := by
  simp only [respondConfig]
  split
  · cases call with
    | updateFlag key body =>
      simp only [ConfigCall.handle, updateFlag]
      split
      · exact .rfl
      · exact .bump (Eq.refl _)
    | deprecateFlag key body =>
      simp only [ConfigCall.handle, deprecateFlag]
      split
      · exact .rfl
      · exact .bump (Eq.refl _)
    | setCohortRollout body =>
      simp only [ConfigCall.handle, setCohortRollout]
      split
      · exact .rfl
      · exact .bump (Eq.refl _)
    | setOverride body =>
      simp only [ConfigCall.handle, setOverride]
      split
      · exact .rfl
      split
      · exact .rfl
      · exact .bump (by rw [OverrideSet.store_db])
    | deleteOverride overrideId =>
      simp only [ConfigCall.handle, deleteOverride]
      split
      · exact .rfl
      · exact .bump (Eq.refl _)
    | updatePlan key body =>
      simp only [ConfigCall.handle, updatePlan]
      split
      · exact .rfl
      · exact .plan _ body
    | setEntitlement key body =>
      simp only [ConfigCall.handle, setEntitlement]
      split
      · exact .rfl
      split
      · exact .rfl
      · exact .bump (Eq.refl _)
    | createBlock body =>
      simp only [ConfigCall.handle, createBlock]
      split
      · exact .rfl
      split
      · exact .rfl
      split
      · exact .rfl
      · exact .bump (Eq.refl _)
    | liftBlock blockId =>
      simp only [ConfigCall.handle, liftBlock]
      split
      · exact .rfl
      · exact .bump (Eq.refl _)
    | importBlocks csvText =>
      simp only [ConfigCall.handle, importBlocks]
      split
      · exact .rfl
      split
      · exact .rfl
      split
      · exact .rfl
      · exact .bump (Eq.refl _)
    | createMaintenance body => exact .bump (Eq.refl _)
    | cancelMaintenance windowId =>
      simp only [ConfigCall.handle, cancelMaintenance]
      split
      · exact .rfl
      · exact .bump (Eq.refl _)
    | addTenantDomain t body =>
      simp only [ConfigCall.handle, addTenantDomain]
      split
      · exact .rfl
      · exact .domain t body ‹_›
    | synthetics run ping =>
      cases run with
      | false => exact .rfl
      | true => exact .synthetics ping
    | staff staffCall scope => exact (staffCall_effect cfg now staff s.db scope).config scope _
  · exact .rfl

end Respond

end MultiAcademy.Control
