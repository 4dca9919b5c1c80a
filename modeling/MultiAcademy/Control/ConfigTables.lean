import MultiAcademy.Control.UsageQuotas

/-!
# The runtime config of a tenant

The tables that `services/runtime_config.py` reads, and `_build_runtime_config_uncached` over
them: the catalogue snapshot that all tenants share, and the payload of one tenant.  Every
`_now()` of one build is the same time here.  A dictionary whose order nothing reads is the
function that looks a key up in it.
-/

namespace MultiAcademy.Control

open MultiAcademy.Lib

/-! ## Tables -/

structure MaintenanceWindow where
  message : String := ""
  startsAt : Time
  endsAt : Time
  /-- Empty for all tenants. -/
  tenantIds : List ℕ := []
  isActive : Bool := true

structure TenantDomain where
  tenantId : ℕ
  hostname : String
  /-- `subdomain` or `custom`. -/
  kind : String
  /-- `pending`, `active` or `disabled`. -/
  status : String
  sslStatus : String
  isPrimary : Bool

structure FeeSplitRule where
  tenantId : ℕ
  feeType : String
  providerId : String
  currency : String
  allocations : List (List (String × Json))
  isActive : Bool := true

structure PayrollAccount where
  tenantId : ℕ
  accountRole : String
  providerId : String
  accountReference : String
  currency : String
  isActive : Bool := true

structure TenantPaymentContextBinding where
  tenantId : ℕ
  contextKey : String
  enabled : Bool := true
  gatewayId : Option String := none

structure TenantPaymentGatewayToggle where
  tenantId : ℕ
  gatewayId : String
  enabled : Bool := true

/-- The fee is only ever copied. -/
structure TutoringPolicy where
  tenantId : ℕ
  platformFeePercent : ℚ := 15
  defaultCurrency : String := "NGN"
  allowExternalTutors : Bool := true
  marketplaceEnabled : Bool := true

/-- The tables a runtime config is built from.  An override has an id of its own: overrides
are deleted. -/
structure ConfigStore where
  db : Db := {}
  entitlements : Table PlanEntitlement := []
  overrides : List (ℕ × FlagOverride) := []
  nextOverrideId : ℕ := 0
  rollouts : Table FlagCohortRollout := []
  blocks : Table Block := []
  maintenanceWindows : Table MaintenanceWindow := []
  domains : Table TenantDomain := []
  feeSplits : Table FeeSplitRule := []
  payrollAccounts : Table PayrollAccount := []
  contextBindings : Table TenantPaymentContextBinding := []
  gatewayToggles : Table TenantPaymentGatewayToggle := []
  tutoringPolicies : Table TutoringPolicy := []
  meters : Table UsageMeter := []
  rollups : OrderedMap RollupKey ℤ := .empty
  keys : (db.flags.map (·.key)).Nodup := by decide

/-- What a build depends on beside the tables: the number that the first eight hexadecimal
digits of the SHA-256 of an external id make, and the configured TTL. -/
structure ConfigEnv where
  digest : String → ℕ
  runtimeConfigTtlSeconds : ℤ

/-! ## The catalogue -/

/-- `_CatalogSnapshot`, without its version. -/
structure Catalog where
  features : CatalogSnapshot
  deprecated : List FeatureFlag
  meters : List UsageMeter
  maintenanceWindows : List MaintenanceWindow
  providerConfigs : List ProviderConfig
  failoverPolicies : List ProviderFailoverPolicy

variable (s : ConfigStore) (env : ConfigEnv) (catalog : Catalog)

/-- The queries of `_get_catalog_snapshot`. -/
def loadCatalog : Catalog :=
  { features := catalogSnapshot s.db.flags s.keys s.rollouts
    deprecated := s.db.flags.filter fun flag => flag.status = "deprecated"
    meters := s.meters
    maintenanceWindows := s.maintenanceWindows.filter (·.isActive)
    providerConfigs := s.db.providerConfigs.filter (·.isEnabled)
    failoverPolicies := s.db.failoverPolicies.filter (·.enabled) }

/-- `resolve_providers`: the entry of each capability. -/
def resolveProviders (now : Time) (tenantId : ℕ) (capability : String) :
    Option ProviderEntry :=
  resolveProvider
    { providerConfigs := catalog.providerConfigs, failoverPolicies := catalog.failoverPolicies }
    now tenantId capability

structure MaintenanceEntry where
  message : String
  until_ : String

def resolveMaintenance (now : Time) (tenantId : ℕ) :
    Option MaintenanceEntry :=
  (catalog.maintenanceWindows.find? fun w =>
      w.startsAt ≤ now ∧ now ≤ w.endsAt ∧ (w.tenantIds = [] ∨ tenantId ∈ w.tenantIds)).map
    fun w => { message := w.message, until_ := isoformat w.endsAt }

structure DeprecatedFeature where
  key : String
  removalDate : Option String
  note : String

def deprecatedFeatures : List DeprecatedFeature :=
  catalog.deprecated.map fun flag =>
    { key := flag.key
      removalDate := flag.removalDate.map isoformat
      note := flag.deprecationNote }

/-! ## Payment settings and tutoring -/

/-- `PaymentContextDef`; each is on unless a binding says otherwise. -/
structure PaymentContextDef where
  key : String
  label : String
  description : String
  requiredFeatures : List String
  allowedGateways : List String

/-- `KNOWN_PAYMENT_GATEWAYS`, with `GATEWAY_LABELS`. -/
def paymentGateways : List (String × String) :=
  [("paystack", "Paystack"), ("flutterwave", "Flutterwave"), ("opay", "OPay"),
    ("palmpay", "PalmPay"), ("momo", "MoMo"), ("monnify", "Monnify")]

def defaultPaymentGateway : String := "paystack"

def paymentContexts : List PaymentContextDef :=
  let school := paymentGateways.map (·.1)
  [{ key := "school_invoice", label := "Pay invoice"
     description := "Parent portal — Pay button on an outstanding invoice"
     requiredFeatures := ["fees.gateway"], allowedGateways := school },
   { key := "school_installment", label := "Pay installment"
     description := "Parent portal — Pay button on a scheduled installment"
     requiredFeatures := ["fees.gateway", "fees.installments"], allowedGateways := school },
   { key := "school_advance", label := "Prepay fees"
     description := "Parent portal — ahead-of-time school fee prepayment"
     requiredFeatures := ["fees.gateway", "fees.advance_payment"], allowedGateways := school },
   { key := "tutoring_session", label := "Pay tutoring session"
     description := "Tutoring marketplace — Pay button on a booking"
     requiredFeatures := ["tutoring.payments"]
     allowedGateways := ["paystack", "flutterwave", "opay", "palmpay", "momo"] },
   { key := "saas_subscription", label := "Platform subscription"
     description := "School onboarding — SaaS plan checkout"
     requiredFeatures := [], allowedGateways := ["paystack", "flutterwave"] }]

structure PaymentContextEntry where
  context : PaymentContextDef
  enabled : Bool
  buttonEnabled : Bool
  featuresSatisfied : Bool
  gatewayId : String

/-- `list_payment_contexts_for_tenant`; of several bindings of a context the last counts. -/
def paymentContextEntries (tenantId : ℕ) (features : String → Option Bool) :
    List PaymentContextEntry :=
  paymentContexts.map fun context =>
    let binding := s.contextBindings.reverse.find? fun row =>
      row.tenantId = tenantId ∧ row.contextKey = context.key
    let buttonEnabled := (binding.map (·.enabled)).getD true
    let featuresOk := context.requiredFeatures.all fun key => (features key).getD false
    let stored := (binding.bind (·.gatewayId)).getD ""
    { context
      enabled := buttonEnabled && featuresOk
      buttonEnabled
      featuresSatisfied := featuresOk
      gatewayId := if stored = "" then defaultPaymentGateway else stored }

structure PaymentGatewayEntry where
  gatewayId : String
  label : String
  enabled : Bool

/-- `list_payment_gateways_for_tenant`. -/
def paymentGatewayEntries (tenantId : ℕ) : List PaymentGatewayEntry :=
  paymentGateways.map fun gateway =>
    let toggle := s.gatewayToggles.reverse.find? fun row =>
      row.tenantId = tenantId ∧ row.gatewayId = gateway.1
    { gatewayId := gateway.1
      label := gateway.2
      enabled := (toggle.map (·.enabled)).getD (gateway.1 = defaultPaymentGateway) }

/-- `tutoring_policy_payload`. -/
def tutoringPolicy (tenantId : ℕ) : TutoringPolicy :=
  (s.tutoringPolicies.find? fun row => row.tenantId = tenantId).getD { tenantId }

/-! ## The payload -/

structure SubscriptionEntry where
  type : SubscriptionType
  planId : Option String
  dealId : Option String
  billingCycle : String
  status : SubscriptionStatus
  trial : Option TrialMetadata

/-- The subscription's part of the payload. -/
def subscriptionEntry (now : Time) (db : Db) (tenantId : ℕ) : Option SubscriptionEntry :=
  (db.subscriptions.last? fun sub => sub.tenantId = tenantId ∧ sub.isCurrent).bind fun i =>
    (db.subscriptions[i]?).map fun sub =>
      { type := sub.type
        planId := sub.planId.bind fun planId => (db.plans[planId]?).map (·.key)
        dealId := if sub.type = .custom then some (toString (publicId i)) else none
        billingCycle := sub.billingCycle
        status := sub.status
        trial := trialMetadata now db tenantId }

/-- The active hostnames of a tenant, the primary ones first. -/
def activeDomains (tenantId : ℕ) : List TenantDomain :=
  let rows := s.domains.filter fun row => row.tenantId = tenantId ∧ row.status = "active"
  rows.filter (·.isPrimary) ++ rows.filter fun row => !row.isPrimary

/-- What a school server is sent. -/
structure RuntimePayload where
  tenantId : String
  slug : String
  domains : List TenantDomain
  feeSplits : List FeeSplitRule
  payrollAccounts : List PayrollAccount
  salaryAccountSeparated : Bool
  paymentContexts : List PaymentContextEntry
  paymentGateways : List PaymentGatewayEntry
  tutoring : TutoringPolicy
  subscription : Option SubscriptionEntry
  trial : Option TrialMetadata
  status : TenantStatus
  residencyTag : String
  legalHold : Bool
  features : String → Option Bool
  quotas : List (String × ℤ)
  usageRemaining : OrderedMap String ℤ
  providers : String → Option ProviderEntry
  enforcement : Enforcement
  maintenance : Option MaintenanceEntry
  killSwitches : List String
  deprecatedFeatures : List DeprecatedFeature
  ttlSeconds : ℤ
  updatedAt : Time
  configVersion : ℕ

/-- `getattr(tenant, "residency_tag", None) or tenant.region`. -/
def Tenant.residency (tenant : Tenant) : String :=
  if tenant.residencyTag = "" then tenant.region else tenant.residencyTag

def configFeatures (s : ConfigStore) (now : Time)
    (tenantId : ℕ) (tenant : Tenant) : String → Option Bool :=
  (runtimeFeatures env.digest now s.blocks s.db s.entitlements (s.overrides.map (·.2))
    catalog.features tenantId tenant).get?

/-- The payload of `_build_runtime_config_uncached`, from a snapshot. -/
def tenantPayload (s : ConfigStore) (version : ℕ)
    (now : Time) (t : ℕ) (tenant : Tenant) : RuntimePayload :=
  let resolved := resolveFeatures env.digest s.db s.entitlements (s.overrides.map (·.2))
    catalog.features t tenant
  let features := configFeatures env catalog s now t tenant
  let accounts := s.payrollAccounts.filter fun row => row.tenantId = t ∧ row.isActive
  { tenantId := tenant.externalId
    slug := tenant.slug
    domains := activeDomains s t
    feeSplits := s.feeSplits.filter fun row => row.tenantId = t ∧ row.isActive
    payrollAccounts := accounts
    salaryAccountSeparated :=
      (accounts.any fun row => row.accountRole = "salary")
        && accounts.any fun row => row.accountRole = "operating"
    paymentContexts := paymentContextEntries s t features
    paymentGateways := paymentGatewayEntries s t
    tutoring := tutoringPolicy s t
    subscription := subscriptionEntry now s.db t
    trial := trialMetadata now s.db t
    status := tenant.status
    residencyTag := tenant.residency
    legalHold := tenant.legalHold
    features
    quotas := resolved.quotas
    usageRemaining := usageRemaining now catalog.meters s.entitlements
      { control := s.db, rollups := s.rollups } t
    providers := resolveProviders catalog now t
    enforcement := resolveEnforcement now s.blocks s.db t tenant
    maintenance := resolveMaintenance catalog now t
    killSwitches := resolved.killSwitches
    deprecatedFeatures := deprecatedFeatures catalog
    ttlSeconds := env.runtimeConfigTtlSeconds
    updatedAt := now
    configVersion := version }

/-- `_build_runtime_config_uncached`: the tenant's row, and its payload. -/
def buildRuntimeConfig (s : ConfigStore) (version : ℕ)
    (now : Time) (t : ℕ) : Option RuntimePayload :=
  (s.db.tenants[t]?).map (tenantPayload env catalog s version now t)

/-- The payload of a build that caches nothing. -/
def uncachedConfig (s : ConfigStore) (now : Time) (t : ℕ) :
    Option RuntimePayload :=
  buildRuntimeConfig env (loadCatalog s) s s.db.configVersion now t

end MultiAcademy.Control
