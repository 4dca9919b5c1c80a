import MultiAcademy.Control.ProviderChoice
import MultiAcademy.Control.System

/-!
# Two answers to who serves a capability

A school server learns in its runtime config which provider serves a capability, and
fetches that provider's secrets from an endpoint of its own.  Both look for the
configuration row of the tenant and else for the global one.  The config then applies
the failover policy and the row's settings; the endpoint returns the row's own provider.
-/

namespace MultiAcademy.Control

open MultiAcademy.Lib

/-! ## The endpoint -/

/-- `scalar_one_or_none`: the only row, none, or `MultipleResultsFound`. -/
def scalarOneOrNone {α : Type} (rows : List α) : Except (ℕ × String) (Option α) :=
  match rows with
  | [] => .ok none
  | [row] => .ok (some row)
  | _ :: _ :: _ => .error (500, "Internal Server Error")

def configsUnder (db : Db) (capability : String) (owner : Option ℕ) : List ProviderConfig :=
  db.providerConfigs.filter fun config => configFor capability config && config.tenantId = owner

/-- The configuration whose secrets a tenant is given. -/
def activeConfig (db : Db) (tenantId : ℕ) (capability : String) :
    Except (ℕ × String) ProviderConfig :=
  match scalarOneOrNone (configsUnder db capability (some tenantId)) with
  | .error e => .error e
  | .ok (some config) => .ok config
  | .ok none =>
    match scalarOneOrNone (configsUnder db capability none) with
    | .error e => .error e
    | .ok (some config) => .ok config
    | .ok none => .error (404, "No active provider for " ++ capability)

/-- What the endpoint returns beside the secrets. -/
structure SecretsReply where
  capability : String
  providerId : String
  mode : String
  settings : List (String × String)

/-- `GET /internal/v1/tenants/ref/provider-secrets/capability`; the sealed secrets
themselves are not modelled. -/
def providerSecrets (db : Db) (tenantRef capability : String) (svc : ServiceContext) :
    Except (ℕ × String) SecretsReply :=
  match tenantByRef db tenantRef svc with
  | .error e => .error e
  | .ok (tenantId, _) =>
    match activeConfig db tenantId capability with
    | .error e => .error e
    | .ok config =>
      .ok { capability, providerId := config.providerId, mode := config.mode
            settings := config.settings }

/-! ## Agreement -/

/-- Neither the policy nor the settings put another provider in the place of the
configuration's own. -/
def publishesOwn (now : Time) (policy : Option ProviderFailoverPolicy)
    (config : ProviderConfig) : Bool :=
  match policy.filter fun p => redPrimary p config with
  | some p => p.secondaryProviderId = config.providerId
  | none =>
    match config.settings.lookup "providerId" with
    | some providerId => providerId = config.providerId
    | none => (policy.filter fun p => trippedFor now p config).all fun p =>
      p.secondaryProviderId = config.providerId

/-- The endpoint finds one row where it looks: the tenant has one enabled configuration,
or it has none and there is at most one global one. -/
def soleConfig (db : Db) (tenantId : ℕ) (capability : String) : Bool :=
  match configsUnder db capability (some tenantId) with
  | [] => (configsUnder db capability none).length ≤ 1
  | own => own.length = 1

/-- The endpoint's row is unique and published under its own provider. -/
def sameProvider (now : Time) (db : Db) (tenantId : ℕ) (capability : String) : Bool :=
  soleConfig db tenantId capability
    && (chosenConfig db tenantId capability).all
      (publishesOwn now (chosenPolicy db.failoverPolicies tenantId capability))

section Agree
variable {db : Db} {now : Time} {t : ℕ} {c : String}

theorem chosenConfig_head? (db : Db) (t : ℕ) (c : String) :
    chosenConfig db t c
      = (configsUnder db c (some t)).head?.or (configsUnder db c none).head? := by
  rw [chosenConfig_eq, serving, rowOf, rowOf, configsUnder, configsUnder, List.head?_filter,
    List.head?_filter]

/-- Where the endpoint finds one row, it is the one the runtime config starts from. -/
theorem activeConfig_toOption (db : Db) (t : ℕ) (c : String) :
    (activeConfig db t c).toOption
      = if soleConfig db t c then chosenConfig db t c else none := by
  rw [chosenConfig_head?]
  match hown : configsUnder db c (some t), hglobal : configsUnder db c none with
  | [], [] => simp [activeConfig, soleConfig, scalarOneOrNone, Except.toOption, hown, hglobal]
  | [], [_] => simp [activeConfig, soleConfig, scalarOneOrNone, Except.toOption, hown, hglobal]
  | [], _ :: _ :: _ =>
    simp [activeConfig, soleConfig, scalarOneOrNone, Except.toOption, hown, hglobal]
  | [_], _ => simp [activeConfig, soleConfig, scalarOneOrNone, Except.toOption, hown]
  | _ :: _ :: _, _ => simp [activeConfig, soleConfig, scalarOneOrNone, Except.toOption, hown]

theorem soleConfig_of_none (h : chosenConfig db t c = none) : soleConfig db t c = true := by
  rw [chosenConfig_head?, Option.or_eq_none_iff, List.head?_eq_none_iff,
    List.head?_eq_none_iff] at h
  simp [soleConfig, h.1, h.2]

/-- An entry is published under the configuration's own provider exactly when the policy
and the settings leave it there. -/
theorem providerEntry_own_iff (policy : Option ProviderFailoverPolicy) (config : ProviderConfig) :
    (providerEntry now policy config).providerId = config.providerId
      ↔ publishesOwn now policy config = true := by
  simp only [providerEntry, publishesOwn]
  cases policy.filter fun p => redPrimary p config with
  | some p => simp
  | none =>
    cases config.settings.lookup "providerId" with
    | some providerId => simp
    | none => cases policy.filter fun p => trippedFor now p config <;> simp

end Agree

/-- **When the runtime config and the secrets endpoint name the same provider**: for every
state of configurations, policies and health, exactly when the endpoint finds one row and
neither failover nor the settings publish another provider for it. -/
theorem providers_agree_iff (db : Db) (now : Time) (tenantRef c : String) (svc : ServiceContext)
    (t : ℕ) (tenant : Tenant) (htenant : tenantByRef db tenantRef svc = .ok (t, tenant)) :
    (resolveProvider db now t c).map (·.providerId)
        = (providerSecrets db tenantRef c svc).toOption.map (·.providerId)
      ↔ sameProvider now db t c = true := by
  have hsecrets : (providerSecrets db tenantRef c svc).toOption.map (·.providerId)
      = (activeConfig db t c).toOption.map (·.providerId) := by
    simp only [providerSecrets, htenant]
    cases activeConfig db t c <;> rfl
  rw [hsecrets, activeConfig_toOption, resolveProvider, sameProvider]
  cases hchosen : chosenConfig db t c with
  | none => simp [soleConfig_of_none hchosen]
  | some config =>
    cases soleConfig db t c with
    | false => simp
    | true => simpa using providerEntry_own_iff _ config

namespace Example

/-- Payments go through one gateway, with another to fail over to at the first failure. -/
def payments : List Event :=
  [.staff (day 0) operator (.createTenant { externalId := "s", slug := "s", name := "School"
                                            planKey := none }),
   .staff (day 0) operator (.setConfig
      { capability := "payment", providerId := "paystack", reason := "launch" }),
   .staff (day 0) operator (.setFailover
      { failover with secondaryProviderId := "flutterwave", reason := "launch" })]

def school : ServiceContext := { clientId := "school", allowedTenantRefs := [] }

end Example

/-- Before any failure the school is told the provider whose secrets it is given. -/
theorem providers_agree_iff_example :
    (resolveProvider (run (step Example.settings) {} Example.payments) (Example.day 1) 0
        "payment").map (·.providerId)
      = (providerSecrets (run (step Example.settings) {} Example.payments) "s" "payment"
        Example.school).toOption.map (·.providerId) := by
  have htenant : ∃ tenant, tenantByRef (run (step Example.settings) {} Example.payments) "s"
      Example.school = .ok (0, tenant) := ⟨_, rfl⟩
  obtain ⟨tenant, htenant⟩ := htenant
  exact (providers_agree_iff _ (Example.day 1) "s" "payment" Example.school 0 tenant htenant).2
    (by decide)

/-- The two do not always agree: once the policy has tripped, the school is told the
secondary and given the secrets of the primary. -/
theorem not_providers_agree :
    ¬ ∀ (cfg : Settings) (db : Db), Reach cfg db → ∀ (now : Time) (tenantRef c : String)
      (svc : ServiceContext) (t : ℕ) (tenant : Tenant),
      tenantByRef db tenantRef svc = .ok (t, tenant) →
      (resolveProvider db now t c).map (·.providerId)
        = (providerSecrets db tenantRef c svc).toOption.map (·.providerId) := by
  intro h
  have htenant : ∃ tenant, tenantByRef (run (step Example.settings) {}
      (Example.payments ++ [.staff (Example.day 1) Example.operator (.tripFailover 0)])) "s"
      Example.school = .ok (0, tenant) := ⟨_, rfl⟩
  obtain ⟨tenant, htenant⟩ := htenant
  have hagree := h Example.settings _ ⟨_, rfl⟩ (Example.day 1) "s" "payment" Example.school 0
    tenant htenant
  revert hagree
  decide

end MultiAcademy.Control
