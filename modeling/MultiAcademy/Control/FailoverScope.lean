import MultiAcademy.Control.ProviderAgreement

/-!
# Whose provider failover replaces

The loop of `resolve_providers` in `services/runtime_config.py` once more, for the
question which of the chosen configurations a failover policy bears on.  A policy
names its primary, and a red primary is replaced only where it is the chosen
provider; a tripped policy is asked `cfg.provider_id == policy.primary_provider_id or
policy.is_tripped`, whose second half holds of every policy in force.

## Main results

* `redirected_iff` — when the entry of a capability names another provider than the
  configuration does.
* `redirects_primary_iff` — when only the primary of a policy is replaced.
-/

namespace MultiAcademy.Control

open MultiAcademy.Lib

/-- The provider a configuration is published under when no policy bears on it. -/
def unredirected (config : ProviderConfig) : String :=
  (config.settings.lookup "providerId").getD config.providerId

/-- The entry served for a configuration is replaced only as its policy's primary. -/
structure PrimaryReplaced (now : Time) (policy : Option ProviderFailoverPolicy)
    (config : ProviderConfig) (entry : ProviderEntry) : Prop where
  /-- A replaced provider is the primary of a tripped policy, or of one whose primary is
  unhealthy, and the policy's secondary stands in for it. -/
  cause : entry.providerId ≠ unredirected config →
    ∃ p, policy = some p ∧ entry.providerId = p.secondaryProviderId
      ∧ (failoverActive now p = true ∨ config.healthStatus = "red")
      ∧ config.providerId = p.primaryProviderId
  /-- A tenant's own provider that is not the primary stays. -/
  own : ∀ t, config.tenantId = some t →
    (∀ p, policy = some p → config.providerId ≠ p.primaryProviderId) →
      entry.providerId = unredirected config

/-- **Failover redirects only the primary** of what a tenant is served with. -/
def RedirectsPrimaryOnly (db : Db) (now : Time) (t : ℕ) (c : String) : Prop :=
  ∀ config entry, chosenConfig db t c = some config →
    resolveProvider db now t c = some entry →
      PrimaryReplaced now (chosenPolicy db.failoverPolicies t c) config entry

/-- The policy, while it is in force, has this configuration's provider for its primary;
or its replacement changes nothing, as the settings name the provider themselves or the
secondary serves already. -/
def aimedAt (now : Time) (policy : ProviderFailoverPolicy) (config : ProviderConfig) : Prop :=
  failoverActive now policy = true →
    config.providerId = policy.primaryProviderId
      ∨ (config.settings.lookup "providerId").isSome = true
      ∨ config.providerId = policy.secondaryProviderId

section Scope
variable {now : Time} {policy : ProviderFailoverPolicy} {config : ProviderConfig}

/-- A policy in force bears on every provider: `or policy.is_tripped` always holds there. -/
theorem trippedFor_eq : trippedFor now policy config = failoverActive now policy := by
  simp only [trippedFor, failoverActive]
  cases policy.isTripped <;> simp

theorem providerEntry_none :
    (providerEntry now none config).providerId = unredirected config := by
  simp [providerEntry, unredirected]

theorem providerEntry_red (hred : redPrimary policy config = true) :
    (providerEntry now (some policy) config).providerId = policy.secondaryProviderId := by
  simp [providerEntry, Option.filter, hred]

theorem providerEntry_tripped (hred : redPrimary policy config = false) :
    (providerEntry now (some policy) config).providerId
      = (config.settings.lookup "providerId").getD
          (if failoverActive now policy then policy.secondaryProviderId
            else config.providerId) := by
  cases hactive : failoverActive now policy <;>
    simp [providerEntry, Option.filter, hred, trippedFor_eq, hactive]

/-- **When the entry names another provider** than the configuration, for a provider that is
not a red primary: the policy is in force and its secondary is news. -/
theorem redirected_iff (hred : redPrimary policy config = false) :
    (providerEntry now (some policy) config).providerId ≠ unredirected config
      ↔ failoverActive now policy = true
        ∧ config.settings.lookup "providerId" = none
        ∧ config.providerId ≠ policy.secondaryProviderId := by
  rw [providerEntry_tripped hred, unredirected]
  cases hsettings : config.settings.lookup "providerId" with
  | some providerId => simp
  | none =>
    cases hactive : failoverActive now policy with
    | false => simp
    | true => simpa using ne_comm

/-- The entry of a configuration replaces only the primary exactly when the policy is aimed
at the configuration. -/
theorem primaryReplaced_iff :
    PrimaryReplaced now (some policy) config (providerEntry now (some policy) config)
      ↔ aimedAt now policy config := by
  cases hred : redPrimary policy config with
  | true =>
    have hfacts : (policy.enabled = true ∧ config.providerId = policy.primaryProviderId)
        ∧ config.healthStatus = "red" := by
      simpa [redPrimary] using hred
    refine iff_of_true ⟨fun _ => ?_, fun t _ hnot => ?_⟩ fun _ => .inl hfacts.1.2
    · exact ⟨policy, rfl, providerEntry_red hred, .inr hfacts.2, hfacts.1.2⟩
    · exact absurd hfacts.1.2 (hnot policy rfl)
  | false =>
    constructor
    · intro h hactive
      by_cases hmoved :
          (providerEntry now (some policy) config).providerId = unredirected config
      · have hkept : ¬ (failoverActive now policy = true
            ∧ config.settings.lookup "providerId" = none
            ∧ config.providerId ≠ policy.secondaryProviderId) :=
          (redirected_iff hred).not.1 (not_not.2 hmoved)
        refine .inr ?_
        by_cases hsettings : config.settings.lookup "providerId" = none
        · exact .inr (by_contra fun hne => hkept ⟨hactive, hsettings, hne⟩)
        · exact .inl (Option.isSome_iff_ne_none.2 hsettings)
      obtain ⟨p, hp, -, -, hprimary⟩ := h.cause hmoved
      exact .inl (Option.some.inj hp ▸ hprimary)
    intro h
    -- A replaced provider is in neither of the two cases where replacing changes nothing.
    have hprimary : (providerEntry now (some policy) config).providerId
        ≠ unredirected config → failoverActive now policy = true
          ∧ config.providerId = policy.primaryProviderId := by
      intro hmoved
      have hnew := (redirected_iff hred).1 hmoved
      have haimed := h hnew.1
      simp only [hnew.2.1, Option.isSome_none, Bool.false_eq_true, hnew.2.2, or_false]
        at haimed
      exact ⟨hnew.1, haimed⟩
    refine ⟨fun hmoved => ⟨policy, rfl, ?_, .inl (hprimary hmoved).1, (hprimary hmoved).2⟩,
      fun t _ hnot => ?_⟩
    · have hnew := (redirected_iff hred).1 hmoved
      rw [providerEntry_tripped hred, hnew.2.1, hnew.1, Option.getD_none, if_pos rfl]
    · exact by_contra fun hmoved => hnot policy rfl (hprimary hmoved).2

end Scope

/-- **When failover redirects only the primary**: for every state of configurations, policies
and health, exactly when the tenant's policy is aimed at the configuration that is chosen. -/
theorem redirects_primary_iff (db : Db) (now : Time) (t : ℕ) (c : String) :
    RedirectsPrimaryOnly db now t c
      ↔ ∀ config policy, chosenConfig db t c = some config →
          chosenPolicy db.failoverPolicies t c = some policy → aimedAt now policy config := by
  simp only [RedirectsPrimaryOnly, resolveProvider]
  cases chosenConfig db t c with
  | none => simp
  | some config =>
    cases chosenPolicy db.failoverPolicies t c with
    | none =>
      refine iff_of_true ?_ (by simp)
      intro config' entry hconfig hentry
      obtain rfl := Option.some.inj hconfig
      obtain rfl := Option.some.inj hentry
      exact ⟨fun hmoved => absurd providerEntry_none hmoved,
        fun _ _ _ => providerEntry_none⟩
    | some policy => simpa using primaryReplaced_iff

namespace Example

/-- The platform's payment gateway has failed over, and the school has a gateway of its own
that the platform's policy does not name. -/
def ownGateway : Db :=
  run (step settings) {} (payments ++
    [.staff (day 0) operator (.setConfig
      { capability := "payment", tenantId := some 0, providerId := "monnify", reason := "own" }),
     .staff (day 1) operator (.tripFailover 0)])

end Example

/-- A school's own gateway is replaced when the platform's primary trips, though the policy
is not about it. -/
theorem not_redirects_primary :
    ¬ ∀ (cfg : Settings) (db : Db), Reach cfg db → ∀ (now : Time) (t : ℕ) (c : String),
      RedirectsPrimaryOnly db now t c := by
  intro h
  have hreach : Reach Example.settings Example.ownGateway := ⟨_, rfl⟩
  have hchosen : (chosenConfig Example.ownGateway 0 "payment").any (fun config =>
      config.tenantId = some 0 ∧ unredirected config = "monnify"
        ∧ config.providerId = "monnify") = true := by
    decide
  have hserved : (resolveProvider Example.ownGateway (Example.day 1) 0 "payment").any
      (fun entry => entry.providerId = "flutterwave") = true := by
    decide
  have hprimary : (chosenPolicy Example.ownGateway.failoverPolicies 0 "payment").all
      (fun policy => policy.primaryProviderId = "paystack") = true := by
    decide
  obtain ⟨config, hconfig, hown⟩ := (Option.any_eq_true _ _).1 hchosen
  obtain ⟨entry, hentry, hsecondary⟩ := (Option.any_eq_true _ _).1 hserved
  simp only [decide_eq_true_eq] at hown hsecondary
  have hkept : entry.providerId = unredirected config := by
    refine (h _ _ hreach (Example.day 1) 0 "payment" config entry hconfig hentry).own 0 hown.1 ?_
    intro policy hpolicy hsame
    rw [hpolicy, Option.all_some, decide_eq_true_eq, ← hsame, hown.2.2] at hprimary
    exact absurd hprimary (by decide)
  rw [hsecondary, hown.2.1] at hkept
  exact absurd hkept (by decide)

end MultiAcademy.Control
