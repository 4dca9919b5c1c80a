import MultiAcademy.Control.UsageMetering

/-!
# Two readings of a quota

The cap check of usage metering and the `usageRemaining` of the runtime config weigh the
usage of a month against a quota.  Metering reads the custom quotas of the current
subscription, whatever its type and status; the config reads the quotas of the plan or of
the deal while the subscription is active or trialing, by feature, and keeps one number for
all the meters of a feature.
-/

namespace MultiAcademy.Control

open MultiAcademy.Lib

/-! ## The config -/

/-- `meter.feature_key if meter else meter_key`. -/
def featureFor (meters : Table UsageMeter) (meterKey : String) : String :=
  match meterOf meters meterKey with
  | some meter => meter.featureKey
  | none => meterKey

def monthRollups (now : Time) (rollups : OrderedMap RollupKey ℤ) (tenantId : ℕ) :
    List (String × ℤ) :=
  (rollups.entries.filter fun e =>
    e.1.tenantId = tenantId ∧ e.1.periodKey = usagePeriod now).map fun e => (e.1.meterKey, e.2)

/-- What a rollup leaves of the quota of its feature. -/
def setRemaining (meters : Table UsageMeter) (quotas : List (String × ℤ))
    (remaining : OrderedMap String ℤ) (rollup : String × ℤ) : OrderedMap String ℤ :=
  match quotas.lookup (featureFor meters rollup.1) with
  | none => remaining
  | some cap => remaining.set (featureFor meters rollup.1) (max 0 (cap - rollup.2))

/-- The quotas of `resolve_features`. -/
def publishedQuotas (db : Db) (entitlements : Table PlanEntitlement) (tenantId : ℕ) :
    List (String × ℤ) :=
  (((currentSubscription db tenantId).map (entitled db entitlements)).getD {}).quotas

/-- `usageRemaining` of the runtime config; `meters` are those of the catalogue snapshot it
is built from. -/
def usageRemaining (now : Time) (meters : Table UsageMeter) (entitlements : Table PlanEntitlement)
    (u : UsageDb) (tenantId : ℕ) : OrderedMap String ℤ :=
  (monthRollups now u.rollups tenantId).foldl
    (setRemaining meters (publishedQuotas u.control entitlements tenantId)) .empty

/-! ## The two readings -/

def signalsHardCap (now : Time) (u : UsageDb) (tenantId : ℕ) (meterKey : String)
    (quantity : ℤ) : Bool :=
  ((checkUsageCaps now tenantId meterKey quantity { u with signals := .empty }).signals.get?
    ⟨tenantId, "usage_hard_cap", meterKey ++ ":" ++ usagePeriod now⟩).isSome

/-- The config shows no usage remaining for a meter. -/
def noneRemaining (now : Time) (meters : Table UsageMeter) (entitlements : Table PlanEntitlement)
    (u : UsageDb) (tenantId : ℕ) (meterKey : String) : Bool :=
  (usageRemaining now meters entitlements u tenantId).get? (featureFor meters meterKey) = some 0

/-- The recorded usage of a meter this month. -/
def usedThisMonth (now : Time) (u : UsageDb) (tenantId : ℕ) (meterKey : String) : ℤ :=
  (u.rollups.get? ⟨tenantId, meterKey, usagePeriod now⟩).getD 0

def meteredQuota (u : UsageDb) (tenantId : ℕ) (meterKey : String) : Option ℤ :=
  (resolveQuota u tenantId meterKey).filter (0 < ·)

/-- The usage of the last rollup of a feature, which the config weighs. -/
def latestUsage (meters : Table UsageMeter) (rollups : List (String × ℤ)) (featureKey : String) :
    Option ℤ :=
  (rollups.reverse.find? fun rollup => featureFor meters rollup.1 = featureKey).map (·.2)

/-- The meter's usage against the metered quota, and the latest usage of its feature
against the published one, lie on the same side; a quota that is missing is not reached. -/
def QuotasAgree (metered published : Option ℤ) (used : ℤ) (latest : Option ℤ) : Prop :=
  match metered, published with
  | none, none => True
  | some quota, none => used < quota
  | none, some cap => ∀ l ∈ latest, l < cap
  | some quota, some cap =>
    (quota ≤ used ∧ ∃ l ∈ latest, cap ≤ l) ∨ (used < quota ∧ ∀ l ∈ latest, l < cap)

section Readings
variable {now : Time} {u : UsageDb} {tenantId : ℕ} {meterKey : String} {quantity : ℤ}
  {meters : Table UsageMeter} {entitlements : Table PlanEntitlement}

theorem signalsHardCap_iff :
    signalsHardCap now u tenantId meterKey quantity = true
      ↔ ∃ quota ∈ meteredQuota u tenantId meterKey, quota ≤ quantity := by
  have hquota : resolveQuota { u with signals := .empty } tenantId meterKey
      = resolveQuota u tenantId meterKey := rfl
  simp only [signalsHardCap, checkUsageCaps, hquota, meteredQuota]
  cases resolveQuota u tenantId meterKey with
  | none => simp
  | some quota =>
    by_cases hpos : quota ≤ 0
    · simp [hpos, not_lt.2 hpos]
    have hkey : (⟨tenantId, "usage_hard_cap", meterKey ++ ":" ++ usagePeriod now⟩ : SignalKey)
        ≠ ⟨tenantId, "usage_soft_cap", meterKey ++ ":" ++ usagePeriod now⟩ := by simp
    simp only [if_neg hpos, capReached]
    by_cases hcap : quota ≤ quantity
    · simp [hcap, raiseSignal, OrderedMap.get?_set, not_le.1 hpos]
    by_cases hsoft : quota * 4 / 5 ≤ quantity
    · simp [hcap, hsoft, raiseSignal, OrderedMap.get?_set, hkey]
    · simp [hcap, hsoft]

theorem latestUsage_cons (rollup : String × ℤ) (rollups : List (String × ℤ))
    (featureKey : String) :
    latestUsage meters (rollup :: rollups) featureKey
      = (latestUsage meters rollups featureKey).or
          (if featureFor meters rollup.1 = featureKey then some rollup.2 else none) := by
  simp only [latestUsage, List.reverse_cons, List.find?_append]
  cases rollups.reverse.find? fun r => featureFor meters r.1 = featureKey with
  | some r => rfl
  | none => by_cases h : featureFor meters rollup.1 = featureKey <;> simp [h]

/-- What the pass over the rollups leaves at a feature: its quota less the latest usage. -/
theorem get?_foldl_setRemaining (quotas : List (String × ℤ)) (rollups : List (String × ℤ))
    (remaining : OrderedMap String ℤ) (featureKey : String) :
    (rollups.foldl (setRemaining meters quotas) remaining).get? featureKey
      = ((quotas.lookup featureKey).bind fun cap =>
          (latestUsage meters rollups featureKey).map fun used => max 0 (cap - used)).or
        (remaining.get? featureKey) := by
  induction rollups generalizing remaining with
  | nil => cases quotas.lookup featureKey <;> rfl
  | cons rollup rollups ih =>
    rw [List.foldl_cons, ih, latestUsage_cons]
    simp only [setRemaining]
    by_cases hkey : featureFor meters rollup.1 = featureKey
    · subst hkey
      cases quotas.lookup (featureFor meters rollup.1) with
      | none => simp
      | some cap =>
        cases latestUsage meters rollups (featureFor meters rollup.1) <;>
          simp [OrderedMap.get?_set]
    have hother : featureKey ≠ featureFor meters rollup.1 := fun h => hkey h.symm
    cases quotas.lookup (featureFor meters rollup.1) <;>
      simp [hkey, hother, OrderedMap.get?_set]

theorem noneRemaining_iff :
    noneRemaining now meters entitlements u tenantId meterKey = true
      ↔ ∃ cap ∈ (publishedQuotas u.control entitlements tenantId).lookup
            (featureFor meters meterKey),
          ∃ used ∈ latestUsage meters (monthRollups now u.rollups tenantId)
            (featureFor meters meterKey), cap ≤ used := by
  rw [noneRemaining, decide_eq_true_eq, usageRemaining, get?_foldl_setRemaining]
  cases (publishedQuotas u.control entitlements tenantId).lookup (featureFor meters meterKey) with
  | none => simp
  | some cap =>
    cases latestUsage meters (monthRollups now u.rollups tenantId)
        (featureFor meters meterKey) with
    | none => simp
    | some used =>
      have hside : cap - used ≤ 0 ↔ cap ≤ used := by omega
      simp [hside]

end Readings

/-- **When metering and the config enforce the same quota**: a meter's hard cap is
signalled exactly where the config shows nothing remaining, if and only if the quotas the
two read agree on the usages they weigh. -/
theorem same_cap_iff (now : Time) (meters : Table UsageMeter)
    (entitlements : Table PlanEntitlement) (u : UsageDb) (tenantId : ℕ) (meterKey : String) :
    (signalsHardCap now u tenantId meterKey (usedThisMonth now u tenantId meterKey) = true
        ↔ noneRemaining now meters entitlements u tenantId meterKey = true)
      ↔ QuotasAgree (meteredQuota u tenantId meterKey)
          ((publishedQuotas u.control entitlements tenantId).lookup (featureFor meters meterKey))
          (usedThisMonth now u tenantId meterKey)
          (latestUsage meters (monthRollups now u.rollups tenantId)
            (featureFor meters meterKey)) := by
  rw [signalsHardCap_iff, noneRemaining_iff]
  cases meteredQuota u tenantId meterKey with
  | none =>
    cases (publishedQuotas u.control entitlements tenantId).lookup
        (featureFor meters meterKey) with
    | none => simp [QuotasAgree]
    | some cap => simp [QuotasAgree]
  | some quota =>
    cases (publishedQuotas u.control entitlements tenantId).lookup
        (featureFor meters meterKey) with
    | none => simp [QuotasAgree]
    | some cap => simp [QuotasAgree, iff_iff_and_or_not_and_not]

/-! ## By the kind of subscription -/

section Kinds
variable {now : Time} {u : UsageDb} {tenantId : ℕ} {meterKey : String} {quantity : ℤ}
  {meters : Table UsageMeter} {entitlements : Table PlanEntitlement} {sub : Subscription}

end Kinds

namespace Example

/-- One checkout of a school on the basic plan. -/
def checkedOut : Metering :=
  run (meteringStep settings) (.fresh {})
    (opened.map .control ++ [.report (day 0) (checkoutUsage "s" "PAY-1").toCall])

/-- The basic plan comes with one gateway payment a month. -/
def gatewayQuota : Table PlanEntitlement :=
  [{ planId := 0, featureKey := "fees.gateway", quota := some 1 }]

end Example

/-- The two do not always enforce the same quota: a plan's is published, and used up, and
metering does not know it. -/
theorem not_same_cap :
    ¬ ∀ (now : Time) (meters : Table UsageMeter) (entitlements : Table PlanEntitlement)
      (u : UsageDb) (tenantId : ℕ) (meterKey : String),
      signalsHardCap now u tenantId meterKey (usedThisMonth now u tenantId meterKey) = true
        ↔ noneRemaining now meters entitlements u tenantId meterKey = true := by
  intro h
  have hsame := h (Example.day 0) Example.checkedOut.usage.meters Example.gatewayQuota
    Example.checkedOut.usage 0 "gateway_checkouts"
  revert hsame
  decide

end MultiAcademy.Control
