import MultiAcademy.Control.Enforcement
import MultiAcademy.Lib.OrderedMap

/-!
# The features of a tenant

`resolve_features` of `services/runtime_config.py`, and the freezes that
`_build_runtime_config_uncached` applies to its result.  The resolver fills one dictionary in
three passes: over the flags, where each source of a value overwrites the one before; over the
rollouts, which skip some flags; and over the freezes.  What remains of it is a rule that reads
the sources from the strongest to the weakest (`reference`).
-/

namespace MultiAcademy.Control

open MultiAcademy.Lib

/-! ## The rows -/

structure PlanEntitlement where
  planId : ℕ
  featureKey : String
  enabled : Bool := true
  quota : Option ℤ := none

structure FlagOverride where
  featureKey : String
  /-- `global`, `plan` or `tenant`. -/
  scope : String
  planId : Option ℕ := none
  tenantId : Option ℕ := none
  enabled : Bool := false

structure FlagCohortRollout where
  featureKey : String
  percentage : ℤ := 0
  cohortTags : List String := []
  enabled : Bool := true

/-- The flags, whose keys are unique, and the rollouts that are enabled. -/
structure CatalogSnapshot where
  flags : List FeatureFlag
  rollouts : List FlagCohortRollout
  keys : (flags.map (·.key)).Nodup

def catalogSnapshot (flags : Table FeatureFlag) (keys : (flags.map (·.key)).Nodup)
    (rollouts : Table FlagCohortRollout) : CatalogSnapshot :=
  { flags, keys, rollouts := rollouts.filter (·.enabled) }

/-! ## The resolver -/

def planRanks : List (String × ℕ) := [("basic", 1), ("premium", 2), ("elite", 3)]

def currentSubscription (db : Db) (tenantId : ℕ) : Option Subscription :=
  (db.subscriptions.last? fun sub => sub.tenantId = tenantId ∧ sub.isCurrent).bind fun s =>
    db.subscriptions[s]?

def Subscription.entitles (sub : Subscription) : Bool :=
  sub.status = .active || sub.status = .trialing

/-- What the resolver takes from the subscription: its plan, and what the plan or the deal
entitles to. -/
structure Entitled where
  plan : Option (ℕ × Plan) := none
  planEntitlements : OrderedMap String PlanEntitlement := .empty
  customEntitlements : List (String × Bool) := []
  quotas : List (String × ℤ) := []

def entitled (db : Db) (entitlements : Table PlanEntitlement) (sub : Subscription) : Entitled :=
  match sub.type with
  | .catalog =>
    match sub.planId.filter fun _ => sub.entitles with
    | none => {}
    | some planId =>
      match db.plans[planId]? with
      | none => {}
      | some plan =>
        let rows := entitlements.filter fun row => row.planId = planId
        { plan := some (planId, plan)
          planEntitlements := .setRows (·.featureKey) id rows .empty
          quotas := rows.filterMap fun row =>
            row.quota.map fun quota => (row.featureKey, quota) }
  | .custom =>
    if sub.entitles then
      { customEntitlements := sub.customEntitlements.getD []
        quotas := sub.customQuotas.getD [] }
    else {}

variable (applies : FlagOverride → Bool) (tags : List String) (sub : Option Subscription)

def overridesBy (overrides : List FlagOverride) :
    OrderedMap String FlagOverride :=
  .setRows (·.featureKey) id (overrides.filter applies) .empty

def globalOverride (row : FlagOverride) : Bool := row.scope = "global"

def planOverride (plan : Option (ℕ × Plan)) (row : FlagOverride) : Bool :=
  row.scope = "plan" && plan.any fun found => row.planId = some found.1

def tenantOverride (tenantId : ℕ) (row : FlagOverride) : Bool :=
  row.scope = "tenant" && row.tenantId = some tenantId

def planRank (plan : Option (ℕ × Plan)) : ℕ :=
  (plan.bind fun found => planRanks.lookup found.2.key).getD 0

/-- `if flag.min_plan`: neither null nor empty. -/
def minPlan? (flag : FeatureFlag) : Option String := flag.minPlan.filter fun text => text ≠ ""

/-- The value of a flag that no kill switch turns off, before the rollouts. -/
def baseEnabled (e : Entitled)
    (globals plans tenants : OrderedMap String FlagOverride) (flag : FeatureFlag) : Bool :=
  let enabled := flag.defaultEnabled
  let enabled := ((globals.get? flag.key).map (·.enabled)).getD enabled
  let enabled := ((plans.get? flag.key).map (·.enabled)).getD enabled
  let enabled :=
    match sub with
    | some sub =>
      match sub.type with
      | .custom =>
        match e.customEntitlements.lookup flag.key with
        | some value => value
        | none =>
          match minPlan? flag with
          | some _ => false
          | none => enabled
      | .catalog =>
        match e.planEntitlements.get? flag.key with
        | some row => row.enabled
        | none =>
          match minPlan? flag with
          | some required => (planRanks.lookup required).getD 99 ≤ planRank e.plan
          | none => enabled
    | none =>
      match minPlan? flag with
      | some _ => false
      | none => enabled
  ((tenants.get? flag.key).map (·.enabled)).getD enabled

/-- The pass over the flags: the features, and the keys of the kill switches. -/
def resolveFlag (base : FeatureFlag → Bool) (acc : OrderedMap String Bool × List String)
    (flag : FeatureFlag) : OrderedMap String Bool × List String :=
  if flag.killSwitch then (acc.1.set flag.key false, acc.2 ++ [flag.key])
  else (acc.1.set flag.key (base flag), acc.2)

/-- The rollout reaches the tenant by a tag, or by its bucket. -/
def FlagCohortRollout.hits (bucket : ℕ) (rollout : FlagCohortRollout) :
    Bool :=
  (tags.any fun tag => rollout.cohortTags.contains tag) || (bucket : ℤ) < rollout.percentage

/-- One rollout, on features that the flags have filled. -/
def applyRollout (bucket : ℕ) (killSwitches : List String)
    (tenants : OrderedMap String FlagOverride) (features : OrderedMap String Bool)
    (rollout : FlagCohortRollout) : OrderedMap String Bool :=
  match features.get? rollout.featureKey with
  | none => features
  | some on =>
    if rollout.featureKey ∈ killSwitches then features
    else if (tenants.get? rollout.featureKey).isSome then features
    else if rollout.hits tags bucket then features.set rollout.featureKey true
    else if on then features
    else features.set rollout.featureKey false

/-- What `resolve_features` returns. -/
structure ResolvedFeatures where
  features : OrderedMap String Bool
  quotas : List (String × ℤ)
  killSwitches : List String

/-- `resolve_features`; `digest` is the number that the first eight hexadecimal digits of the
SHA-256 of an external id make. -/
def resolveFeatures (digest : String → ℕ) (db : Db) (entitlements : Table PlanEntitlement)
    (overrides : Table FlagOverride) (catalog : CatalogSnapshot) (tenantId : ℕ)
    (tenant : Tenant) : ResolvedFeatures :=
  let overrides := overrides.filter fun row =>
    row.tenantId = some tenantId ∨ row.tenantId = none
  let sub := currentSubscription db tenantId
  let e := (sub.map (entitled db entitlements)).getD {}
  let tenants := overridesBy (tenantOverride tenantId) overrides
  let base := baseEnabled sub e (overridesBy globalOverride overrides)
    (overridesBy (planOverride e.plan) overrides) tenants
  let (features, killSwitches) := catalog.flags.foldl (resolveFlag base) (.empty, [])
  let bucket := digest tenant.externalId % 100
  { features := catalog.rollouts.foldl (applyRollout tenant.tags bucket killSwitches tenants)
      features
    quotas := e.quotas
    killSwitches }

/-- `text.rstrip("*")`. -/
def rstripStars (text : String) : List Char := (text.toList.reverse.dropWhile (· = '*')).reverse

/-- The freeze names the feature, or a prefix of it that ends in a star. -/
def frozenBy (frozen key : String) : Bool :=
  key = frozen || (rstripStars frozen).isPrefixOf key.toList && frozen.toList.getLast? = some '*'

def applyFreeze (features : OrderedMap String Bool) (frozen : String) : OrderedMap String Bool :=
  (features.entries.map (·.1)).foldl
    (fun features key => if frozenBy frozen key then features.set key false else features) features

/-- The features of `_build_runtime_config_uncached`. -/
def runtimeFeatures (digest : String → ℕ) (now : Time) (blocks : Table Block) (db : Db)
    (entitlements : Table PlanEntitlement) (overrides : Table FlagOverride)
    (catalog : CatalogSnapshot) (tenantId : ℕ) (tenant : Tenant) : OrderedMap String Bool :=
  (resolveEnforcement now blocks db tenantId tenant).capabilityFreezes.foldl applyFreeze
    (resolveFeatures digest db entitlements overrides catalog tenantId tenant).features

/-! ## The rule -/

/-- The last of the loaded overrides of a flag that applies. -/
def overrideOf (overrides : List FlagOverride)
    (flag : FeatureFlag) : Option Bool :=
  ((overrides.filter applies).reverse.find? fun row => row.featureKey = flag.key).map (·.enabled)

/-- What the subscription says of a flag: its deal or its plan names it, or a minimum plan
decides by rank. -/
def entitlementOf (e : Entitled) (flag : FeatureFlag) : Option Bool :=
  match sub with
  | some sub =>
    match sub.type with
    | .custom => (e.customEntitlements.lookup flag.key).or ((minPlan? flag).map fun _ => false)
    | .catalog =>
      ((e.planEntitlements.get? flag.key).map (·.enabled)).or
        ((minPlan? flag).map fun required =>
          (planRanks.lookup required).getD 99 ≤ planRank e.plan)
  | none => (minPlan? flag).map fun _ => false

/-- Some rollout of the flag reaches the tenant. -/
def rolledOut (rollouts : List FlagCohortRollout) (tags : List String) (bucket : ℕ)
    (key : String) : Bool :=
  rollouts.any fun rollout => rollout.featureKey = key && rollout.hits tags bucket

/-- The value of a flag by precedence: kill switch, tenant override, rollout, entitlement,
plan override, global override, default. -/
def reference (digest : String → ℕ) (db : Db) (entitlements : Table PlanEntitlement)
    (overrides : Table FlagOverride) (rollouts : List FlagCohortRollout) (tenantId : ℕ)
    (tenant : Tenant) (flag : FeatureFlag) : Bool :=
  let overrides := overrides.filter fun row =>
    row.tenantId = some tenantId ∨ row.tenantId = none
  let sub := currentSubscription db tenantId
  let e := (sub.map (entitled db entitlements)).getD {}
  if flag.killSwitch then false
  else
    ((overrideOf (tenantOverride tenantId) overrides flag).or
      ((if rolledOut rollouts tenant.tags (digest tenant.externalId % 100) flag.key then some true
          else none).or
        ((entitlementOf sub e flag).or
          ((overrideOf (planOverride e.plan) overrides flag).or
            (overrideOf globalOverride overrides flag))))).getD flag.defaultEnabled

/-- A rollout of the same feature that reaches at least the tenants it did. -/
structure Raised (rollout rollout' : FlagCohortRollout) : Prop where
  featureKey : rollout'.featureKey = rollout.featureKey
  enabled : rollout'.enabled = rollout.enabled
  percentage : rollout.percentage ≤ rollout'.percentage
  cohortTags : rollout.cohortTags ⊆ rollout'.cohortTags

/-! ## The pass over the flags -/

theorem overridesBy_get? (overrides : List FlagOverride)
    (flag : FeatureFlag) :
    ((overridesBy applies overrides).get? flag.key).map (·.enabled)
      = overrideOf applies overrides flag := by
  rw [overridesBy, OrderedMap.get?_setRows]
  simp [overrideOf]

/-- Overwriting in turn is reading in reverse. -/
theorem baseEnabled_eq (e : Entitled)
    (globals plans tenants : OrderedMap String FlagOverride) (flag : FeatureFlag) :
    baseEnabled sub e globals plans tenants flag
      = (((tenants.get? flag.key).map (·.enabled)).or
          ((entitlementOf sub e flag).or
            (((plans.get? flag.key).map (·.enabled)).or
              ((globals.get? flag.key).map (·.enabled))))).getD flag.defaultEnabled := by
  simp only [Option.getD_or]
  simp only [baseEnabled, entitlementOf]
  cases sub with
  | none => cases minPlan? flag <;> rfl
  | some sub =>
    dsimp only
    cases sub.type with
    | custom =>
      cases e.customEntitlements.lookup flag.key with
      | none => cases minPlan? flag <;> rfl
      | some value => rfl
    | catalog =>
      cases e.planEntitlements.get? flag.key with
      | none => cases minPlan? flag <;> rfl
      | some row => rfl

/-- The pass over the flags stores the value of each, and lists the kill switches. -/
theorem foldl_resolveFlag (base : FeatureFlag → Bool) (flags : List FeatureFlag)
    (acc : OrderedMap String Bool × List String) :
    flags.foldl (resolveFlag base) acc
      = (.setRows (·.key) (fun flag => if flag.killSwitch then false else base flag) flags acc.1,
        acc.2 ++ (flags.filter (·.killSwitch)).map (·.key)) := by
  induction flags generalizing acc with
  | nil => simp [OrderedMap.setRows]
  | cons flag flags ih =>
    rw [List.foldl_cons, ih]
    cases hkill : flag.killSwitch <;> simp [resolveFlag, OrderedMap.setRows, hkill]

/-! ## The pass over the rollouts -/

/-- What a rollout may turn on: no kill switch, and no override of the tenant. -/
def rolloutApplies (killSwitches : List String) (tenants : OrderedMap String FlagOverride)
    (key : String) : Bool :=
  !killSwitches.contains key && (tenants.get? key).isNone

theorem get?_applyRollout (bucket : ℕ) (killSwitches : List String)
    (tenants : OrderedMap String FlagOverride) (features : OrderedMap String Bool)
    (rollout : FlagCohortRollout) (key : String) :
    (applyRollout tags bucket killSwitches tenants features rollout).get? key
      = (features.get? key).map fun on => on || (rolloutApplies killSwitches tenants key
          && (rollout.featureKey = key && rollout.hits tags bucket)) := by
  simp only [applyRollout]
  by_cases hkey : rollout.featureKey = key
  · subst hkey
    cases hget : features.get? rollout.featureKey with
    | none => simp [hget]
    | some on =>
      dsimp only
      split
      · rename_i hkill
        simp [rolloutApplies, hkill, hget]
      rename_i hkill
      split
      · rename_i htenant
        have hnone : (tenants.get? rollout.featureKey).isNone = false := by
          simpa using htenant
        simp [rolloutApplies, hnone, hget]
      rename_i htenant
      have hnone : (tenants.get? rollout.featureKey).isNone = true := by
        simpa using htenant
      cases hhits : rollout.hits tags bucket <;> cases on <;>
        simp [rolloutApplies, hkill, hnone, hget, OrderedMap.get?_set]
  have hother : key ≠ rollout.featureKey := fun h => hkey h.symm
  have hset : ∀ value, (features.set rollout.featureKey value).get? key = features.get? key := by
    intro value
    rw [OrderedMap.get?_set, if_neg hother]
  simp only [hkey, decide_false, Bool.false_and, Bool.and_false, Bool.or_false]
  rw [Option.map_id']
  repeat' split
  all_goals first | rfl | exact hset _

/-- A feature is on after the rollouts if it was, or if one that may turn it on reaches the
tenant. -/
theorem get?_foldl_applyRollout (bucket : ℕ) (killSwitches : List String)
    (tenants : OrderedMap String FlagOverride) (rollouts : List FlagCohortRollout)
    (features : OrderedMap String Bool) (key : String) :
    (rollouts.foldl (applyRollout tags bucket killSwitches tenants) features).get? key
      = (features.get? key).map fun on => on || (rolloutApplies killSwitches tenants key
          && rolledOut rollouts tags bucket key) := by
  induction rollouts generalizing features with
  | nil => simp [rolledOut]
  | cons rollout rollouts ih =>
    rw [List.foldl_cons, ih, get?_applyRollout, Option.map_map]
    congr 1
    funext on
    simp only [Function.comp_apply, rolledOut, List.any_cons, Bool.and_or_distrib_left,
      Bool.or_assoc]

/-! ## The pass over the freezes -/

theorem get?_foldl_freeze (frozen : String) (keys : List String) (features : OrderedMap String Bool)
    (key : String) :
    (keys.foldl (fun features k => if frozenBy frozen k then features.set k false else features)
        features).get? key
      = if key ∈ keys ∧ frozenBy frozen key = true then some false else features.get? key := by
  induction keys generalizing features with
  | nil => simp
  | cons k keys ih =>
    rw [List.foldl_cons, ih]
    by_cases hk : key = k
    · subst hk
      cases hfrozen : frozenBy frozen key <;> simp [OrderedMap.get?_set]
    · cases hfrozen : frozenBy frozen k <;> simp [OrderedMap.get?_set, hk]

theorem get?_applyFreeze (features : OrderedMap String Bool) (frozen key : String) :
    (applyFreeze features frozen).get? key
      = (features.get? key).map fun on => on && !frozenBy frozen key := by
  rw [applyFreeze, get?_foldl_freeze]
  simp only [OrderedMap.mem_keys_iff]
  cases hget : features.get? key with
  | none => simp
  | some on => cases frozenBy frozen key <;> simp

theorem get?_foldl_applyFreeze (freezes : List String) (features : OrderedMap String Bool)
    (key : String) :
    (freezes.foldl applyFreeze features).get? key
      = (features.get? key).map fun on => on && !freezes.any fun frozen => frozenBy frozen key := by
  induction freezes generalizing features with
  | nil => simp
  | cons frozen freezes ih =>
    rw [List.foldl_cons, ih, get?_applyFreeze, Option.map_map]
    congr 1
    funext on
    simp [Bool.and_assoc]

/-! ## The passes together -/

/-- The freezes of a tenant name the feature. -/
def frozen (now : Time) (blocks : Table Block) (db : Db) (tenantId : ℕ) (tenant : Tenant)
    (key : String) : Bool :=
  (resolveEnforcement now blocks db tenantId tenant).capabilityFreezes.any fun text =>
    frozenBy text key

section Resolve
variable (digest : String → ℕ) (now : Time) (blocks : Table Block) (db : Db)
  (entitlements : Table PlanEntitlement) (overrides : Table FlagOverride) (tenantId : ℕ)
  (tenant : Tenant)

/-- The kill switches list a flag iff it is one. -/
theorem contains_killSwitches {flags : List FeatureFlag} (hkeys : (flags.map (·.key)).Nodup)
    {flag : FeatureFlag} (hflag : flag ∈ flags) :
    ((flags.filter (·.killSwitch)).map (·.key)).contains flag.key = flag.killSwitch := by
  cases hkill : flag.killSwitch with
  | true =>
    rw [List.contains_iff_mem, List.mem_map]
    exact ⟨flag, List.mem_filter.2 ⟨hflag, hkill⟩, rfl⟩
  | false =>
    rw [← Bool.not_eq_true, List.contains_iff_mem, List.mem_map]
    rintro ⟨flag', hflag', hkey⟩
    obtain ⟨hmem, hkill'⟩ := List.mem_filter.1 hflag'
    rw [List.inj_on_of_nodup_map hkeys hmem hflag hkey, hkill] at hkill'
    cases hkill'

theorem features_get?_of_mem (catalog : CatalogSnapshot) {flag : FeatureFlag}
    (hflag : flag ∈ catalog.flags) :
    (runtimeFeatures digest now blocks db entitlements overrides catalog tenantId tenant).get?
        flag.key
      = some (reference digest db entitlements overrides catalog.rollouts tenantId tenant flag
          && !frozen now blocks db tenantId tenant flag.key) := by
  have hkill := contains_killSwitches catalog.keys hflag
  have htenant := overridesBy_get? (tenantOverride tenantId)
    (overrides.filter fun row => row.tenantId = some tenantId ∨ row.tenantId = none) flag
  rw [runtimeFeatures, get?_foldl_applyFreeze]
  simp only [resolveFeatures, foldl_resolveFlag, get?_foldl_applyRollout, List.nil_append]
  rw [OrderedMap.get?_setRows_of_mem _ _ catalog.keys hflag, Option.map_some, Option.map_some]
  simp only [rolloutApplies, hkill, baseEnabled_eq, overridesBy_get?, reference, frozen]
  rw [← Option.isNone_map (f := (·.enabled)), htenant]
  cases hkilled : flag.killSwitch with
  | true => simp
  | false =>
    cases overrideOf (tenantOverride tenantId) _ flag with
    | some value => simp
    | none => cases rolledOut catalog.rollouts tenant.tags _ flag.key <;> simp

theorem mem_flags_of_feature (catalog : CatalogSnapshot) {key : String}
    (h : ((runtimeFeatures digest now blocks db entitlements overrides catalog tenantId
      tenant).get? key).isSome = true) : ∃ flag ∈ catalog.flags, flag.key = key := by
  rw [runtimeFeatures, get?_foldl_applyFreeze] at h
  simp only [resolveFeatures, foldl_resolveFlag, get?_foldl_applyRollout,
    OrderedMap.get?_setRows, OrderedMap.get?_empty, Option.or_none, Option.isSome_map] at h
  obtain ⟨flag, hflag⟩ := Option.isSome_iff_exists.1 h
  have hkey := List.find?_some hflag
  exact ⟨flag, List.mem_reverse.1 (List.mem_of_find?_eq_some hflag), of_decide_eq_true hkey⟩

end Resolve

/-! ## Rollouts that are raised -/

theorem Raised.hits {rollout rollout' : FlagCohortRollout} (h : Raised rollout rollout')
    {tags : List String} {bucket : ℕ} (hhits : rollout.hits tags bucket = true) :
    rollout'.hits tags bucket = true := by
  simp only [FlagCohortRollout.hits, Bool.or_eq_true, List.any_eq_true, List.contains_iff_mem,
    decide_eq_true_eq] at hhits ⊢
  refine hhits.imp ?_ fun hbucket => hbucket.trans_le h.percentage
  rintro ⟨tag, htag, hmem⟩
  exact ⟨tag, htag, h.cohortTags hmem⟩

theorem rolledOut_raised {rollouts rollouts' : List FlagCohortRollout}
    (h : List.Forall₂ Raised rollouts rollouts') {tags : List String} {bucket : ℕ} {key : String}
    (hhits : rolledOut (rollouts.filter (·.enabled)) tags bucket key = true) :
    rolledOut (rollouts'.filter (·.enabled)) tags bucket key = true := by
  induction h with
  | nil => exact hhits
  | cons hrow _ ih =>
    rename_i rollout rollout' _ _
    simp only [rolledOut, List.any_filter, List.any_cons, Bool.or_eq_true, Bool.and_eq_true,
      decide_eq_true_eq, hrow.featureKey, hrow.enabled] at hhits ih ⊢
    rcases hhits with ⟨henabled, hkey, hhits⟩ | hhits
    · exact Or.inl ⟨henabled, hkey, hrow.hits hhits⟩
    · exact Or.inr (ih hhits)

/-- The rule keeps a flag on when rollouts are raised. -/
theorem reference_raised {rollouts rollouts' : List FlagCohortRollout}
    (h : List.Forall₂ Raised rollouts rollouts') {digest : String → ℕ} {db : Db}
    {entitlements : Table PlanEntitlement} {overrides : Table FlagOverride} {tenantId : ℕ}
    {tenant : Tenant} {flag : FeatureFlag}
    (hon : reference digest db entitlements overrides (rollouts.filter (·.enabled)) tenantId tenant
      flag = true) :
    reference digest db entitlements overrides (rollouts'.filter (·.enabled)) tenantId tenant flag
      = true := by
  unfold reference at hon ⊢
  dsimp only at hon ⊢
  split at hon
  · cases hon
  rename_i hkill
  rw [if_neg hkill]
  cases hoverride : overrideOf (tenantOverride tenantId) (overrides.filter fun row =>
      row.tenantId = some tenantId ∨ row.tenantId = none) flag with
  | some value =>
    rw [hoverride] at hon
    simpa using hon
  | none =>
    rw [hoverride, Option.none_or] at hon
    rw [Option.none_or]
    by_cases hhits : rolledOut (rollouts'.filter (·.enabled)) tenant.tags
        (digest tenant.externalId % 100) flag.key = true
    · simp [hhits]
    have hmissed : ¬ rolledOut (rollouts.filter (·.enabled)) tenant.tags
        (digest tenant.externalId % 100) flag.key = true :=
      fun hhit => hhits (rolledOut_raised h hhit)
    rw [if_neg hmissed] at hon
    rw [if_neg hhits]
    exact hon

/-- **The resolver computes the rule.**  Its features are the flags, each with the value of the
rule unless it is frozen; and when rollouts are raised, every feature that was on stays on. -/
theorem features_eq_reference (digest : String → ℕ) (now : Time) (blocks : Table Block) (db : Db)
    (entitlements : Table PlanEntitlement) (overrides : Table FlagOverride)
    (flags : Table FeatureFlag) (keys : (flags.map (·.key)).Nodup)
    (rollouts : Table FlagCohortRollout) (tenantId : ℕ) (tenant : Tenant) :
    (∀ flag ∈ flags,
      (runtimeFeatures digest now blocks db entitlements overrides
          (catalogSnapshot flags keys rollouts) tenantId tenant).get? flag.key
        = some (reference digest db entitlements overrides (rollouts.filter (·.enabled)) tenantId
            tenant flag && !frozen now blocks db tenantId tenant flag.key))
      ∧ (∀ key, ((runtimeFeatures digest now blocks db entitlements overrides
          (catalogSnapshot flags keys rollouts) tenantId tenant).get? key).isSome = true →
        ∃ flag ∈ flags, flag.key = key)
      ∧ ∀ rollouts', List.Forall₂ Raised rollouts rollouts' → ∀ key,
        (runtimeFeatures digest now blocks db entitlements overrides
          (catalogSnapshot flags keys rollouts) tenantId tenant).get? key = some true →
        (runtimeFeatures digest now blocks db entitlements overrides
          (catalogSnapshot flags keys rollouts') tenantId tenant).get? key = some true := by
  have hrule : ∀ rollouts'' : Table FlagCohortRollout, ∀ flag ∈ flags,
      (runtimeFeatures digest now blocks db entitlements overrides
          (catalogSnapshot flags keys rollouts'') tenantId tenant).get? flag.key
        = some (reference digest db entitlements overrides (rollouts''.filter (·.enabled)) tenantId
            tenant flag && !frozen now blocks db tenantId tenant flag.key) :=
    fun rollouts'' flag hflag => features_get?_of_mem digest now blocks db entitlements overrides
      tenantId tenant (catalogSnapshot flags keys rollouts'') hflag
  refine ⟨hrule rollouts, fun key h => ?_, fun rollouts' hraised key hon => ?_⟩
  · exact mem_flags_of_feature digest now blocks db entitlements overrides tenantId tenant
      (catalogSnapshot flags keys rollouts) h
  obtain ⟨flag, hflag, rfl⟩ := mem_flags_of_feature digest now blocks db entitlements overrides
    tenantId tenant (catalogSnapshot flags keys rollouts) (by rw [hon]; rfl)
  rw [hrule rollouts flag hflag, Option.some.injEq, Bool.and_eq_true] at hon
  rw [hrule rollouts' flag hflag, reference_raised hraised hon.1, hon.2]
  rfl

/-! ## An example catalogue -/

namespace Example

def gateway : FeatureFlag :=
  { key := "fees.gateway", minPlan := some "premium", killSwitch := false }

def flags : Table FeatureFlag := [gateway, { key := "chat", killSwitch := true }]

theorem flags_keys : (flags.map (·.key)).Nodup := by decide

/-- A quarter of the schools, and the pilots. -/
def gatewayRollout : FlagCohortRollout :=
  { featureKey := "fees.gateway", percentage := 25, cohortTags := ["pilot"] }

end Example

/-- A school on the basic plan is among the quarter. -/
theorem features_eq_reference_example : ∃ tenant,
    (run (step Example.settings) {} Example.activated).tenants[0]? = some tenant
    ∧ (runtimeFeatures (fun _ => 17) (Example.day 1) []
        (run (step Example.settings) {} Example.activated) [] []
        (catalogSnapshot Example.flags Example.flags_keys [Example.gatewayRollout]) 0 tenant).get?
          Example.gateway.key
      = some (reference (fun _ => 17) (run (step Example.settings) {} Example.activated) [] []
          ([Example.gatewayRollout].filter (·.enabled)) 0 tenant Example.gateway
        && !frozen (Example.day 1) [] (run (step Example.settings) {} Example.activated) 0 tenant
          Example.gateway.key) := by
  obtain ⟨tenant, htenant⟩ := Example.activated_school
  exact ⟨tenant, htenant, (features_eq_reference (fun _ => 17) (Example.day 1) [] _ [] []
    Example.flags Example.flags_keys [Example.gatewayRollout] 0 tenant).1 Example.gateway
      List.mem_cons_self⟩

end MultiAcademy.Control
