import MultiAcademy.Control.Blacklisting

/-!
# What a school server is told to enforce

`resolve_enforcement` and `trial_metadata`: the part of the runtime config that decides
about logins.  It denies them for the tenant's status and, whatever that is, for a trial
that is over.  The trial pass and the enforcement read the trial alone, so a tenant that
has bought a subscription since is locked out when its trial ends.
-/

namespace MultiAcademy.Control

open MultiAcademy.Lib

/-! ## The enforcement of a tenant -/

/-- A block of a user, a device or a capability; `none` is for every tenant. -/
structure Block where
  targetType : String
  value : String
  tenantId : Option ℕ := none
  isActive : Bool := true
  expiresAt : Option Time := none

def Block.active (now : Time) (block : Block) : Bool :=
  block.isActive && !block.expiresAt.any fun expires => expires < now

def blockedValues (blocks : List Block) (targetType : String) : List String :=
  (blocks.filter fun block => block.targetType = targetType).map (·.value)

/-- What `trial_metadata` tells of a trial. -/
structure TrialMetadata where
  enabled : Bool
  status : TrialStatus
  durationDays : ℤ
  startedAt : String
  endsAt : String
  daysRemaining : ℤ
  expired : Bool

/-- The trial has run out, and no pass has seen it yet. -/
def TenantTrial.due (now : Time) (trial : TenantTrial) : Bool :=
  trial.enabled && trial.status = .active && trial.endsAt ≤ now

def trialMetadata (now : Time) (db : Db) (tenantId : ℕ) : Option TrialMetadata :=
  (trialOf db tenantId).map fun trial =>
    let expired := trial.due now
    { enabled := trial.enabled
      status := if expired then .expired else trial.status
      durationDays := trial.durationDays
      startedAt := isoformat trial.startedAt
      endsAt := isoformat trial.endsAt
      daysRemaining :=
        if trial.enabled ∧ !expired then max 0 ((trial.endsAt - now) / Time.days 1) else 0
      expired := expired || trial.status = .expired }

/-- The dictionary of `resolve_enforcement`. -/
structure Enforcement where
  schoolBlacklisted : Bool
  blockedUserIds : List String
  blockedEmails : List String
  blockedIpCidrs : List String
  blockedDevices : List String
  capabilityFreezes : List String
  denyLogin : Bool
  trialExpired : Bool
  message : Option String

def TenantStatus.deniesLogin (status : TenantStatus) : Bool :=
  status = .pendingVerification || status = .blacklisted || status = .suspended
    || status = .restricted || status = .provisioning || status = .archived

def activeBlocks (now : Time) (blocks : Table Block) (tenantId : ℕ) : List Block :=
  (blocks.filter fun block =>
    block.isActive ∧ (block.tenantId = some tenantId ∨ block.tenantId = none)).filter
      (Block.active now)

def resolveEnforcement (now : Time) (blocks : Table Block) (db : Db) (tenantId : ℕ)
    (tenant : Tenant) : Enforcement :=
  let blocks := activeBlocks now blocks tenantId
  let trialExpired := (trialMetadata now db tenantId).any (·.expired)
  { schoolBlacklisted := tenant.status = .blacklisted
    blockedUserIds := blockedValues blocks "user"
    blockedEmails := blockedValues blocks "email"
    blockedIpCidrs := blockedValues blocks "ip"
    blockedDevices := blockedValues blocks "device"
    capabilityFreezes := blockedValues blocks "capability"
    denyLogin := tenant.status.deniesLogin || trialExpired
    trialExpired
    message := if tenant.statusMessage = "" then none else some tenant.statusMessage }

/-! ## Trials of paying tenants -/

variable {cfg : Settings} {now : Time} {t : ℕ} {db : Db}

def lockedByTrialPass (cfg : Settings) (now : Time) (t : ℕ) (db : Db) : Prop :=
  ∃ status, statusOf (runTrialPass cfg now db).2 t = some status
    ∧ statusOf db t ≠ some status ∧ (status = .restricted ∨ status = .suspended)

/-- Neither the trial pass nor the enforcement holds the trial against the tenant. -/
def spared (cfg : Settings) (now : Time) (blocks : Table Block) (t : ℕ) (tenant : Tenant)
    (db : Db) : Prop :=
  ¬ lockedByTrialPass cfg now t db
    ∧ (resolveEnforcement now blocks db t tenant).trialExpired = false

/-- A trial of the tenant is over: a pass has seen it end, or would. -/
def trialOver (now : Time) (t : ℕ) (db : Db) : Bool :=
  db.trials.existsRow fun trial =>
    trial.tenantId = t && (trial.due now || trial.status = .expired)

/-- In a table with one trial each, the trial of a tenant is the one `trialOf` finds. -/
theorem trialOf_eq {i : ℕ} {trial : TenantTrial} (hone : OneTrial db.trials)
    (hrow : db.trials[i]? = some trial) : trialOf db trial.tenantId = some trial := by
  obtain ⟨k, trial', hfirst, hrow', hsame⟩ :=
    Table.exists_first? (p := fun row => row.tenantId = trial.tenantId)
      (List.mem_of_getElem? hrow) (decide_eq_true rfl)
  have hk : k = i := by
    have hlt : k < (db.trials.map (·.tenantId)).length := by
      rw [List.length_map]
      exact lt_length hrow'
    refine (List.getElem?_inj hlt hone).1 ?_
    rw [List.getElem?_map, List.getElem?_map, hrow, hrow', Option.map_some, Option.map_some,
      of_decide_eq_true hsame]
  rw [trialOf, hfirst, Option.bind_some, hrow', ← hrow, ← hrow', hk]

theorem trialExpired_eq (hone : OneTrial db.trials) (blocks : Table Block) (tenant : Tenant) :
    (resolveEnforcement now blocks db t tenant).trialExpired = trialOver now t db := by
  rw [Bool.eq_iff_iff, trialOver, Table.existsRow_iff]
  simp only [resolveEnforcement, trialMetadata, Option.any_map, Option.any_eq_true,
    Bool.and_eq_true, decide_eq_true_eq]
  constructor
  · rintro ⟨trial, htrial, hover⟩
    obtain ⟨i, hfirst, hrow⟩ := Option.bind_eq_some_iff.1 htrial
    obtain ⟨trial', hrow', hsame⟩ := Table.mem_select.1 (Table.mem_of_first? hfirst)
    rw [hrow] at hrow'
    cases hrow'
    exact ⟨i, trial, hrow, of_decide_eq_true hsame, hover⟩
  rintro ⟨i, trial, hrow, rfl, hover⟩
  exact ⟨trial, trialOf_eq hone hrow, hover⟩

/-- The pass locks only tenants with a trial that is over. -/
theorem not_lockedByTrialPass (h : trialOver now t db = false) :
    ¬ lockedByTrialPass cfg now t db := by
  have hdue : trialDue now t db = false := by
    by_contra hdue
    rw [Bool.not_eq_false] at hdue
    obtain ⟨i, trial, hrow, hread⟩ := Table.existsRow_iff.1 hdue
    simp only [dueFor, Bool.and_eq_true, Bool.decide_and, decide_eq_true_eq] at hread
    obtain ⟨henabled, ht, hactive, hends⟩ := hread
    have hover : trialOver now t db = true :=
      Table.existsRow_iff.2 ⟨i, trial, hrow, by
        simp [ht, TenantTrial.due, henabled, hactive, hends]⟩
    rw [h] at hover
    cases hover
  rintro ⟨status, hstatus, hnew, -⟩
  rw [statusOf, runTrialPass_tenant, hdue] at hstatus
  exact hnew hstatus

/-- **The trial spares a paying tenant exactly while it is not over.** -/
theorem trial_spares_paying_iff (cfg : Settings) (now : Time) (db : Db) (blocks : Table Block)
    (t : ℕ) (tenant : Tenant) (hreach : Reach cfg db) :
    (hasActiveSubscription db t = true → spared cfg now blocks t tenant db)
      ↔ (hasActiveSubscription db t = true → trialOver now t db = false) := by
  refine imp_congr_right fun _ => ?_
  rw [spared, trialExpired_eq hreach.oneTrial]
  exact ⟨fun h => h.2, fun h => ⟨not_lockedByTrialPass h, h⟩⟩

/-- The example school pays from its first day, and is activated, which starts its trial. -/
def Example.activated : List Event :=
  opened ++ [.service (day 0) { clientId := "school", allowedTenantRefs := [] }
    (.activateTenant "s")]

theorem Example.activated_school :
    ∃ tenant, (run (step settings) {} activated).tenants[0]? = some tenant :=
  Option.isSome_iff_exists.1 (by decide)

/-- The example school is spared on day 30, while its trial runs. -/
theorem trial_spares_paying_iff_example : ∃ tenant,
    (run (step Example.settings) {} Example.activated).tenants[0]? = some tenant
    ∧ (hasActiveSubscription (run (step Example.settings) {} Example.activated) 0 = true →
      spared Example.settings (Example.day 30) [] 0 tenant
        (run (step Example.settings) {} Example.activated)) := by
  obtain ⟨tenant, htenant⟩ := Example.activated_school
  exact ⟨tenant, htenant, (trial_spares_paying_iff Example.settings (Example.day 30) _ [] 0 tenant
    ⟨Example.activated, rfl⟩).2 fun _ => by decide⟩

/-- The trial does not spare every paying tenant: the pass of day 91 restricts it. -/
theorem not_trial_spares_paying :
    ¬ ∀ (cfg : Settings) (now : Time) (db : Db) (blocks : Table Block) (t : ℕ) (tenant : Tenant),
      Reach cfg db → db.tenants[t]? = some tenant → hasActiveSubscription db t = true →
      spared cfg now blocks t tenant db := by
  intro h
  obtain ⟨tenant, htenant⟩ := Example.activated_school
  obtain ⟨hlocked, -⟩ := h Example.settings (Example.day 91) _ [] 0 tenant
    ⟨Example.activated, rfl⟩ htenant (by decide)
  exact hlocked ⟨.restricted, by decide, by decide, Or.inl rfl⟩

end MultiAcademy.Control
