import MultiAcademy.Control.ServiceEffects

/-!
# What undoes a blacklisting without an operator

A blacklisted tenant, under the steps nobody decides: the worker's stages, dunning,
payments and the calls of school servers.  The trial pass, the unsubscribed pass,
settlement and activation leave it alone; the other writers of a tenant's status do
not look at the status they overwrite.
-/

namespace MultiAcademy.Control

open MultiAcademy.Lib

variable {cfg : Settings} {now : Time} {t : ℕ}

/-- The worker's stages, dunning by itself, calls of school servers and payments. -/
def Event.automatic : Event → Bool
  | .stage _ _ | .advanceDunning _ _ _ | .service _ _ _ | .staff _ _ (.payInvoice _ _) => true
  | _ => false

/-- `advance_dunning` on subscription `s` would suspend the tenant. -/
def dunningSuspends (t s : ℕ) (db : Db) : Bool :=
  (db.subscriptions[s]?).any fun sub => sub.tenantId = t && pastWarnings sub

/-- The step takes tenant `t` off the blacklist. -/
def unblacklists (t : ℕ) (db : Db) : Event → Bool
  | .stage now .courtesyExpiry => courtesyHit now t db
  | .stage now .dunning => dunningHit now t db
  | .advanceDunning _ _ s => dunningSuspends t s db
  | .service _ svc (.provisioningResult tenantRef jobId body) =>
    reinitialized t db tenantRef jobId body svc
  | _ => false

/-! ## One step -/

/-- A tenant rewritten by `f` on a condition, and to another status when it is, stays
blacklisted exactly when the condition fails. -/
theorem blacklisted_iff_of_row {db db' : Db} {c : Bool} {f : Tenant → Tenant}
    (hb : statusOf db t = some .blacklisted) (hf : ∀ tenant, (f tenant).status ≠ .blacklisted)
    (hrow : db'.tenants[t]? = if c then (db.tenants[t]?).map f else db.tenants[t]?) :
    statusOf db' t = some .blacklisted ↔ c = false := by
  cases c with
  | false =>
    have heq : statusOf db' t = statusOf db t := statusOf_congr (by simpa using hrow)
    simp [heq, hb]
  | true =>
    obtain ⟨tenant, htenant, -⟩ := statusOf_eq_some.1 hb
    have hnew : statusOf db' t = some (f tenant).status := by
      simp [statusOf, hrow, htenant]
    simp [hnew, hf]

theorem blacklisted_of_row {db db' : Db} (hb : statusOf db t = some .blacklisted)
    (hrow : db'.tenants[t]? = db.tenants[t]?) :
    statusOf db' t = some .blacklisted ↔ false = false := by
  simp [statusOf_congr hrow, hb]

theorem initializationEffect_status (body : ProvisioningResult) (tenant : Tenant) :
    (initializationEffect body tenant).status ≠ .blacklisted := by
  unfold initializationEffect
  split <;> simp [lift, provisioningFailed]

theorem stage_blacklisted (stage : Stage) {db : Db} (hb : statusOf db t = some .blacklisted) :
    statusOf (runStage cfg now stage db) t = some .blacklisted
      ↔ unblacklists t db (.stage now stage) = false := by
  have hrow : (runStage cfg now stage db).tenants[t]?
      = (db.tenants[t]?).map (stageEffect cfg now stage t db) := runStage_tenant stage db
  obtain ⟨tenant, htenant, hstatus⟩ := statusOf_eq_some.1 hb
  have hactive : tenant.status ≠ .active := by rw [hstatus]; decide
  have hsame : ∀ f : Tenant → Tenant, (∀ tenant, (f tenant).status = tenant.status) →
      (runStage cfg now stage db).tenants[t]? = (db.tenants[t]?).map f →
      statusOf (runStage cfg now stage db) t = some .blacklisted := by
    intro f hf h
    simp [statusOf, h, htenant, hf, hstatus]
  cases stage with
  | trial =>
    -- the pass only restricts an active tenant
    have h : restrictIfActive tenant = tenant := by simp [restrictIfActive, hactive]
    refine blacklisted_of_row hb ?_
    rw [hrow, htenant, stageEffect, Option.map_some]
    split
    · rw [h]
    · rfl
  | generateDue => exact blacklisted_of_row hb (by simpa [stageEffect] using hrow)
  | unsubscribed =>
    -- the pass only scans active tenants
    have hmiss : unsubscribedHit now (workerGraceDays cfg) t db = false := by
      simp [unsubscribedHit, htenant, unsubscribedCandidate, hactive]
    exact blacklisted_of_row hb (by simpa [stageEffect, hmiss] using hrow)
  | courtesyExpiry =>
    by_cases hhit : courtesyHit now t db = true
    · refine blacklisted_iff_of_row hb (fun tenant => ?_)
        (by simpa [stageEffect, hhit, unblacklists] using hrow)
      rw [expireCourtesyUnlock_status]
      decide
    -- an unlock that is cleared leaves the status
    rw [Bool.not_eq_true] at hhit
    simp only [stageEffect, hhit] at hrow
    refine iff_of_true (hsame _ ?_ hrow) hhit
    intro tenant
    simp only [Bool.false_eq_true, if_false]
    split <;> rfl
  | dunning =>
    refine blacklisted_iff_of_row hb (fun tenant => by simp [dunningSuspend])
      (f := dunningSuspend) ?_
    rw [hrow, stageEffect, map_ite_id]
    rfl
  | wipes => exact blacklisted_of_row hb (by simpa [stageEffect] using hrow)

theorem serviceCall_blacklisted (svc : ServiceContext) (call : ServiceCall) {db : Db}
    (hb : statusOf db t = some .blacklisted) :
    statusOf (call.handle cfg now svc db).db t = some .blacklisted
      ↔ unblacklists t db (.service now svc call) = false := by
  have hne : statusOf db t ≠ some .suspended := by rw [hb]; decide
  obtain ⟨tenant, htenant, -⟩ := statusOf_eq_some.1 hb
  cases call with
  | changeTenantSubscription tenantRef body =>
    exact blacklisted_of_row hb (by rw [ServiceCall.handle, changeTenantSubscription_tenants])
  | settleTenantInvoice tenantRef i body =>
    exact blacklisted_of_row hb
      ((settleTenantInvoice_cases tenantRef i body svc db).tenant_of_not_suspended hne)
  | offboardResult tenantRef jobId body =>
    exact blacklisted_of_row hb (by rw [ServiceCall.handle, offboardResult_tenants])
  | provisioningResult tenantRef jobId body =>
    exact blacklisted_iff_of_row hb (initializationEffect_status body)
      (provisioningResult_tenant tenantRef jobId body svc db)
  | registerTenant tenantRef freshToken body =>
    refine blacklisted_of_row hb ?_
    rw [htenant]
    exact registerTenant_tenant tenantRef freshToken body htenant
  | activateTenant tenantRef =>
    exact blacklisted_of_row hb (activateTenant_of_blacklisted tenantRef svc hb)

/-- **One automatic step** on a blacklisted tenant. -/
theorem step_blacklisted (t : ℕ) {db : Db} {e : Event} (hauto : e.automatic = true)
    (hb : statusOf db t = some .blacklisted) :
    statusOf (step cfg e db) t = some .blacklisted ↔ unblacklists t db e = false := by
  cases e with
  | stage now stage => exact stage_blacklisted stage hb
  | advanceDunning now graceDays s =>
    exact blacklisted_iff_of_row hb (fun tenant => by simp [dunningSuspend])
      (advanceDunning_tenant graceDays s db)
  | service now svc call => exact serviceCall_blacklisted svc call hb
  | staff now staff call =>
    cases call with
    | payInvoice i body =>
      have hne : statusOf db t ≠ some .suspended := by rw [hb]; decide
      refine blacklisted_of_row hb ?_
      simp only [step, respond]
      split
      · exact (payInvoice_cases staff i body db).tenant_of_not_suspended hne
      · rfl
    | _ => cases hauto
  | catalogue plans flags => cases hauto

/-! ## Runs -/

/-- **A tenant stays blacklisted exactly along the runs of automatic steps none of which
meets the condition of a writer that ignores the blacklist.** -/
theorem blacklisted_forever_iff (cfg : Settings) (t : ℕ) (db : Db) (es : List Event)
    (hauto : ∀ e ∈ es, e.automatic = true) (hb : statusOf db t = some .blacklisted) :
    (∀ pre, pre <+: es → statusOf (run (step cfg) db pre) t = some .blacklisted)
      ↔ Along (step cfg) (fun db e => unblacklists t db e = false) db es :=
  (along_iff_throughout (I := fun db => statusOf db t = some .blacklisted)
    (D := fun _ e => e.automatic = true)
    (fun _ _ hauto hb => step_blacklisted t hauto hb) (along_of_forall hauto) hb).symm

/-! ## A run that undoes one -/

def Example.blacklisting : List Event :=
  opened ++ [.staff (day 1) operator (.blacklistTenant 0 { reason := "abuse" })]

def Example.blacklisted : Db := run (step settings) {} blacklisting

/-- The dunning stages of three days; the invoice fell due on day 14. -/
def Example.dunning : List Event :=
  [.stage (day 20) .dunning, .stage (day 21) .dunning, .stage (day 40) .dunning]

/-- The equivalence at the blacklisted school, over three dunning stages. -/
theorem blacklisted_forever_iff_example :
    (∀ pre, pre <+: Example.dunning →
        statusOf (run (step Example.settings) Example.blacklisted pre) 0 = some .blacklisted)
      ↔ Along (step Example.settings) (fun db e => unblacklists 0 db e = false)
        Example.blacklisted Example.dunning :=
  blacklisted_forever_iff Example.settings 0 Example.blacklisted Example.dunning (by decide)
    (by decide)

/-- Not every run of automatic steps leaves a blacklisted tenant blacklisted: dunning
suspends it. -/
theorem not_blacklisted_forever :
    ¬ ∀ (cfg : Settings) (db : Db) (t : ℕ) (es : List Event), Reach cfg db →
      (∀ e ∈ es, e.automatic = true) → statusOf db t = some .blacklisted →
      statusOf (run (step cfg) db es) t = some .blacklisted := by
  intro h
  have hstill := h Example.settings Example.blacklisted 0 Example.dunning
    ⟨Example.blacklisting, rfl⟩ (by decide) (by decide)
  revert hstill
  decide

end MultiAcademy.Control
