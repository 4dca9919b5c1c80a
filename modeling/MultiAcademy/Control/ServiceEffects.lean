import MultiAcademy.Control.BookSteps

/-!
# What payments and school servers do to one tenant

The counterpart of `Control/StageEffects.lean` for requests that no operator decides:
payments, through either endpoint, and the calls of school servers.
-/

namespace MultiAcademy.Control

open MultiAcademy.Lib

variable {cfg : Settings} {now : Time} {t : ℕ}

def statusOf (db : Db) (t : ℕ) : Option TenantStatus := (db.tenants[t]?).map (·.status)

variable {payment : SaasPayment} {db : Db} {inv : SaasInvoice}

theorem statusOf_eq_some {status : TenantStatus} :
    statusOf db t = some status
      ↔ ∃ tenant, db.tenants[t]? = some tenant ∧ tenant.status = status := by
  simp only [statusOf, Option.map_eq_some_iff]

theorem statusOf_congr {db' : Db} (h : db'.tenants[t]? = db.tenants[t]?) :
    statusOf db' t = statusOf db t := by
  rw [statusOf, h, statusOf]

/-! ## Payments -/

/-- The payment settles an invoice of the tenant and lifts its suspension. -/
def liftedBy (t : ℕ) (payment : SaasPayment) (inv : SaasInvoice) (db : Db) : Prop :=
  inv.tenantId = t ∧ inv.amountMinor ≤ inv.amountPaidMinor + payment.amountMinor
    ∧ liftsSuspension db payment.invoiceId t = true

theorem paidTenants_of_lifted
    (h : liftedBy t payment inv db) :
    (paidTenants payment inv db)[t]? = (db.tenants[t]?).map lift := by
  obtain ⟨rfl, hfull, hlifts⟩ := h
  rw [paidTenants, if_pos ⟨hfull, hlifts⟩, List.getElem?_modify]
  simp

theorem paidTenants_of_not_lifted
    (h : ¬ liftedBy t payment inv db) :
    (paidTenants payment inv db)[t]? = db.tenants[t]? := by
  simp only [paidTenants]
  split
  · rename_i hcond
    have hne : inv.tenantId ≠ t := by
      rintro rfl
      exact h ⟨rfl, hcond⟩
    simp [hne]
  · rfl

theorem suspended_of_lifted
    (h : liftedBy t payment inv db) : statusOf db t = some .suspended := by
  obtain ⟨-, -, hlifts⟩ := h
  simp only [liftsSuspension, Bool.and_eq_true, Option.any_eq_true] at hlifts
  obtain ⟨⟨tenant, htenant, hstatus⟩, -⟩ := hlifts
  exact statusOf_eq_some.2 ⟨tenant, htenant, of_decide_eq_true hstatus.1⟩

theorem PaysOnce.tenant_of_not_suspended {db' : Db} (h : PaysOnce cfg now db db')
    (hs : statusOf db t ≠ some .suspended) : db'.tenants[t]? = db.tenants[t]? := by
  rcases h with rfl | ⟨payment, inv, ha, hrec⟩
  · rfl
  obtain ⟨-, -, ht, -⟩ := recordPayment_spec ha.row ha.positive hrec
  rw [ht]
  exact paidTenants_of_not_lifted fun hl => hs (suspended_of_lifted hl)

/-! ## Results of an initialization -/

/-- The reported result rewrites a tenant's status: initialized, or failed. -/
def ProvisioningResult.final (body : ProvisioningResult) : Bool :=
  (body.status = "succeeded" && body.schoolDbStatus = "ready")
    || (body.status = "failed" && (SchoolDbStatus.ofString? body.schoolDbStatus).isSome)

/-- The reported result reaches tenant `t` and rewrites its status. -/
def reinitialized (t : ℕ) (db : Db) (tenantRef : String) (jobId : ℕ) (body : ProvisioningResult)
    (svc : ServiceContext) : Bool :=
  (tenantByRef db tenantRef svc).toOption.any (fun found => found.1 = t)
    && (db.provisioningJobs[jobId]?).any (fun job => job.tenantId = t) && body.final

/-- What a final result does to its tenant. -/
def initializationEffect (body : ProvisioningResult) : Tenant → Tenant :=
  if body.status = "succeeded" then lift else provisioningFailed

theorem ofReported?_eq_some {s : String} {status : JobStatus} :
    JobStatus.ofReported? s = some status
      ↔ (s = "running" ∧ status = .running) ∨ (s = "succeeded" ∧ status = .succeeded)
        ∨ (s = "failed" ∧ status = .failed) := by
  simp only [JobStatus.ofReported?]
  split <;> simp_all [eq_comm]

theorem ofString?_eq_ready {s : String} :
    SchoolDbStatus.ofString? s = some .ready ↔ s = "ready" := by
  simp only [SchoolDbStatus.ofString?]
  split <;> simp_all

theorem initializeTrialOnce_tenants (t : ℕ) (db : Db) :
    (initializeTrialOnce cfg now t db).tenants = db.tenants := by
  simp only [initializeTrialOnce]
  split <;> rfl

theorem applyInitializationResult_tenants (tenantId jobId : ℕ) (status : JobStatus)
    (schoolDbStatus : SchoolDbStatus) (error : String) (db : Db) :
    (applyInitializationResult cfg now tenantId jobId status schoolDbStatus error db).tenants
      = if status = .succeeded ∧ schoolDbStatus = .ready then db.tenants.modify tenantId lift
        else if status = .failed then db.tenants.modify tenantId provisioningFailed
        else db.tenants := by
  simp only [applyInitializationResult]
  split
  · rw [initializeTrialOnce_tenants]
  · split <;> rfl

variable {body : ProvisioningResult} (tenantRef : String)

theorem final_of_unknown_status
    (h : JobStatus.ofReported? body.status = none) : body.final = false := by
  simp only [JobStatus.ofReported?] at h
  split at h <;> simp_all [ProvisioningResult.final]

theorem final_of_unknown_dbStatus
    (h : SchoolDbStatus.ofString? body.schoolDbStatus = none) : body.final = false := by
  have hready : body.schoolDbStatus ≠ "ready" := by
    intro hready
    rw [ofString?_eq_ready.2 hready] at h
    cases h
  simp [ProvisioningResult.final, hready, h]

theorem final_of_not_ready {schoolDbStatus : SchoolDbStatus}
    (hstatus : body.status = "succeeded")
    (hdb : SchoolDbStatus.ofString? body.schoolDbStatus = some schoolDbStatus)
    (hready : schoolDbStatus ≠ .ready) : body.final = false := by
  have hready' : body.schoolDbStatus ≠ "ready" := by
    intro h
    rw [ofString?_eq_ready.2 h, Option.some.injEq] at hdb
    exact hready hdb.symm
  simp [ProvisioningResult.final, hstatus, hready']

/-- A known result on a tenant, when it is taken. -/
theorem takenResult_tenant {status : JobStatus}
    {schoolDbStatus : SchoolDbStatus} (hstatus : JobStatus.ofReported? body.status = some status)
    (hdb : SchoolDbStatus.ofString? body.schoolDbStatus = some schoolDbStatus)
    (htaken : ¬ (status = .succeeded ∧ schoolDbStatus ≠ .ready)) (tenantId jobId : ℕ)
    (error : String) (db : Db) :
    (applyInitializationResult cfg now tenantId jobId status schoolDbStatus error db).tenants[t]?
      = if tenantId = t ∧ body.final = true then (db.tenants[t]?).map (initializationEffect body)
        else db.tenants[t]? := by
  have hready : schoolDbStatus = .ready ↔ body.schoolDbStatus = "ready" := by
    rw [← ofString?_eq_ready, hdb, Option.some.injEq]
  rw [applyInitializationResult_tenants]
  rcases ofReported?_eq_some.1 hstatus with ⟨h, rfl⟩ | ⟨h, rfl⟩ | ⟨h, rfl⟩
  · simp [ProvisioningResult.final, h]
  · have hr : schoolDbStatus = .ready := by
      by_contra hne
      exact htaken ⟨rfl, hne⟩
    have hr' := hready.1 hr
    by_cases ht : tenantId = t <;>
      simp [ProvisioningResult.final, initializationEffect, h, hr, hr', ht]
  by_cases ht : tenantId = t <;>
    simp [ProvisioningResult.final, initializationEffect, h, hdb, ht]

/-- **A reported initialization result on one tenant.** -/
theorem provisioningResult_tenant (jobId : ℕ) (body : ProvisioningResult)
    (svc : ServiceContext) (db : Db) :
    (provisioningResult cfg now tenantRef jobId body svc db).db.tenants[t]?
      = if reinitialized t db tenantRef jobId body svc then
          (db.tenants[t]?).map (initializationEffect body)
        else db.tenants[t]? := by
  unfold provisioningResult forTenant reinitialized
  cases href : tenantByRef db tenantRef svc with
  | error e => simp [Except.toOption]
  | ok found =>
    obtain ⟨tenantId, tenant⟩ := found
    cases hjob : db.provisioningJobs[jobId]? with
    | none => simp
    | some job =>
      by_cases htenant : job.tenantId = tenantId
      · subst htenant
        simp only [ne_eq, not_true_eq_false, if_false, Except.toOption, Option.any_some,
          Bool.and_self]
        cases hstatus : JobStatus.ofReported? body.status with
        | none => simp [final_of_unknown_status hstatus]
        | some status =>
          cases hdb : SchoolDbStatus.ofString? body.schoolDbStatus with
          | none => simp [final_of_unknown_dbStatus hdb]
          | some schoolDbStatus =>
            by_cases hrefused : status = .succeeded ∧ schoolDbStatus ≠ .ready
            · obtain ⟨rfl, hnot⟩ := hrefused
              rcases ofReported?_eq_some.1 hstatus with ⟨-, h⟩ | ⟨h, -⟩ | ⟨-, h⟩
              · cases h
              · simp [final_of_not_ready h hdb hnot, hnot]
              · cases h
            simp only [hrefused, if_false, commit_db,
              takenResult_tenant hstatus hdb hrefused, Bool.and_eq_true,
              decide_eq_true_eq]
      have hne : ¬ (tenantId = t ∧ job.tenantId = t) := by
        rintro ⟨h, h'⟩
        exact htenant (h'.trans h.symm)
      simp only [ne_eq, htenant, not_false_eq_true, if_true, raise_db, Except.toOption,
        Option.any_some, Bool.and_eq_true, decide_eq_true_eq]
      rw [if_neg fun h => hne h.1]

/-! ## The other calls -/

theorem changeTenantSubscription_tenants (body : CatalogSubscriptionChange)
    (svc : ServiceContext) (db : Db) :
    (changeTenantSubscription now tenantRef body svc db).db.tenants = db.tenants := by
  simp only [changeTenantSubscription]
  rcases forTenant_cases db tenantRef svc _ with h | ⟨t, tenant, -, -, h⟩ <;> rw [h]
  split
  · rfl
  split
  · rfl
  split
  · rfl
  · rw [commit_db, createInvoiceForSubscription_tenants]

theorem offboardResult_tenants (jobId : ℕ) (body : OffboardResultBody)
    (svc : ServiceContext) (db : Db) :
    (offboardResult tenantRef jobId body svc db).db.tenants = db.tenants := by
  simp only [offboardResult]
  rcases forTenant_cases db tenantRef svc _ with h | ⟨t, tenant, -, -, h⟩ <;> rw [h]
  split
  · rfl
  split
  · rfl
  split
  · rfl
  · split <;> rfl

theorem ensureInstall_tenants (t : ℕ) (token deviceHash : String) (db : Db) :
    (ensureInstall cfg t token deviceHash db).2.tenants = db.tenants := by
  simp only [ensureInstall]
  split <;> rfl

/-- A registration leaves every tenant that exists alone. -/
theorem registerTenant_tenant (tenantRef freshToken : String) (body : RegisterBody)
    {tenant : Tenant} (h : db.tenants[t]? = some tenant) :
    (registerTenant cfg now tenantRef freshToken body db).db.tenants[t]? = some tenant := by
  unfold registerTenant
  simp only
  split
  · exact h
  split
  · split
    · exact h
    · rw [commit_db, ensureInstall_tenants]; exact h
  split
  · exact h
  split
  · exact h
  rw [commit_db, ensureInstall_tenants]
  have hlt := lt_length h
  rw [Table.getElem?_insert, if_neg (by rw [Table.nextId]; omega), h]

/-- A blacklisted tenant is not activated by its school server. -/
theorem activateTenant_of_blacklisted (svc : ServiceContext)
    (hb : statusOf db t = some .blacklisted) :
    (activateTenant cfg now tenantRef svc db).db.tenants[t]? = db.tenants[t]? := by
  obtain ⟨row, hrow, hstatus⟩ := statusOf_eq_some.1 hb
  simp only [activateTenant]
  rcases forTenant_cases db tenantRef svc _ with h | ⟨t', tenant, -, htenant, h⟩ <;> rw [h]
  split
  · rfl
  rename_i hnot
  split
  · rfl
  -- another tenant: this one would have been refused
  have hne : t' ≠ t := by
    rintro rfl
    rw [htenant] at hrow
    cases hrow
    exact hnot hstatus
  rw [commit_db, initializeTrialOnce_tenants]
  split
  · simp [hne]
  · rfl

end MultiAcademy.Control
