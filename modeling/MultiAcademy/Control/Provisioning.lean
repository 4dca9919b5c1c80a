import MultiAcademy.Control.Enforcement

/-!
# Reports of initializations

Provisioning jobs are started and retried by operators, and the school server reports on each
of them, in any order and any number of times.  `provisioning_result` takes a report whatever
the status of its job, and whether or not the tenant has a newer job.
-/

namespace MultiAcademy.Control

open MultiAcademy.Lib

/-- What can happen to a provisioning job. -/
inductive ProvisionOp
  /-- A start of a job, or a retry under a key that is in use. -/
  | start (now : Time) (staff : StaffContext) (tenantId : ℕ) (key : String)
  | report (now : Time) (svc : ServiceContext) (tenantRef : String) (jobId : ℕ)
      (body : ProvisioningResult)
  /-- Anything else, which leaves the jobs alone. -/
  | elsewhere (db : Db)

/-- One operation. -/
def provisionStep (cfg : Settings) (op : ProvisionOp) (db : Db) : Db :=
  match op with
  | .start now staff tenantId key => (provisionTenant cfg now staff tenantId key db).db
  | .report now svc tenantRef jobId body =>
    (provisioningResult cfg now tenantRef jobId body svc db).db
  | .elsewhere db' => { db' with provisioningJobs := db.provisioningJobs }

def JobStatus.terminal : JobStatus → Bool
  | .succeeded | .failed => true
  | .queued | .running => false

def provisioningStatus (db : Db) (j : ℕ) : Option JobStatus :=
  (db.provisioningJobs[j]?).map (·.status)

/-- The tenant has a job that is newer than job `j`. -/
def superseded (db : Db) (t j : ℕ) : Bool :=
  (db.provisioningJobs.drop (j + 1)).any fun job => job.tenantId = t

def KeepsTerminal (db db' : Db) : Prop :=
  ∀ j status, provisioningStatus db j = some status → status.terminal = true →
    provisioningStatus db' j = some status

/-- A report for a job that is not the latest of its tenant changes neither the tenant's status
nor a newer job. -/
def StaleHarmless (op : ProvisionOp) (db db' : Db) : Prop :=
  match op with
  | .report _ _ _ jobId _ => ∀ job, db.provisioningJobs[jobId]? = some job →
      superseded db job.tenantId jobId = true →
      statusOf db' job.tenantId = statusOf db job.tenantId
        ∧ ∀ k, jobId < k → db'.provisioningJobs[k]? = db.provisioningJobs[k]?
  | _ => True

/-- The operation leaves alone what a late report should leave alone. -/
def LateHarmless (cfg : Settings) (db : Db) (op : ProvisionOp) : Prop :=
  KeepsTerminal db (provisionStep cfg op db) ∧ StaleHarmless op db (provisionStep cfg op db)

/-! ## When a report regresses -/

/-- The tenant and the status that a report sets on its job, when it is not refused. -/
def reported (db : Db) (svc : ServiceContext) (tenantRef : String) (jobId : ℕ)
    (body : ProvisioningResult) : Option (ℕ × JobStatus) :=
  match tenantByRef db tenantRef svc, db.provisioningJobs[jobId]?,
      JobStatus.ofReported? body.status, SchoolDbStatus.ofString? body.schoolDbStatus with
  | .ok (t, _), some job, some status, some schoolDbStatus =>
    if job.tenantId = t ∧ ¬ (status = .succeeded ∧ schoolDbStatus ≠ .ready) then some (t, status)
    else none
  | _, _, _, _ => none

def JobStatus.brings : JobStatus → Option TenantStatus
  | .succeeded => some .active
  | .failed => some .provisioning
  | .queued | .running => none

/-- A taken report gives a terminal job another status, or comes for a superseded job and gives
the tenant another status. -/
def regresses (db : Db) (op : ProvisionOp) : Bool :=
  match op with
  | .report _ svc tenantRef jobId body =>
    (reported db svc tenantRef jobId body).any fun (t, status) =>
      (provisioningStatus db jobId).any (fun now => now.terminal && now ≠ status)
        || superseded db t jobId && status.brings.any fun brought => statusOf db t ≠ some brought
  | _ => false

variable {cfg : Settings} {now : Time}

/-- A report is refused without effect, or its result is applied to the job of the tenant. -/
theorem provisioningResult_spec (cfg : Settings) (now : Time) (tenantRef : String) (jobId : ℕ)
    (body : ProvisioningResult) (svc : ServiceContext) (db : Db) :
    (reported db svc tenantRef jobId body = none
      ∧ (provisioningResult cfg now tenantRef jobId body svc db).db = db)
    ∨ ∃ t tenant job status schoolDbStatus,
        reported db svc tenantRef jobId body = some (t, status)
        ∧ db.tenants[t]? = some tenant ∧ db.provisioningJobs[jobId]? = some job
        ∧ job.tenantId = t ∧ (status = .succeeded → schoolDbStatus = .ready)
        ∧ (provisioningResult cfg now tenantRef jobId body svc db).db
          = applyInitializationResult cfg now t jobId status schoolDbStatus body.error db := by
  simp only [provisioningResult, reported]
  cases href : tenantByRef db tenantRef svc with
  | error e => exact Or.inl ⟨rfl, by simp [forTenant, href]⟩
  | ok found =>
    obtain ⟨t, tenant⟩ := found
    have htenant : db.tenants[t]? = some tenant := tenantByRef_row href
    cases hjob : db.provisioningJobs[jobId]? with
    | none => exact Or.inl ⟨rfl, by simp [forTenant, href]⟩
    | some job =>
      by_cases howner : job.tenantId = t
      · cases hstatus : JobStatus.ofReported? body.status with
        | none => exact Or.inl ⟨rfl, by simp [forTenant, href, howner]⟩
        | some status =>
          cases hdb : SchoolDbStatus.ofString? body.schoolDbStatus with
          | none => exact Or.inl ⟨rfl, by simp [forTenant, href, howner]⟩
          | some schoolDbStatus =>
            by_cases hrefused : status = .succeeded ∧ schoolDbStatus ≠ .ready
            · exact Or.inl ⟨by simp [hrefused], by simp [forTenant, href, howner, hrefused]⟩
            have hready : status = .succeeded → schoolDbStatus = .ready :=
              fun h => not_not.1 fun hne => hrefused ⟨h, hne⟩
            refine Or.inr ⟨t, tenant, job, status, schoolDbStatus, ?_, htenant, rfl,
              howner, hready, ?_⟩
            · simp only [howner, hrefused, not_false_eq_true, and_self, if_true]
            simp only [forTenant, href, howner, ne_eq, not_true_eq_false, if_false,
              hrefused, commit_db]
      refine Or.inl ⟨?_, by simp [forTenant, href, howner]⟩
      cases JobStatus.ofReported? body.status with
      | none => rfl
      | some status => cases SchoolDbStatus.ofString? body.schoolDbStatus <;> simp [howner]

/-! ## What a taken report changes -/

theorem applyInitializationResult_jobs (cfg : Settings) (now : Time) (t jobId : ℕ)
    (status : JobStatus) (schoolDbStatus : SchoolDbStatus) (error : String) (db : Db) :
    (applyInitializationResult cfg now t jobId status schoolDbStatus error db).provisioningJobs
      = db.provisioningJobs.modify jobId (recordResult now status schoolDbStatus error) := by
  simp only [applyInitializationResult]
  split
  · simp only [initializeTrialOnce]
    split <;> rfl
  · split <;> rfl

/-- The tenant's status after a taken report. -/
theorem statusOf_applyInitializationResult {t jobId : ℕ} {status : JobStatus}
    {schoolDbStatus : SchoolDbStatus} {error : String} {db : Db} {tenant : Tenant}
    (htenant : db.tenants[t]? = some tenant)
    (hready : status = .succeeded → schoolDbStatus = .ready) :
    statusOf (applyInitializationResult cfg now t jobId status schoolDbStatus error db) t
      = status.brings.or (statusOf db t) := by
  rw [statusOf, applyInitializationResult_tenants, statusOf]
  cases status with
  | succeeded => simp [hready rfl, htenant, lift, JobStatus.brings]
  | failed => simp [htenant, provisioningFailed, JobStatus.brings]
  | queued => simp [JobStatus.brings]
  | running => simp [JobStatus.brings]

/-- Only the status of the reported job is rewritten. -/
theorem keepsTerminal_of_recordResult {db db' : Db} {jobId : ℕ} {job : TenantProvisioningJob}
    {status : JobStatus} {schoolDbStatus : SchoolDbStatus} {error : String}
    (hjob : db.provisioningJobs[jobId]? = some job)
    (hjobs : db'.provisioningJobs
      = db.provisioningJobs.modify jobId (recordResult now status schoolDbStatus error)) :
    KeepsTerminal db db' ↔ (job.status.terminal && job.status ≠ status) = false := by
  have hafter : ∀ j, provisioningStatus db' j
      = if j = jobId then some status else provisioningStatus db j := by
    intro j
    rw [provisioningStatus, hjobs, List.getElem?_modify, provisioningStatus]
    by_cases hj : j = jobId
    · simp [hj, hjob, recordResult]
    · simp [hj, Ne.symm hj]
  have hbefore : provisioningStatus db jobId = some job.status := by
    simp [provisioningStatus, hjob]
  rw [Bool.and_eq_false_imp]
  constructor
  · intro h hterminal
    have hkept := h jobId job.status hbefore hterminal
    rw [hafter, if_pos rfl, Option.some.injEq] at hkept
    simp [hkept]
  intro h j status' hj hterminal
  rw [hafter]
  by_cases hj' : j = jobId
  · rw [hj', hbefore, Option.some.injEq] at hj
    rw [← hj] at hterminal
    have hsame : job.status = status := by simpa using h hterminal
    rw [if_pos hj', ← hj, hsame]
  · rw [if_neg hj', hj]

theorem or_eq_self_iff {α : Type*} [DecidableEq α] (new old : Option α) :
    new.or old = old ↔ (new.any fun a => old ≠ some a) = false := by
  cases new with
  | none => simp
  | some a => simpa using eq_comm

/-- A start of a job adds it, if anything. -/
theorem keepsTerminal_provisionTenant (now : Time) (staff : StaffContext) (t : ℕ) (key : String)
    (db : Db) : KeepsTerminal db (provisionTenant cfg now staff t key db).db := by
  have hsame : KeepsTerminal db db := fun _ _ h _ => h
  simp only [provisionTenant]
  split
  · exact hsame
  split
  · simp only [queueInitialization]
    split
    · exact hsame
    intro j status hj _
    have hlt : j < db.provisioningJobs.length := by
      by_contra hge
      simp [provisioningStatus, not_lt.1 hge] at hj
    show ((db.provisioningJobs.insert _)[j]?).map (·.status) = some status
    have hold : j ≠ db.provisioningJobs.nextId := Nat.ne_of_lt hlt
    rw [Table.getElem?_insert, if_neg hold]
    exact hj
  · exact hsame

/-- One operation leaves alone what it should iff it is no report that regresses. -/
theorem lateHarmless_iff (cfg : Settings) (db : Db) (op : ProvisionOp) :
    LateHarmless cfg db op ↔ regresses db op = false := by
  cases op with
  | start now staff tenantId key =>
    exact iff_of_true ⟨keepsTerminal_provisionTenant now staff tenantId key db, trivial⟩ rfl
  | elsewhere db' => exact iff_of_true ⟨fun _ _ h _ => h, trivial⟩ rfl
  | report now svc tenantRef jobId body =>
    rcases provisioningResult_spec cfg now tenantRef jobId body svc db with
      ⟨hreport, hdb⟩ | ⟨t, tenant, job, status, schoolDbStatus, hreport, htenant, hjob, howner,
        hready, hdb⟩
    · have hstep : provisionStep cfg (.report now svc tenantRef jobId body) db = db := hdb
      refine iff_of_true ?_ (by simp [regresses, hreport])
      rw [LateHarmless, hstep]
      exact ⟨fun _ _ h _ => h, fun _ _ _ => ⟨rfl, fun _ _ => rfl⟩⟩
    have hstep : provisionStep cfg (.report now svc tenantRef jobId body) db
        = applyInitializationResult cfg now t jobId status schoolDbStatus body.error db := hdb
    have hjobs := applyInitializationResult_jobs cfg now t jobId status schoolDbStatus
      body.error db
    have hkeeps := keepsTerminal_of_recordResult hjob hjobs
    have hstale : StaleHarmless (.report now svc tenantRef jobId body) db
          (applyInitializationResult cfg now t jobId status schoolDbStatus body.error db)
        ↔ (superseded db t jobId
            && status.brings.any fun brought => statusOf db t ≠ some brought) = false := by
      have hnewer : ∀ k, jobId < k → (applyInitializationResult cfg now t jobId status
          schoolDbStatus body.error db).provisioningJobs[k]? = db.provisioningJobs[k]? := by
        intro k hk
        simp [hjobs, Nat.ne_of_lt hk]
      have hstatus : statusOf (applyInitializationResult cfg now t jobId status
          schoolDbStatus body.error db) t = status.brings.or (statusOf db t) :=
        statusOf_applyInitializationResult htenant hready
      rw [Bool.and_eq_false_imp, ← or_eq_self_iff, ← hstatus, ← howner]
      refine ⟨fun h hold => (h job hjob hold).1, fun h job' hjob' hold => ?_⟩
      rw [hjob, Option.some.injEq] at hjob'
      subst hjob'
      exact ⟨h hold, howner ▸ hnewer⟩
    rw [LateHarmless, hstep, hkeeps, hstale, regresses, hreport, Option.any_some,
      Bool.or_eq_false_iff]
    simp [provisioningStatus, hjob]

/-- **Late reports.**  Along a run of starts, retries and reports in any order, terminal jobs
keep their statuses, and reports for superseded jobs change neither their tenants' statuses nor
newer jobs, iff no report of the run regresses. -/
theorem late_reports_iff (cfg : Settings) (db : Db) (ops : List ProvisionOp) :
    Along (provisionStep cfg) (LateHarmless cfg) db ops
      ↔ Along (provisionStep cfg) (fun db op => regresses db op = false) db ops := by
  refine along_congr (I := fun _ => True) (D := fun _ => True) (fun _ _ _ _ => trivial) ?_
    (fun _ _ => trivial) trivial
  exact fun db op _ _ => lateHarmless_iff cfg db op

/-! ## A school that is initialized twice -/

/-- The second job succeeds before the report on the first, which failed, arrives. -/
def Example.lateFailure : List ProvisionOp :=
  let school : ServiceContext := { clientId := "school", allowedTenantRefs := [] }
  [.start (day 0) operator 0 "first", .start (day 0) operator 0 "second",
   .report (day 0) school "s" 1 { status := "succeeded", schoolDbStatus := "ready" },
   .report (day 0) school "s" 0 { status := "failed", schoolDbStatus := "failed" }]

/-- The late report takes the tenant, which is active, back to provisioning. -/
theorem not_late_reports_harmless :
    ¬ ∀ (cfg : Settings) (db : Db) (ops : List ProvisionOp),
      Along (provisionStep cfg) (LateHarmless cfg) db ops := by
  intro h
  have hrun := h Example.settings (run (step Example.settings) {} Example.activated)
    Example.lateFailure
  have hlate := (lateHarmless_iff _ _ _).1 hrun.2.2.2.1
  exact absurd hlate (by decide)

end MultiAcademy.Control
