import MultiAcademy.Control.Blacklisting
import MultiAcademy.Control.ProviderChoice

/-!
# What one operator's calls change, under dual control

The tables that dual control is about are the tenants, the offboarding jobs, the provider
configurations and the failover policies.  Most calls of an operator leave all of them
alone; the gated endpoints leave a request instead.  This module follows the others.
-/

namespace MultiAcademy.Control

open MultiAcademy.Lib

variable {cfg : Settings} {now : Time} {t : ℕ}

/-- Offboarding jobs, provider configurations and failover policies are left alone. -/
structure KeepsControl (db db' : Db) : Prop where
  offboardJobs : db'.offboardJobs = db.offboardJobs
  providerConfigs : db'.providerConfigs = db.providerConfigs
  failoverPolicies : db'.failoverPolicies = db.failoverPolicies

/-- And so are the tenants. -/
structure Beside (db db' : Db) : Prop extends KeepsControl db db' where
  tenants : db'.tenants = db.tenants

theorem Beside.rfl {db : Db} : Beside db db := ⟨⟨Eq.refl _, Eq.refl _, Eq.refl _⟩, Eq.refl _⟩

theorem Effect.control {areas : List Area} {db db' : Db} (h : Effect areas db db')
    (hnot : .jobs ∉ areas ∧ .providers ∉ areas) : KeepsControl db db' := by
  have houtside := h.outside
  simp only [Db.outside, Prod.mk.injEq, List.elem_eq_mem, hnot, decide_false, cond_false]
    at houtside
  exact ⟨houtside.2.2.1, houtside.2.2.2.1, houtside.2.2.2.2⟩

theorem keepsControl_createTenant (body : TenantCreate) (db : Db) :
    KeepsControl db (createTenant cfg now body db).db := by
  unfold createTenant
  simp only
  split
  · exact Beside.rfl.toKeepsControl
  split
  · exact Beside.rfl.toKeepsControl
  split
  · exact Beside.rfl.toKeepsControl
  split
  · exact ⟨rfl, rfl, rfl⟩
  split
  · exact ⟨rfl, rfl, rfl⟩
  split
  · exact Beside.rfl.toKeepsControl
  · exact ⟨rfl, rfl, rfl⟩

theorem PaysOnce.control {db db' : Db} (h : PaysOnce cfg now db db') : KeepsControl db db' := by
  rcases h with rfl | ⟨payment, inv, ha, hrecord⟩
  · exact Beside.rfl.toKeepsControl
  obtain ⟨subs, -, rfl | ⟨reason, -, rfl⟩⟩ := recordPayment_eq ha.row ha.positive hrecord <;>
    exact ⟨rfl, rfl, rfl⟩

/-! ## Calls beside the guarded tables -/

section Calls
variable (staff : StaffContext) (db : Db)

theorem beside_blacklistTenant (hon : dualControlEnabled cfg = true) (t : ℕ)
    (body : BlacklistRequest) : Beside db (blacklistTenant cfg now staff t body db).db := by
  simp only [blacklistTenant]
  split
  · exact .rfl
  rw [if_pos hon]
  exact ⟨⟨rfl, rfl, rfl⟩, rfl⟩

theorem beside_unblacklistTenant (hon : dualControlEnabled cfg = true) (t : ℕ) (reason : String) :
    Beside db (unblacklistTenant cfg now staff t reason db).db := by
  simp only [unblacklistTenant]
  split
  · exact .rfl
  split
  · exact .rfl
  · exact ⟨⟨rfl, rfl, rfl⟩, rfl⟩

/-- The call is not an approval of somebody else's request. -/
def ownDecision (staff : StaffContext) (db : Db) (requestId : ℕ) (body : DualControlDecide) :
    Bool :=
  !body.approve
    || (db.dualRequests[requestId]?).all fun req => req.requestedById = staff.id

theorem beside_decideRequest {requestId : ℕ} {body : DualControlDecide}
    (hown : ownDecision staff db requestId body = true) :
    Beside db (decideRequest cfg now staff requestId body db).db := by
  simp only [decideRequest]
  cases hreq : db.dualRequests[requestId]? with
  | none => exact .rfl
  | some req =>
    simp only
    have hverdict := verdict_spec cfg now staff requestId body req db
    revert hverdict
    generalize verdict cfg now staff requestId body req db = v
    intro hverdict
    cases hverdict with
    | refused code detail => exact .rfl
    | expired hlapsed => exact ⟨⟨rfl, rfl, rfl⟩, rfl⟩
    | rejected hpending hreject => exact ⟨⟨rfl, rfl, rfl⟩, rfl⟩
    | approved writes hlapsed hpending hother hyes happrove =>
      -- nobody approves a request of their own
      simp [ownDecision, hyes, hreq, hother] at hown

end Calls

/-! ## Tenants -/

/-- The cancellation reaches a job of the tenant that is still to be wiped. -/
def cancels (db : Db) (tenantId jobId : ℕ) (reason : String) : Bool :=
  strip reason ≠ "" && (db.tenants[tenantId]?).isSome
    && (db.offboardJobs[jobId]?).any fun job => job.tenantId = tenantId
      && job.status ≠ .completed && job.status ≠ .wipeDispatched

/-- The cancellation lifts tenant `t`: the job is not cancelled yet, and the tenant's
status reason says that it is being offboarded. -/
def cancelLifts (t : ℕ) (db : Db) (tenantId jobId : ℕ) (reason : String) : Bool :=
  tenantId = t && cancels db tenantId jobId reason
    && (db.offboardJobs[jobId]?).any (fun job => job.status ≠ .cancelled)
    && (db.tenants[t]?).any fun tenant => tenant.statusReason = "offboarding"

/-- The call takes tenant `t` off the blacklist. -/
def StaffCall.lifts (now : Time) (t : ℕ) (db : Db) : StaffCall → Bool
  | .changeStatus tenantId body =>
    tenantId = t && body.reason ≠ ""
      && (TenantStatus.ofString? body.status).any fun status => status ≠ .blacklisted
  | .cancelOffboard tenantId jobId reason => cancelLifts t db tenantId jobId reason
  | .updateTrial tenantId body =>
    tenantId = t && body.enabled = some false && !hasActiveSubscription db t
  | .courtesyUnlock body => body.tenantId = t && strip body.reason ≠ ""
  | .dunningAdvance s => dunningSuspends t s db
  | .dunningRun => dunningHit now t db
  | _ => false

section Tenants
variable {db : Db}

theorem createTenant_row (body : TenantCreate) (hlt : t < db.tenants.length) :
    (createTenant cfg now body db).db.tenants[t]? = db.tenants[t]? := by
  have hinsert : ∀ tenant, (db.tenants.insert tenant)[t]? = db.tenants[t]? := by
    intro tenant
    rw [Table.getElem?_insert, if_neg (by rw [Table.nextId]; omega)]
  unfold createTenant
  simp only
  split
  · rfl
  split
  · rfl
  split
  · rfl
  split
  · exact hinsert _
  split
  · exact hinsert _
  split
  · rfl
  · exact hinsert _

variable (tenantId : ℕ)

theorem changeStatus_blacklisted (body : TenantStatusChange)
    (hb : statusOf db t = some .blacklisted) :
    statusOf (changeStatus cfg now tenantId body db).db t = some .blacklisted
      ↔ (StaffCall.changeStatus tenantId body).lifts now t db = false := by
  simp only [StaffCall.lifts]
  simp only [changeStatus]
  cases hstatus : TenantStatus.ofString? body.status with
  | none => simpa using hb
  | some status =>
    by_cases hblack : status = .blacklisted
    · simpa [hblack] using hb
    by_cases hreason : body.reason = ""
    · simpa [hblack, hreason] using hb
    cases hrow : db.tenants[tenantId]? with
    | none =>
      have hne : tenantId ≠ t := by
        rintro rfl
        simp [statusOf, hrow] at hb
      simpa [hblack, hreason, hne] using hb
    | some row =>
      refine blacklisted_iff_of_row hb (f := fun tenant =>
        { tenant with
          status
          statusMessage := body.message
          statusReason := truncate 32 body.reason }) (fun _ => hblack) ?_
      by_cases hid : tenantId = t
      · subst hid
        simp [hblack, hreason]
      · simp [hblack, hreason, hid]

theorem cancelOffboardJob_tenants {jobId : ℕ} {job : TenantOffboardJob} (reason : String)
    (hjob : db.offboardJobs[jobId]? = some job) :
    (cancelOffboardJob cfg now jobId reason db).tenants
      = if (job.status ≠ .completed ∧ job.status ≠ .cancelled)
          ∧ (db.tenants[job.tenantId]?).any (fun tenant => tenant.statusReason = "offboarding") then
          db.tenants.modify job.tenantId lift
        else db.tenants := by
  simp only [cancelOffboardJob]
  simp only [hjob]
  by_cases hdone : job.status = .completed ∨ job.status = .cancelled
  · rw [if_pos hdone, if_neg]
    rintro ⟨⟨h, h'⟩, -⟩
    exact hdone.elim h h'
  rw [if_neg hdone]
  rw [not_or] at hdone
  simp only [enqueueOutbox_tenants, ne_eq, hdone, not_false_eq_true, and_self, true_and]
  split <;> rfl

theorem cancelOffboard_db (tenantId jobId : ℕ) (reason : String) :
    (cancelOffboard cfg now tenantId jobId reason db).db
      = if cancels db tenantId jobId reason then cancelOffboardJob cfg now jobId reason db
        else db := by
  unfold cancelOffboard cancels
  by_cases hreason : strip reason = ""
  · simp [hreason]
  cases db.tenants[tenantId]? with
  | none => simp [hreason]
  | some tenant =>
    cases db.offboardJobs[jobId]? with
    | none => simp [hreason]
    | some job =>
      by_cases hown : job.tenantId = tenantId
      · by_cases hgone : job.status = .completed ∨ job.status = .wipeDispatched
        · rcases hgone with h | h <;> simp [hreason, hown, h]
        have hgone' := not_or.1 hgone
        simp [hreason, hown, hgone']
      · simp [hreason, hown]

theorem cancelOffboard_blacklisted (tenantId jobId : ℕ) (reason : String)
    (hb : statusOf db t = some .blacklisted) :
    statusOf (cancelOffboard cfg now tenantId jobId reason db).db t = some .blacklisted
      ↔ (StaffCall.cancelOffboard tenantId jobId reason).lifts now t db = false := by
  refine blacklisted_iff_of_row hb (f := lift) (fun _ => by simp [lift]) ?_
  rw [cancelOffboard_db, StaffCall.lifts, cancelLifts]
  by_cases hcancels : cancels db tenantId jobId reason = true
  · rw [if_pos hcancels]
    have h := hcancels
    simp only [cancels, Bool.and_eq_true, Option.any_eq_true, decide_eq_true_eq] at h
    obtain ⟨-, job, hjob, ⟨rfl, hopen⟩, -⟩ := h
    rw [cancelOffboardJob_tenants reason hjob]
    by_cases hid : job.tenantId = t
    · subst hid
      by_cases hcancelled : job.status = .cancelled
      · simp [hjob, hcancelled]
      by_cases hoff : (db.tenants[job.tenantId]?).any
          (fun tenant => tenant.statusReason = "offboarding") = true
      · simp [hjob, hcancelled, hopen, hcancels, hoff]
      · simp [hjob, hcancelled, hopen, hcancels, hoff]
    · split <;> simp [hid]
  · simp [hcancels]

theorem courtesyUnlock_blacklisted (body : CourtesyUnlockRequest)
    (hb : statusOf db t = some .blacklisted) :
    statusOf (courtesyUnlock cfg now body db).db t = some .blacklisted
      ↔ (StaffCall.courtesyUnlock body).lifts now t db = false := by
  simp only [StaffCall.lifts]
  simp only [courtesyUnlock]
  cases hrow : db.tenants[body.tenantId]? with
  | none =>
    have hne : body.tenantId ≠ t := by
      intro h
      rw [h] at hrow
      simp [statusOf, hrow] at hb
    simpa [hne] using hb
  | some row =>
    by_cases hreason : strip body.reason = ""
    · simpa [hreason] using hb
    refine blacklisted_iff_of_row hb (f := fun tenant =>
      { tenant with
        status := .active
        statusMessage :=
          "Courtesy unlock until " ++ isoformat (now + Time.hours body.durationHours)
        courtesyUnlockUntil := some (now + Time.hours body.durationHours) })
      (fun _ => by simp) ?_
    by_cases hid : body.tenantId = t <;> simp [hreason, hid]

theorem initializeTrialOnce_first (cfg : Settings) (now : Time) (tenantId : ℕ) (db : Db) :
    ∃ k, (initializeTrialOnce cfg now tenantId db).trials.first?
      (fun trial => trial.tenantId = tenantId) = some k := by
  have hfirst : ∀ trials : Table TenantTrial, (∃ trial ∈ trials, trial.tenantId = tenantId) →
      ∃ k, trials.first? (fun trial => trial.tenantId = tenantId) = some k := by
    rintro trials ⟨trial, hmem, htenant⟩
    obtain ⟨k, -, hk, -⟩ := Table.exists_first? hmem (p := fun trial => trial.tenantId = tenantId)
      (by simp [htenant])
    exact ⟨k, hk⟩
  refine hfirst _ ?_
  simp only [initializeTrialOnce]
  split
  · rename_i hex
    simp only [Table.existsRow, List.any_eq_true, decide_eq_true_eq] at hex
    exact hex
  · exact ⟨_, List.mem_append_right _ (List.mem_singleton_self _), rfl⟩

theorem initializeTrialOnce_subscriptions (db : Db) :
    (initializeTrialOnce cfg now tenantId db).subscriptions = db.subscriptions := by
  simp only [initializeTrialOnce]
  split <;> rfl

theorem enableTrial_tenant (trialId tenantId : ℕ) (hb : statusOf db t = some .blacklisted) :
    (enableTrial trialId tenantId db).tenants[t]? = db.tenants[t]? := by
  obtain ⟨tenant, htenant, hstatus⟩ := statusOf_eq_some.1 hb
  simp only [enableTrial, List.getElem?_modify, htenant]
  split <;> simp [hstatus]

/-- The update works on the database with the tenant's trial in place. -/
theorem updateTrial_tenants (cfg : Settings) (now : Time) {tenantId : ℕ} {row : Tenant}
    (body : TrialUpdate)
    (hrow : db.tenants[tenantId]? = some row) :
    ∃ k initialized, initialized.tenants = db.tenants
      ∧ initialized.subscriptions = db.subscriptions
      ∧ (updateTrial cfg now tenantId body db).db.tenants
        = (applyTrialUpdate now k tenantId body initialized).tenants := by
  obtain ⟨k, hk⟩ := initializeTrialOnce_first cfg now tenantId db
  refine ⟨k, initializeTrialOnce cfg now tenantId db, initializeTrialOnce_tenants tenantId db,
    initializeTrialOnce_subscriptions tenantId db, ?_⟩
  simp only [updateTrial, hrow, hk]
  rfl

theorem updateTrial_blacklisted (body : TrialUpdate)
    (hb : statusOf db t = some .blacklisted) :
    statusOf (updateTrial cfg now tenantId body db).db t = some .blacklisted
      ↔ (StaffCall.updateTrial tenantId body).lifts now t db = false := by
  simp only [StaffCall.lifts]
  cases hrow : db.tenants[tenantId]? with
  | none =>
    have hne : tenantId ≠ t := by
      rintro rfl
      simp [statusOf, hrow] at hb
    simpa [updateTrial, hrow, hne] using hb
  | some row =>
    obtain ⟨k, initialized, htenants, hsubs, hafter⟩ :=
      updateTrial_tenants cfg now body hrow
    have hretimed : (retimeTrial k body initialized).tenants = db.tenants := htenants
    have hactive : hasActiveSubscription (retimeTrial k body initialized) tenantId
        = hasActiveSubscription db tenantId := by
      simp only [hasActiveSubscription, retimeTrial, hsubs]
    have hb' : statusOf (retimeTrial k body initialized) t = some .blacklisted := by
      rw [statusOf, hretimed]
      exact hb
    simp only [applyTrialUpdate] at hafter
    generalize retimeTrial k body initialized = retimed at hretimed hactive hb' hafter
    rcases henabled : body.enabled with _ | _ | _
    · simp only [henabled] at hafter
      simpa using blacklisted_of_row hb (by rw [hafter, hretimed])
    · -- switched off: the tenant is restricted, whatever its status is
      simp only [henabled, disableTrial, hactive, hretimed] at hafter
      refine blacklisted_iff_of_row hb (f := restrictManually)
        (fun tenant => by simp [restrictManually]) ?_
      rw [hafter]
      by_cases hid : tenantId = t
      · subst hid
        by_cases hsub : hasActiveSubscription db tenantId = true <;> simp [hsub]
      · split <;> simp [hid]
    simp only [henabled] at hafter
    refine (blacklisted_of_row hb ?_).trans (by simp)
    rw [hafter]
    split
    · rw [hretimed]
    · rw [enableTrial_tenant k tenantId hb', hretimed]

theorem updateTenant_status (body : TenantUpdate) :
    statusOf (updateTenant tenantId body db).db t = statusOf db t := by
  simp only [updateTenant]
  split
  · rfl
  by_cases hid : tenantId = t
  · subst hid
    simp [statusOf]
    rfl
  · simp [statusOf, hid]

theorem provisionTenant_blacklisted (staff : StaffContext) (tenantId : ℕ) (key : String)
    (hb : statusOf db t = some .blacklisted) :
    (provisionTenant cfg now staff tenantId key db).db.tenants[t]? = db.tenants[t]? := by
  obtain ⟨row, hrow, hstatus⟩ := statusOf_eq_some.1 hb
  simp only [provisionTenant]
  split
  · rfl
  rename_i tenant htenant
  split
  · rename_i hopen
    have hne : tenantId ≠ t := by
      rintro rfl
      rw [htenant] at hrow
      cases hrow
      simp [hstatus] at hopen
    simp only [commit_db, bumpConfigVersion_tenants]
    simp only [queueInitialization]
    split
    · rfl
    · simp [hne]
  · rfl

/-- With dual control on, an offboarding only ever leaves a job blocked by a legal hold. -/
theorem scheduleOffboard_cases (hon : dualControlEnabled cfg = true) (staff : StaffContext)
    (tenantId : ℕ) (body : OffboardCreate) :
    Beside db (scheduleOffboard cfg now staff tenantId body db).db
      ∨ ∃ job, job.status = .blockedLegalHold
        ∧ (scheduleOffboard cfg now staff tenantId body db).db
          = { db with offboardJobs := db.offboardJobs.insert job } := by
  simp only [scheduleOffboard]
  split
  · exact Or.inl .rfl
  split
  · exact Or.inl .rfl
  split
  · exact Or.inr ⟨_, rfl, rfl⟩
  · exact Or.inl ⟨⟨rfl, rfl, rfl⟩, rfl⟩

theorem scheduleOffboard_tenants (hon : dualControlEnabled cfg = true) (staff : StaffContext)
    (tenantId : ℕ) (body : OffboardCreate) :
    (scheduleOffboard cfg now staff tenantId body db).db.tenants = db.tenants := by
  rcases scheduleOffboard_cases hon staff tenantId body with h | ⟨job, -, h⟩
  · exact h.tenants
  · rw [h]

theorem dunningAdvance_blacklisted (s : ℕ) (hb : statusOf db t = some .blacklisted) :
    statusOf (dunningAdvance cfg now s db).db t = some .blacklisted
      ↔ (StaffCall.dunningAdvance s).lifts now t db = false := by
  simp only [StaffCall.lifts]
  refine blacklisted_iff_of_row hb (fun tenant => by simp [dunningSuspend]) (f := dunningSuspend) ?_
  simp only [dunningAdvance]
  split
  · rename_i hnone
    simp [dunningSuspends, hnone]
  · exact advanceDunning_tenant defaultGraceDays s db

theorem dunningRun_blacklisted (hb : statusOf db t = some .blacklisted) :
    statusOf (dunningRun cfg now db).db t = some .blacklisted
      ↔ StaffCall.dunningRun.lifts now t db = false := by
  simp only [StaffCall.lifts]
  refine blacklisted_iff_of_row hb (fun tenant => by simp [dunningSuspend]) (f := dunningSuspend) ?_
  exact runDunningPass_tenant defaultGraceDays db

end Tenants

/-! ## One call -/

/-- The call is not an approval of somebody else's request. -/
def StaffCall.own (staff : StaffContext) (db : Db) : StaffCall → Bool
  | .decide requestId body => ownDecision staff db requestId body
  | _ => true

section Call
variable {db : Db} {staff : StaffContext}

/-- **A call on a blacklisted tenant** leaves it blacklisted exactly when it does not meet
the condition of an endpoint that ignores the blacklist. -/
theorem staffCall_blacklisted (hon : dualControlEnabled cfg = true) (call : StaffCall)
    (hown : call.own staff db = true) (hb : statusOf db t = some .blacklisted) :
    statusOf (call.handle cfg now staff db).db t = some .blacklisted
      ↔ call.lifts now t db = false := by
  have hframe : ∀ {db' : Db}, db'.tenants = db.tenants →
      (statusOf db' t = some .blacklisted ↔ false = false) := by
    intro db' h
    exact blacklisted_of_row hb (by rw [h])
  obtain ⟨tenant, htenant, -⟩ := statusOf_eq_some.1 hb
  cases call with rw [StaffCall.handle]
  | createTenant body => exact blacklisted_of_row hb (createTenant_row body (lt_length htenant))
  | updateTenant tenantId body =>
    exact iff_of_true ((updateTenant_status tenantId body).trans hb) rfl
  | changeStatus tenantId body => exact changeStatus_blacklisted tenantId body hb
  | blacklistTenant tenantId body =>
    exact hframe (beside_blacklistTenant staff db hon tenantId body).tenants
  | unblacklistTenant tenantId reason =>
    exact hframe (beside_unblacklistTenant staff db hon tenantId reason).tenants
  | scheduleOffboard tenantId body =>
    exact hframe (scheduleOffboard_tenants hon staff tenantId body)
  | cancelOffboard tenantId jobId reason =>
    exact cancelOffboard_blacklisted tenantId jobId reason hb
  | provisionTenant tenantId key =>
    exact blacklisted_of_row hb (provisionTenant_blacklisted staff tenantId key hb)
  | updateTrial tenantId body => exact updateTrial_blacklisted tenantId body hb
  | createSubscription tenantId body => exact hframe ((effect_createSubscription tenantId db body).same_tenants (by simp))
  | updateSubscriptionStatus s body => exact hframe ((effect_updateSubscriptionStatus s db body).same_tenants (by simp))
  | dunningAdvance s => exact dunningAdvance_blacklisted s hb
  | dunningRun => exact dunningRun_blacklisted hb
  | generateDue => exact hframe ((effect_generateDueInvoices db).same_tenants (by simp))
  | courtesyUnlock body => exact courtesyUnlock_blacklisted body hb
  | createInvoice body => exact hframe ((effect_createInvoice db body).same_tenants (by simp))
  | payInvoice i body =>
    have hne : statusOf db t ≠ some .suspended := by rw [hb]; decide
    exact blacklisted_of_row hb ((payInvoice_cases staff i body db).tenant_of_not_suspended hne)
  | createDealTemplate body => exact hframe rfl
  | cloneTemplateToDeal i body => exact hframe ((effect_cloneTemplateToDeal i db body).same_tenants (by simp))
  | createDeal body => exact hframe ((effect_createDeal db body).same_tenants (by simp))
  | approveDeal i => exact hframe ((effect_approveDeal i db).same_tenants (by simp))
  | updateDeal i body => exact hframe ((effect_updateDeal i db body).same_tenants (by simp))
  | setConfig body => exact hframe ((effect_setConfig staff db body).same_tenants (by simp))
  | testConnection i health => exact hframe ((effect_testConnection i db health).same_tenants (by simp))
  | setSecret i => exact hframe ((effect_setSecret i db).same_tenants (by simp))
  | setFailover body => exact hframe ((effect_setFailover db body).same_tenants (by simp))
  | tripFailover i => exact hframe ((effect_tripFailover i db).same_tenants (by simp))
  | resetFailover i => exact hframe ((effect_resetFailover i db).same_tenants (by simp))
  | setKillSwitch key enabled reason =>
    exact hframe ((effect_setKillSwitch staff db key enabled reason).same_tenants (by simp))
  | decide requestId body => exact hframe (beside_decideRequest staff db hown).tenants
  | listRequests listed => exact hframe rfl

/-- Every offboarding job is one there was, in the status it had, or cancelled, or blocked
by a legal hold. -/
def JobsHeld (db db' : Db) : Prop :=
  ∀ (j : ℕ) (job : TenantOffboardJob), db'.offboardJobs[j]? = some job →
    job.status = .cancelled ∨ job.status = .blockedLegalHold
      ∨ ∃ old, db.offboardJobs[j]? = some old ∧ job.status = old.status

theorem JobsHeld.of_eq {db db' : Db} (h : db'.offboardJobs = db.offboardJobs) :
    JobsHeld db db' := by
  intro j job hjob
  exact Or.inr (Or.inr ⟨job, h ▸ hjob, rfl⟩)

theorem JobsHeld.trans {db db' db'' : Db} (h : JobsHeld db db') (h' : JobsHeld db' db'') :
    JobsHeld db db'' := by
  intro j job hjob
  rcases h' j job hjob with hc | hb | ⟨old, hold, hstatus⟩
  · exact Or.inl hc
  · exact Or.inr (Or.inl hb)
  rw [hstatus]
  exact h j old hold

theorem cancelOffboardJob_jobs (jobId : ℕ) (reason : String) :
    JobsHeld db (cancelOffboardJob cfg now jobId reason db) := by
  unfold cancelOffboardJob
  split
  · exact .of_eq rfl
  split
  · exact .of_eq rfl
  have hmodify : ∀ db' : Db, db'.offboardJobs = db.offboardJobs.modify jobId (fun row =>
      { row with
        status := .cancelled
        notes := strip (row.notes ++ "\nCancelled: " ++ reason) }) → JobsHeld db db' := by
    intro db' h j job hjob
    rw [h, List.getElem?_modify] at hjob
    by_cases hid : jobId = j
    · obtain ⟨old, -, rfl⟩ := Option.map_eq_some_iff.1 (by simpa [hid] using hjob)
      exact Or.inl rfl
    · exact Or.inr (Or.inr ⟨job, by simpa [hid] using hjob, rfl⟩)
  simp only
  split <;> exact hmodify _ rfl

theorem scheduleOffboard_jobs (hon : dualControlEnabled cfg = true) (tenantId : ℕ)
    (body : OffboardCreate) :
    JobsHeld db (scheduleOffboard cfg now staff tenantId body db).db := by
  rcases scheduleOffboard_cases hon staff tenantId body with h | ⟨blocked, hstatus, h⟩
  · exact .of_eq h.offboardJobs
  rw [h]
  intro j job hjob
  rw [Table.getElem?_insert] at hjob
  split at hjob
  · cases hjob
    exact Or.inr (Or.inl hstatus)
  · exact Or.inr (Or.inr ⟨job, hjob, rfl⟩)

/-- The call is none of those that write providers or offboarding jobs. -/
def StaffCall.plain : StaffCall → Bool
  | .scheduleOffboard _ _ | .cancelOffboard _ _ _ | .setConfig _ | .testConnection _ _
  | .setFailover _ | .tripFailover _ | .resetFailover _ => false
  | _ => true

/-- A plain call leaves offboarding jobs and providers alone. -/
theorem staffCall_keeps (hon : dualControlEnabled cfg = true) (call : StaffCall)
    (hown : call.own staff db = true) (hplain : call.plain = true) :
    KeepsControl db (call.handle cfg now staff db).db := by
  cases call with rw [StaffCall.handle]
  | createTenant body => exact keepsControl_createTenant body db
  | updateTenant tenantId body => exact (effect_updateTenant tenantId db body).control (by simp)
  | changeStatus tenantId body => exact (effect_changeStatus tenantId db body).control (by simp)
  | blacklistTenant tenantId body =>
    exact (beside_blacklistTenant staff db hon tenantId body).toKeepsControl
  | unblacklistTenant tenantId reason =>
    exact (beside_unblacklistTenant staff db hon tenantId reason).toKeepsControl
  | provisionTenant tenantId key => exact (effect_provisionTenant staff tenantId db key).control (by simp)
  | updateTrial tenantId body => exact (effect_updateTrial tenantId db body).control (by simp)
  | createSubscription tenantId body =>
    exact (effect_createSubscription tenantId db body).control (by simp)
  | updateSubscriptionStatus s body =>
    exact (effect_updateSubscriptionStatus s db body).control (by simp)
  | dunningAdvance s => exact (effect_dunningAdvance s db).control (by simp)
  | dunningRun => exact (effect_runDunningPass defaultGraceDays db).control (by simp)
  | generateDue => exact (effect_generateDueInvoices db).control (by simp)
  | courtesyUnlock body => exact (effect_courtesyUnlock db body).control (by simp)
  | createInvoice body => exact (effect_createInvoice db body).control (by simp)
  | payInvoice i body => exact (payInvoice_cases staff i body db).control
  | createDealTemplate body => exact ⟨rfl, rfl, rfl⟩
  | cloneTemplateToDeal i body => exact (effect_cloneTemplateToDeal i db body).control (by simp)
  | createDeal body => exact (effect_createDeal db body).control (by simp)
  | approveDeal i => exact (effect_approveDeal i db).control (by simp)
  | updateDeal i body => exact (effect_updateDeal i db body).control (by simp)
  | setSecret i => exact (effect_setSecret i db).control (by simp)
  | setKillSwitch key enabled reason =>
    exact (effect_setKillSwitch staff db key enabled reason).control (by simp)
  | decide requestId body => exact (beside_decideRequest staff db hown).toKeepsControl
  | listRequests listed => exact ⟨rfl, rfl, rfl⟩
  | scheduleOffboard tenantId body => cases hplain
  | cancelOffboard tenantId jobId reason => cases hplain
  | setConfig body => cases hplain
  | testConnection i health => cases hplain
  | setFailover body => cases hplain
  | tripFailover i => cases hplain
  | resetFailover i => cases hplain

/-- **No call schedules or carries out an offboarding.** -/
theorem staffCall_jobs (hon : dualControlEnabled cfg = true) (call : StaffCall)
    (hown : call.own staff db = true) : JobsHeld db (call.handle cfg now staff db).db := by
  by_cases hplain : call.plain = true
  · exact .of_eq (staffCall_keeps hon call hown hplain).offboardJobs
  cases call with
  | scheduleOffboard tenantId body => exact scheduleOffboard_jobs hon tenantId body
  | cancelOffboard tenantId jobId reason =>
    rw [StaffCall.handle, cancelOffboard_db]
    split
    · exact cancelOffboardJob_jobs jobId reason
    · exact .of_eq rfl
  | setConfig body => exact .of_eq ((effect_setConfig staff db body).same_jobs (by simp))
  | testConnection i health => exact .of_eq ((effect_testConnection i db health).same_jobs (by simp))
  | setFailover body => exact .of_eq ((effect_setFailover db body).same_jobs (by simp))
  | tripFailover i => exact .of_eq ((effect_tripFailover i db).same_jobs (by simp))
  | resetFailover i => exact .of_eq ((effect_resetFailover i db).same_jobs (by simp))
  | _ => exact absurd rfl hplain

end Call

end MultiAcademy.Control
