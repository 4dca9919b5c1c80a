import MultiAcademy.Control.DecisionRace

/-!
# One action, two implementations

Blacklisting, un-blacklisting and offboarding are each written twice: in the tenants
router, for when dual control is off, and in `_execute`, for a request that a second
operator has approved.  The two agree on offboarding; on the other two they differ in the
status reason and the review date.
-/

namespace MultiAcademy.Control

open MultiAcademy.Lib

/-- A tenant action under dual control, with the body of its endpoint. -/
inductive TenantAction
  | blacklist (body : BlacklistRequest)
  | unblacklist (reason : String)
  | offboard (body : OffboardCreate)

def TenantAction.handle (cfg : Settings) (now : Time) (staff : StaffContext) (t : ℕ) :
    TenantAction → Db → Outcome
  | .blacklist body => blacklistTenant cfg now staff t body
  | .unblacklist reason => unblacklistTenant cfg now staff t reason
  | .offboard body => scheduleOffboard cfg now staff t body

/-- The request that the endpoint leaves under dual control. -/
def TenantAction.request (cfg : Settings) (now : Time) (staff : StaffContext) (t : ℕ)
    (a : TenantAction) : DualControlRequest :=
  let row (action : DualAction) (payload : DualPayload) (reason : String) : DualControlRequest :=
    { action, targetType := "tenant", targetId := .row t, payload, reason
      requestedBy := staff.email
      requestedById := staff.id
      expiresAt := some (now + Time.hours cfg.dualControlExpiryHours) }
  match a with
  | .blacklist body =>
    row .tenantBlacklist
      { evidence := some body.evidence, severity := some body.severity
        permanent := some body.permanent } body.reason
  | .unblacklist reason => row .tenantUnblacklist {} reason
  | .offboard body =>
    row .tenantOffboard { wipeInDays := some body.wipeInDays, notes := some body.notes }
      body.reason

def Settings.withoutDualControl (cfg : Settings) : Settings :=
  { cfg with dualControlRequired := some false }

variable {cfg : Settings} {now : Time} {t : ℕ} {db : Db} {staff approver : StaffContext}

/-- Two databases agree on the tenant, and on its blacklist entries, subscriptions and
offboarding jobs. -/
structure SameState (t : ℕ) (db db' : Db) : Prop where
  tenant : db.tenants[t]? = db'.tenants[t]?
  blacklist : db.blacklist = db'.blacklist
  subscriptions : db.subscriptions = db'.subscriptions
  offboardJobs : db.offboardJobs = db'.offboardJobs

def TenantAction.agrees (tenant : Tenant) : TenantAction → Bool
  | .blacklist body => tenant.statusReason = "abuse" && body.reviewBy.isNone
  | .unblacklist _ => tenant.statusReason = ""
  | .offboard _ => true

/-! ## The approved request -/

/-- An accepted approval leaves the tables as the effect of the action writes them. -/
theorem approved_effect {requestId : ℕ} {body : DualControlDecide} {req : DualControlRequest}
    (hreq : db.dualRequests[requestId]? = some req) (happrove : body.approve = true)
    (hok : (decideRequest cfg now approver requestId body db).reply = .ok) :
    ∃ writes : Writes,
      effect cfg now (decided now approver body.reason .approved req) db = .ok writes
      ∧ SameState t (decideRequest cfg now approver requestId body db).db
          (writes { db with
            dualRequests := db.dualRequests.modify requestId
              (decided now approver body.reason .approved) }) := by
  unfold decideRequest at hok ⊢
  simp only [hreq] at hok ⊢
  have hverdict := verdict_spec cfg now approver requestId body req db
  revert hverdict hok
  generalize verdict cfg now approver requestId body req db = v
  intro hok hverdict
  cases hverdict with
  | refused code detail => cases hok
  | expired hlapsed => cases hok
  | rejected hpending hreject => rw [happrove] at hreject; cases hreject
  | approved writes hlapsed hpending hother hyes happroved =>
    obtain ⟨done, heffect, rfl⟩ := approve_eq_ok happroved
    exact ⟨done, heffect, rfl, rfl, rfl, rfl⟩

theorem SameState.iff_left {db₁ db₂ db' : Db} (h : SameState t db₁ db₂) :
    SameState t db₁ db' ↔ SameState t db₂ db' := by
  constructor
  · intro h'
    exact ⟨h.tenant.symm.trans h'.tenant, h.blacklist.symm.trans h'.blacklist,
      h.subscriptions.symm.trans h'.subscriptions, h.offboardJobs.symm.trans h'.offboardJobs⟩
  intro h'
  exact ⟨h.tenant.trans h'.tenant, h.blacklist.trans h'.blacklist,
    h.subscriptions.trans h'.subscriptions, h.offboardJobs.trans h'.offboardJobs⟩

theorem withoutDualControl_off (cfg : Settings) :
    dualControlEnabled cfg.withoutDualControl = false := rfl

def TenantAction.approved (cfg : Settings) (asked now : Time) (staff approver : StaffContext)
    (reason : String) (t : ℕ) (a : TenantAction) : DualControlRequest :=
  decided now approver reason .approved (a.request cfg asked staff t)

section Branches
variable {asked : Time} {reason : String} {tenant : Tenant} (requests : Table DualControlRequest)

/-- Blacklisting: the two differ in the reason, which the endpoint leaves as it was, and in
the review date, which the request does not carry. -/
theorem blacklist_agrees_iff (htenant : db.tenants[t]? = some tenant) (body : BlacklistRequest) :
    SameState t
        (blacklistWrites
          ((TenantAction.blacklist body).approved cfg asked now staff approver reason t) t tenant
          (db.subscriptions.select (isCurrentOf t)) { db with dualRequests := requests })
        (blacklistTenant cfg.withoutDualControl now staff t body db).db
      ↔ (TenantAction.blacklist body).agrees tenant = true := by
  simp only [blacklistTenant, htenant, withoutDualControl_off, Bool.false_eq_true, if_false,
    commit_db, TenantAction.agrees, Bool.and_eq_true, decide_eq_true_eq, Option.isNone_iff_eq_none]
  constructor
  · intro h
    have hrow := h.tenant
    have hentry := List.append_cancel_left h.blacklist
    simp only [blacklistWrites, List.getElem?_modify_eq, htenant, Option.map_eq_map,
      Option.map_some, Option.some.injEq, bumpConfigVersion_tenants] at hrow
    refine ⟨(congrArg Tenant.statusReason hrow).symm, ?_⟩
    exact (congrArg SchoolBlacklistEntry.reviewBy (List.singleton_inj.1 hentry)).symm
  rintro ⟨hreason, hreview⟩
  refine ⟨?_, ?_, ?_, rfl⟩
  · simp only [blacklistWrites, List.getElem?_modify_eq, htenant, Option.map_eq_map,
      Option.map_some, bumpConfigVersion_tenants, ← hreason]
  · simp only [blacklistWrites, bumpConfigVersion_blacklist, TenantAction.approved,
      TenantAction.request, decided, hreview, Option.getD_some]
  · simp only [blacklistWrites, bumpConfigVersion_subscriptions, Table.updateIds_select]

/-- Un-blacklisting: the endpoint leaves the reason as it was. -/
theorem unblacklist_agrees_iff (htenant : db.tenants[t]? = some tenant) {why : String}
    (hwhy : why ≠ "") :
    SameState t
        (unblacklistWrites t (db.blacklist.select (activeEntryOf t))
          { db with dualRequests := requests })
        (unblacklistTenant cfg.withoutDualControl now staff t why db).db
      ↔ (TenantAction.unblacklist why).agrees tenant = true := by
  simp only [unblacklistTenant, htenant, hwhy, withoutDualControl_off, Bool.false_eq_true, if_false,
    commit_db, TenantAction.agrees, decide_eq_true_eq]
  constructor
  · intro h
    have hrow := h.tenant
    simp only [unblacklistWrites, List.getElem?_modify_eq, htenant, Option.map_eq_map,
      Option.map_some, Option.some.injEq, bumpConfigVersion_tenants] at hrow
    exact (congrArg Tenant.statusReason hrow).symm
  intro hreason
  refine ⟨?_, ?_, rfl, rfl⟩
  · simp only [unblacklistWrites, List.getElem?_modify_eq, htenant, Option.map_eq_map,
      Option.map_some, bumpConfigVersion_tenants, lift, ← hreason]
  · simp only [unblacklistWrites, bumpConfigVersion_blacklist, Table.updateIds_select]

/-- Offboarding: the two are the same code. -/
theorem offboard_agrees (htenant : db.tenants[t]? = some tenant) (hfree : tenant.legalHold = false)
    (body : OffboardCreate) (hreason : strip body.reason ≠ "") :
    SameState t
        (scheduleOffboardJob cfg now t tenant body.wipeInDays body.notes staff.email db
          { db with dualRequests := requests })
        (scheduleOffboard cfg.withoutDualControl now staff t body db).db := by
  simp only [scheduleOffboard, htenant, hfree, hreason, withoutDualControl_off, Bool.false_eq_true,
    if_false, commit_db, scheduleOffboardJob]
  cases activeJobOf db t with
  | some jobId => exact ⟨rfl, rfl, rfl, rfl⟩
  | none => exact ⟨rfl, rfl, rfl, rfl⟩

end Branches

/-- **An approved request does what the endpoint does exactly when** the two agree on the
tenant and the body: always for offboarding; for un-blacklisting, when the tenant has no
status reason; for blacklisting, when the reason is already "abuse" and the body has no
review date. -/
theorem dual_agrees_iff (cfg : Settings) (asked now : Time) (staff approver : StaffContext)
    (t requestId : ℕ) (a : TenantAction) (body : DualControlDecide) (tenant : Tenant) (db : Db)
    (htenant : db.tenants[t]? = some tenant)
    (hreq : db.dualRequests[requestId]? = some (a.request cfg asked staff t))
    (happrove : body.approve = true)
    (hdual : (decideRequest cfg now approver requestId body db).reply = .ok)
    (hdirect : (a.handle cfg.withoutDualControl now staff t db).reply = .ok) :
    SameState t (decideRequest cfg now approver requestId body db).db
        (a.handle cfg.withoutDualControl now staff t db).db
      ↔ a.agrees tenant = true := by
  obtain ⟨writes, heffect, hsame⟩ := @approved_effect cfg now t db approver requestId body _ hreq
    happrove hdual
  rw [hsame.iff_left]
  cases a with
  | blacklist form =>
    have hwrites : blacklistWrites
        ((TenantAction.blacklist form).approved cfg asked now staff approver body.reason t) t
        tenant (db.subscriptions.select (isCurrentOf t)) = writes := by
      simpa [effect, TenantAction.request, decided, onTenant, TargetId.row?, executeBlacklist,
        htenant, TenantAction.approved] using heffect
    rw [← hwrites]
    exact blacklist_agrees_iff _ htenant form
  | unblacklist why =>
    have hwrites : unblacklistWrites t (db.blacklist.select (activeEntryOf t)) = writes := by
      simpa [effect, TenantAction.request, decided, onTenant, TargetId.row?, executeUnblacklist,
        htenant] using heffect
    have hwhy : why ≠ "" := by
      rintro rfl
      simp [TenantAction.handle, unblacklistTenant, raise] at hdirect
    rw [← hwrites]
    exact unblacklist_agrees_iff _ htenant hwhy
  | offboard form =>
    have hfree : tenant.legalHold = false := by
      by_contra hheld
      rw [Bool.not_eq_false] at hheld
      simp [effect, TenantAction.request, decided, onTenant, TargetId.row?, executeOffboard,
        htenant, hheld] at heffect
    have hwrites : scheduleOffboardJob cfg now t tenant form.wipeInDays form.notes staff.email db
        = writes := by
      simpa [effect, TenantAction.request, decided, onTenant, TargetId.row?, executeOffboard,
        htenant, hfree] using heffect
    have hreason : strip form.reason ≠ "" := by
      intro hempty
      simp [TenantAction.handle, scheduleOffboard, hempty, raise] at hdirect
    rw [← hwrites]
    exact iff_of_true (offboard_agrees _ htenant hfree form hreason) rfl

def Example.colleague : StaffContext := { operator with id := "2" }

def Example.approval : DualControlDecide := { approve := true, reason := "confirmed" }

/-- The equivalence at the example school and its request. -/
theorem dual_agrees_iff_example :
    ∃ tenant, Example.requested.tenants[0]? = some tenant
      ∧ (SameState 0
          (decideRequest Example.production (Example.day 1) Example.colleague 0 Example.approval
            Example.requested).db
          ((TenantAction.blacklist { reason := "fraud" }).handle
            Example.production.withoutDualControl (Example.day 1) Example.operator 0
            Example.requested).db
        ↔ (TenantAction.blacklist { reason := "fraud" }).agrees tenant = true) :=
  ⟨_, rfl, dual_agrees_iff Example.production (Example.day 1) (Example.day 1) Example.operator
    Example.colleague 0 0 (.blacklist { reason := "fraud" }) Example.approval _ Example.requested
    rfl rfl rfl (by decide) (by decide)⟩

/-- The two implementations differ: approved, the request to blacklist the school sets its
status reason; the endpoint leaves the reason of its last status. -/
theorem not_dual_agrees :
    ¬ ∀ (cfg : Settings) (asked now : Time) (staff approver : StaffContext) (t requestId : ℕ)
        (a : TenantAction) (body : DualControlDecide) (db : Db), Reach cfg db →
      db.dualRequests[requestId]? = some (a.request cfg asked staff t) → body.approve = true →
      (decideRequest cfg now approver requestId body db).reply = .ok →
      (a.handle cfg.withoutDualControl now staff t db).reply = .ok →
      SameState t (decideRequest cfg now approver requestId body db).db
        (a.handle cfg.withoutDualControl now staff t db).db := by
  intro h
  have hsame := h Example.production (Example.day 1) (Example.day 1) Example.operator
    Example.colleague 0 0 (.blacklist { reason := "fraud" }) Example.approval Example.requested
    ⟨_, rfl⟩ rfl rfl (by decide) (by decide)
  have hreason := congrArg (Option.map Tenant.statusReason) hsame.tenant
  revert hreason
  decide

end MultiAcademy.Control
