import MultiAcademy.Control.ProviderRoutes

/-!
# The dual-control queue

`routers/dual_control.py`: expiry of a request, execution of an approved payload and
the decision endpoint.

`execute` either yields what its session writes at the commit or raises; nothing it
wrote survives a raise, because the decision commits only after it returns.  The writes
are a function of what is committed by then: columns are set on rows that were read
before.
-/

namespace MultiAcademy.Control

open MultiAcademy.Lib

variable (req : DualControlRequest) (cfg : Settings) (now : Time)

/-- The request is pending and its time has run out. -/
def lapsed (req : DualControlRequest) : Bool :=
  req.status = .pending && req.expiresAt.any fun expires => expires < now

def expireIfNeeded (req : DualControlRequest) : DualControlRequest :=
  if lapsed now req then { req with status := .expired } else req

/-- What a session writes at its commit, to whatever is committed by then. -/
abbrev Writes := Db → Db

/-- What a function that may raise leaves: the writes of its session, or an error. -/
abbrev Attempt := Except (ℕ × String) Writes

/-- `int(req.target_id)` of a request that names a row. -/
def TargetId.row? : TargetId → Option ℕ
  | .row i => some i
  | _ => none

/-! ## The actions -/

/-- What the `tenant.blacklist` branch writes; `current` are the subscriptions it read. -/
def blacklistWrites (tenantId : ℕ) (tenant : Tenant)
    (current : List ℕ) : Writes := fun db =>
  { db with
    tenants := db.tenants.modify tenantId fun t =>
      { t with
        status := .blacklisted
        statusMessage := "This school has been blocked from the platform. Contact support."
        statusReason := "abuse" }
    subscriptions := db.subscriptions.updateIds current cancelBlacklisted
    blacklist := db.blacklist.insert
      (blacklistEntry tenantId tenant req.reason (req.payload.evidence.getD "")
        (req.payload.severity.getD "high") (req.payload.permanent.getD true) none
        req.requestedBy) }

/-- The `tenant.blacklist` branch. -/
def executeBlacklist (tenantId : ℕ) (db : Db) : Attempt :=
  match db.tenants[tenantId]? with
  | none => .error (404, "Tenant not found")
  | some tenant =>
    .ok (blacklistWrites req tenantId tenant (db.subscriptions.select (isCurrentOf tenantId)))

/-- What the `tenant.unblacklist` branch writes; `active` are the entries it read. -/
def unblacklistWrites (tenantId : ℕ) (active : List ℕ) : Writes := fun db =>
  { db with
    tenants := db.tenants.modify tenantId lift
    blacklist := db.blacklist.updateIds active deactivate }

/-- The `tenant.unblacklist` branch. -/
def executeUnblacklist (tenantId : ℕ) (db : Db) : Attempt :=
  match db.tenants[tenantId]? with
  | none => .error (404, "Tenant not found")
  | some _ => .ok (unblacklistWrites tenantId (db.blacklist.select (activeEntryOf tenantId)))

/-- What the `tenant.destroy` branch writes. -/
def destroyWrites (tenantId : ℕ) : Writes := fun db =>
  { db with
    tenants := db.tenants.modify tenantId fun t =>
      { t with
        status := .archived
        statusMessage := "Tenant archived pending offboard wipe."
        statusReason := "offboarding" } }

/-- The `tenant.destroy` branch. -/
def executeDestroy (tenantId : ℕ) (db : Db) : Attempt :=
  match db.tenants[tenantId]? with
  | none => .error (404, "Tenant not found")
  | some tenant =>
    if tenant.legalHold then .error (409, "Tenant under legal hold — cannot destroy")
    else .ok (destroyWrites tenantId)

/-- The `tenant.offboard` branch. -/
def executeOffboard (req : DualControlRequest) (tenantId : ℕ)
    (db : Db) : Attempt :=
  match db.tenants[tenantId]? with
  | none => .error (404, "Tenant not found")
  | some tenant =>
    if tenant.legalHold then .error (409, "Tenant under legal hold — cannot offboard")
    else
      .ok (scheduleOffboardJob cfg now tenantId tenant (req.payload.wipeInDays.getD 30)
        (req.payload.notes.getD "") req.requestedBy db)

def killSwitchWrites (flagId : ℕ) (killSwitch : Bool) : Writes := fun db =>
  { db with flags := db.flags.modify flagId fun flag => { flag with killSwitch } }

/-- The `flag.kill_switch` and `flag.kill_switch_lift` branch; `default` is the value of
a payload that carries none. -/
def executeKillSwitch (default : Bool) (db : Db) : Attempt :=
  match req.targetId with
  | .flag key =>
    match db.flags.first? fun flag => flag.key = key with
    | none => .error (404, "Flag not found")
    | some flagId => .ok (killSwitchWrites flagId (req.payload.enabled.getD default))
  | _ => .error (404, "Flag not found")

/-- A configuration row as an approved payload writes it. -/
def DualPayload.applyProvider (payload : DualPayload) (defaultMode : String)
    (config : ProviderConfig) : ProviderConfig :=
  { config with
    providerId := match payload.providerId with
      | some p => if p = "" then config.providerId else p
      | none => config.providerId
    mode := payload.mode.getD defaultMode
    isEnabled := true
    settings := payload.settings.getD config.settings }

/-- The configuration row an approved switch writes: the target row, or the row of the
payload's capability. -/
def switchTarget (db : Db) : Option ℕ :=
  let named := req.targetId.row?.filter fun i => (db.providerConfigs[i]?).isSome
  named.or (configOf db (req.payload.capability.getD "") req.payload.tenantId)

def switchWrites (defaultMode : String) (configId : ℕ) : Writes :=
  fun db =>
    { db with
      providerConfigs := db.providerConfigs.modify configId
        (req.payload.applyProvider defaultMode) }

/-- The `provider.switch_live` and `provider.switch_from_live` branch.  A row that does
not exist yet is flushed before its provider is set, which the column refuses. -/
def executeProviderSwitch (defaultMode : String) (db : Db) : Attempt :=
  match switchTarget req db with
  | some configId => .ok (switchWrites req defaultMode configId)
  | none => .error (500, "Internal Server Error")

/-- A tenant action on the request's target. -/
def onTenant (action : ℕ → Attempt) : Attempt :=
  match req.targetId.row? with
  | some tenantId => action tenantId
  | none => .error (500, "Internal Server Error")

def DualAction.text : DualAction → String
  | .tenantBlacklist => "tenant.blacklist"
  | .tenantUnblacklist => "tenant.unblacklist"
  | .tenantDestroy => "tenant.destroy"
  | .tenantOffboard => "tenant.offboard"
  | .flagKillSwitch => "flag.kill_switch"
  | .flagKillSwitchLift => "flag.kill_switch_lift"
  | .providerSwitchLive => "provider.switch_live"
  | .providerSwitchFromLive => "provider.switch_from_live"
  | .other text => text

/-- The effect of an approved action, before the request itself is marked. -/
def effect (req : DualControlRequest) (db : Db) : Attempt :=
  match req.action with
  | .tenantBlacklist => onTenant req fun tenantId => executeBlacklist req tenantId db
  | .tenantUnblacklist => onTenant req fun tenantId => executeUnblacklist tenantId db
  | .tenantDestroy => onTenant req fun tenantId => executeDestroy tenantId db
  | .tenantOffboard => onTenant req fun tenantId => executeOffboard cfg now req tenantId db
  | .flagKillSwitch => executeKillSwitch req true db
  | .flagKillSwitchLift => executeKillSwitch req false db
  | .providerSwitchLive => executeProviderSwitch req "live" db
  | .providerSwitchFromLive => executeProviderSwitch req "sandbox" db
  | .other _ => .error (400, "Unknown dual-control action: " ++ req.action.text)

/-- **What an approved action can write**, one case per branch. -/
inductive EffectWrites (cfg : Settings) (now : Time) (req : DualControlRequest) (db : Db) :
    Writes → Prop
  | blacklist (t : ℕ) (tenant : Tenant) : req.action = .tenantBlacklist →
      db.tenants[t]? = some tenant →
      EffectWrites cfg now req db
        (blacklistWrites req t tenant (db.subscriptions.select (isCurrentOf t)))
  | unblacklist (t : ℕ) : req.action = .tenantUnblacklist →
      EffectWrites cfg now req db (unblacklistWrites t (db.blacklist.select (activeEntryOf t)))
  | destroy (t : ℕ) : req.action = .tenantDestroy → EffectWrites cfg now req db (destroyWrites t)
  | offboard (t : ℕ) (tenant : Tenant) : req.action = .tenantOffboard →
      db.tenants[t]? = some tenant → tenant.legalHold = false →
      EffectWrites cfg now req db
        (scheduleOffboardJob cfg now t tenant (req.payload.wipeInDays.getD 30)
          (req.payload.notes.getD "") req.requestedBy db)
  | killSwitch (flagId : ℕ) (on : Bool) :
      EffectWrites cfg now req db (killSwitchWrites flagId on)
  | switch (defaultMode : String) (configId : ℕ) :
      EffectWrites cfg now req db (switchWrites req defaultMode configId)

theorem effect_spec {cfg : Settings} {now : Time} {req : DualControlRequest} {db : Db}
    {writes : Writes} (h : effect cfg now req db = .ok writes) :
    EffectWrites cfg now req db writes := by
  have htenant : ∀ action : ℕ → Attempt, onTenant req action = .ok writes →
      ∃ t, action t = .ok writes := by
    intro action h
    simp only [onTenant] at h
    split at h
    · exact ⟨_, h⟩
    · cases h
  have hswitch : ∀ mode, executeProviderSwitch req mode db = .ok writes →
      EffectWrites cfg now req db writes := by
    intro mode h
    simp only [executeProviderSwitch] at h
    split at h <;> cases h
    exact .switch mode _
  have hflag : ∀ default, executeKillSwitch req default db = .ok writes →
      EffectWrites cfg now req db writes := by
    intro default h
    simp only [executeKillSwitch] at h
    split at h
    · split at h <;> cases h
      exact .killSwitch _ _
    · cases h
  simp only [effect] at h
  split at h
  case h_1 haction =>
    obtain ⟨t, h⟩ := htenant _ h
    simp only [executeBlacklist] at h
    split at h <;> cases h
    exact .blacklist t _ haction ‹_›
  case h_2 haction =>
    obtain ⟨t, h⟩ := htenant _ h
    simp only [executeUnblacklist] at h
    split at h <;> cases h
    exact .unblacklist t haction
  case h_3 haction =>
    obtain ⟨t, h⟩ := htenant _ h
    simp only [executeDestroy] at h
    split at h
    · cases h
    split at h <;> cases h
    exact .destroy t haction
  case h_4 haction =>
    obtain ⟨t, h⟩ := htenant _ h
    simp only [executeOffboard] at h
    split at h
    · cases h
    split at h <;> cases h
    exact .offboard t _ haction ‹_› (Bool.not_eq_true _ ▸ ‹_›)
  case h_5 => exact hflag _ h
  case h_6 => exact hflag _ h
  case h_7 => exact hswitch _ h
  case h_8 => exact hswitch _ h
  case h_9 => cases h

/-- `_execute`: the effect, then the request is marked executed and the config version
bumped once more. -/
def execute (requestId : ℕ) (req : DualControlRequest) (db : Db) :
    Attempt :=
  (effect cfg now req db).map fun writes committed =>
    let written := writes committed
    bumpFrom cfg now (writes db).configVersion
      { written with
        dualRequests := written.dualRequests.modify requestId fun row =>
          { row with status := .executed, executedAt := some now } }

/-! ## The decision -/

structure DualControlDecide where
  approve : Bool
  reason : String := ""

def DualStatus.text : DualStatus → String
  | .pending => "pending"
  | .approved => "approved"
  | .rejected => "rejected"
  | .executed => "executed"
  | .expired => "expired"
  | .cancelled => "cancelled"

def decided (staff : StaffContext) (reason : String) (status : DualStatus)
    (req : DualControlRequest) : DualControlRequest :=
  { req with
    status
    decidedAt := some now
    approvedBy := staff.email
    approvedById := staff.id
    decisionReason := reason }

/-- The writes of an approval: the decision, and the action with its marks. -/
def approve (staff : StaffContext) (requestId : ℕ) (reason : String)
    (req : DualControlRequest) (db : Db) : Attempt :=
  (execute cfg now requestId (decided now staff reason .approved req) db).map
    fun writes committed => writes
      { committed with
        dualRequests := committed.dualRequests.modify requestId
          (decided now staff reason .approved) }

/-- An approval that is not refused has run the action's effect. -/
theorem approve_eq_ok {cfg : Settings} {now : Time} {staff : StaffContext} {requestId : ℕ}
    {reason : String} {req : DualControlRequest} {db : Db} {writes : Writes}
    (h : approve cfg now staff requestId reason req db = .ok writes) :
    ∃ done, effect cfg now (decided now staff reason .approved req) db = .ok done
      ∧ writes = fun committed =>
          let written := done
            { committed with
              dualRequests := committed.dualRequests.modify requestId
                (decided now staff reason .approved) }
          bumpFrom cfg now (done db).configVersion
            { written with
              dualRequests := written.dualRequests.modify requestId fun row =>
                { row with status := .executed, executedAt := some now } } := by
  simp only [approve, execute] at h
  cases heffect : effect cfg now (decided now staff reason .approved req) db with
  | error e => rw [heffect] at h; cases h
  | ok done =>
    rw [heffect] at h
    cases h
    exact ⟨done, rfl, rfl⟩

/-- What a decision comes to, once the caller holds the request's row: an error with
nothing written, or writes that are committed. -/
inductive Verdict
  | refused (code : ℕ) (detail : String)
  | expired (writes : Writes)
  | rejected (writes : Writes)
  /-- `_execute` has returned. -/
  | approved (writes : Writes)

/-- What the decision on a request that has run out writes. -/
def expiryWrites (requestId : ℕ) : Writes := fun db =>
  { db with dualRequests := db.dualRequests.modify requestId (expireIfNeeded now) }

def rejectionWrites (staff : StaffContext) (requestId : ℕ) (reason : String) :
    Writes := fun db =>
  { db with
    dualRequests := db.dualRequests.modify requestId (decided now staff reason .rejected) }

/-- The checks of `decide`, in order, and `_execute`. -/
def verdict (staff : StaffContext) (requestId : ℕ)
    (body : DualControlDecide) (req : DualControlRequest) (db : Db) : Verdict :=
  if lapsed now req then .expired (expiryWrites now requestId)
  else if req.status ≠ .pending then .refused 409 ("Request is " ++ req.status.text)
  else if strip body.reason = "" then
    .refused 400 "A decision reason is required and is audited"
  else if req.requestedById = staff.id then
    .refused 403 "Requester cannot approve their own dual-control request"
  else if !body.approve then .rejected (rejectionWrites now staff requestId body.reason)
  else
    match approve cfg now staff requestId body.reason req db with
    | .error (code, detail) => .refused code detail
    | .ok writes => .approved writes

/-- **What a decision can come to**, with what it has checked. -/
inductive VerdictSpec (cfg : Settings) (now : Time) (staff : StaffContext) (requestId : ℕ)
    (body : DualControlDecide) (req : DualControlRequest) (db : Db) : Verdict → Prop
  | refused (code : ℕ) (detail : String) :
      VerdictSpec cfg now staff requestId body req db (.refused code detail)
  | expired : lapsed now req = true →
      VerdictSpec cfg now staff requestId body req db (.expired (expiryWrites now requestId))
  | rejected : req.status = .pending → body.approve = false →
      VerdictSpec cfg now staff requestId body req db
        (.rejected (rejectionWrites now staff requestId body.reason))
  | approved (writes : Writes) : lapsed now req = false → req.status = .pending →
      req.requestedById ≠ staff.id → body.approve = true →
      approve cfg now staff requestId body.reason req db = .ok writes →
      VerdictSpec cfg now staff requestId body req db (.approved writes)

theorem verdict_spec (staff : StaffContext) (requestId : ℕ)
    (body : DualControlDecide) (req : DualControlRequest) (db : Db) :
    VerdictSpec cfg now staff requestId body req db
      (verdict cfg now staff requestId body req db) := by
  simp only [verdict]
  by_cases hlapsed : lapsed now req = true
  · rw [if_pos hlapsed]
    exact .expired hlapsed
  rw [if_neg hlapsed]
  by_cases hpending : req.status = .pending
  · rw [if_neg (not_not.2 hpending)]
    split
    · exact .refused _ _
    split
    · exact .refused _ _
    rename_i hother
    split
    · rename_i hreject
      exact .rejected hpending (by simpa using hreject)
    rename_i hyes
    split
    · exact .refused _ _
    rename_i writes happrove
    exact .approved writes (Bool.not_eq_true _ ▸ hlapsed) hpending hother
      (by simpa using hyes) happrove
  rw [if_pos hpending]
  exact .refused _ _

/-- `POST /v1/dual-control/id/decide`. -/
def decideRequest (staff : StaffContext) (requestId : ℕ)
    (body : DualControlDecide) (db : Db) : Outcome :=
  match db.dualRequests[requestId]? with
  | none => raise db 404 "Request not found"
  | some req =>
    match verdict cfg now staff requestId body req db with
    | .refused code detail => raise db code detail
    | .expired writes => ⟨writes db, .error 410 "Request expired"⟩
    | .rejected writes | .approved writes => commit (writes db)

/-- `GET /v1/dual-control`: listing persists the expiry of the listed requests; `listed`
are the ids of the page. -/
def listRequests (listed : ℕ → Bool) (db : Db) : Outcome :=
  commit { db with
    dualRequests := db.dualRequests.mapIdx fun i req =>
      if listed i then expireIfNeeded now req else req }

end MultiAcademy.Control
