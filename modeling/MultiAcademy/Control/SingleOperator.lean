import MultiAcademy.Control.DualAgreement
import MultiAcademy.Control.OperatorEffects

/-!
# What one operator can do alone, under dual control

Any sequence of calls of one operator, none of them an approval of somebody else's request.
The gated endpoints queue requests, and nobody approves their own.  The same tables are
written by endpoints without a gate: a change of status, a courtesy unlock, a trial that is
switched off, dunning and the cancellation of an offboarding overwrite a blacklisting, and a
failover policy that trips replaces a live provider.
-/

namespace MultiAcademy.Control

open MultiAcademy.Lib

def operatorStep (cfg : Settings) (staff : StaffContext) (e : Time × StaffCall) (db : Db) : Db :=
  step cfg (.staff e.1 staff e.2) db

/-- The call is let through and takes tenant `t` off the blacklist. -/
def undoesBlacklist (staff : StaffContext) (t : ℕ) (db : Db) (e : Time × StaffCall) : Bool :=
  e.2.permission ∈ staff.permissions && e.2.lifts e.1 t db

/-- The call bears on the live provider tenant `t` is served with. -/
def StaffCall.switchesLive (now : Time) (t : ℕ) (c : String) (db : Db) : StaffCall → Bool
  | .setConfig body => setConfigSwitches t c db body
  | .testConnection configId health => testSwitches t c db configId health
  | .setFailover body => setFailoverSwitches now t c db body
  | .tripFailover policyId => tripSwitches t c db policyId
  | .resetFailover policyId => resetSwitches now t c db policyId
  | _ => false

/-- The call is let through and bears on the live provider tenant `t` is served with. -/
def bearsOnLive (staff : StaffContext) (t : ℕ) (c : String) (db : Db) (e : Time × StaffCall) :
    Bool :=
  e.2.permission ∈ staff.permissions && e.2.switchesLive e.1 t c db

variable {cfg : Settings} {staff : StaffContext} {t : ℕ} {c : String} {db : Db}
  {e : Time × StaffCall}

/-! ## One call -/

theorem operatorStep_cases (cfg : Settings) (staff : StaffContext) (e : Time × StaffCall)
    (db : Db) :
    (e.2.permission ∉ staff.permissions ∧ operatorStep cfg staff e db = db)
      ∨ (e.2.permission ∈ staff.permissions
        ∧ operatorStep cfg staff e db = (e.2.handle cfg e.1 staff db).db) := by
  by_cases hpermission : e.2.permission ∈ staff.permissions
  · exact Or.inr ⟨hpermission, by simp [operatorStep, step, respond, hpermission]⟩
  · exact Or.inl ⟨hpermission, by simp [operatorStep, step, respond, hpermission]⟩

theorem operatorStep_blacklisted (hon : dualControlEnabled cfg = true)
    (hown : e.2.own staff db = true) (hb : statusOf db t = some .blacklisted) :
    statusOf (operatorStep cfg staff e db) t = some .blacklisted
      ↔ undoesBlacklist staff t db e = false := by
  rcases operatorStep_cases cfg staff e db with ⟨hpermission, h⟩ | ⟨hpermission, h⟩
  · simp [h, hb, undoesBlacklist, hpermission]
  rw [h, staffCall_blacklisted hon e.2 hown hb]
  simp [undoesBlacklist, hpermission]

theorem operatorStep_jobs (hon : dualControlEnabled cfg = true) (hown : e.2.own staff db = true) :
    JobsHeld db (operatorStep cfg staff e db) := by
  rcases operatorStep_cases cfg staff e db with ⟨-, h⟩ | ⟨-, h⟩
  · rw [h]
    exact .of_eq rfl
  rw [h]
  exact staffCall_jobs hon e.2 hown

theorem KeepsControl.liveProvider {db' : Db} (h : KeepsControl db db') (later : Time) :
    liveProvider db' later t c = liveProvider db later t c := by
  simp only [Control.liveProvider, resolveProvider, chosenConfig, h.providerConfigs,
    h.failoverPolicies]

theorem staffCall_live {now later : Time} (hon : dualControlEnabled cfg = true) (call : StaffCall)
    (hown : call.own staff db = true) (hle : now ≤ later)
    (hguard : call.switchesLive now t c db = false) :
    liveProvider (call.handle cfg now staff db).db later t c = liveProvider db later t c := by
  by_cases hplain : call.plain = true
  · exact (staffCall_keeps hon call hown hplain).liveProvider later
  cases call with
  | scheduleOffboard tenantId body =>
    rcases scheduleOffboard_cases hon staff tenantId body with h | ⟨job, -, h⟩
    · exact h.liveProvider later
    rw [StaffCall.handle, h]
    rfl
  | cancelOffboard tenantId jobId reason =>
    rw [StaffCall.handle, cancelOffboard_db]
    split
    · unfold cancelOffboardJob
      split
      · rfl
      split
      · rfl
      simp only
      split <;> rfl
    · rfl
  | setConfig body => exact setConfig_live staff body hon hguard
  | testConnection configId health => exact testConnection_live configId health hguard
  | setFailover body => exact setFailover_live body hle hguard
  | tripFailover policyId => exact tripFailover_live policyId hguard
  | resetFailover policyId => exact resetFailover_live policyId hle hguard
  | _ => exact absurd rfl hplain

theorem operatorStep_live {later : Time} (hon : dualControlEnabled cfg = true)
    (hown : e.2.own staff db = true) (hle : e.1 ≤ later)
    (hguard : bearsOnLive staff t c db e = false) :
    liveProvider (operatorStep cfg staff e db) later t c = liveProvider db later t c := by
  rcases operatorStep_cases cfg staff e db with ⟨-, h⟩ | ⟨hpermission, h⟩
  · rw [h]
  rw [h]
  exact staffCall_live hon e.2 hown hle (by simpa [bearsOnLive, hpermission] using hguard)

/-! ## Runs -/

/-- **What one operator cannot bring about alone.**  In every run of calls of one operator
that approve no request of somebody else, from any database and with dual control on:

* a blacklisted tenant stays blacklisted exactly when no call meets the condition of an
  endpoint that ignores the blacklist;
* no offboarding is scheduled and none is carried out;
* a tenant is served with the live provider it would have been served with, when no call
  meets the condition of an endpoint that bears on it. -/
theorem single_operator_iff (cfg : Settings) (staff : StaffContext) (db : Db)
    (es : List (Time × StaffCall)) (hon : dualControlEnabled cfg = true)
    (hown : Along (operatorStep cfg staff) (fun db e => e.2.own staff db = true) db es) :
    (∀ t, statusOf db t = some .blacklisted →
      ((∀ pre, pre <+: es → statusOf (run (operatorStep cfg staff) db pre) t = some .blacklisted)
        ↔ Along (operatorStep cfg staff) (fun db e => undoesBlacklist staff t db e = false) db es))
    ∧ (∀ pre, pre <+: es → JobsHeld db (run (operatorStep cfg staff) db pre))
    ∧ ∀ t c, Along (operatorStep cfg staff) (fun db e => bearsOnLive staff t c db e = false) db es →
      ∀ pre later, pre <+: es → (∀ e ∈ pre, e.1 ≤ later) →
        liveProvider (run (operatorStep cfg staff) db pre) later t c
          = liveProvider db later t c := by
  refine ⟨?_, ?_, ?_⟩
  · intro t hb
    exact (along_iff_throughout (I := fun db => statusOf db t = some .blacklisted)
      (fun _ _ hown hb => operatorStep_blacklisted hon hown hb) hown hb).symm
  · intro pre hpre
    refine along_invariant_throughout (I := JobsHeld db) ?_ (.of_eq rfl) hown hpre
    intro db' e hheld hown
    exact hheld.trans (operatorStep_jobs hon hown)
  intro t c hguard pre later hpre hle
  obtain ⟨post, rfl⟩ := hpre
  have hsteps := ((along_append.1 hown).1.and (along_append.1 hguard).1).and
    (along_of_forall (D := fun e => e.1 ≤ later) hle)
  refine along_invariant (I := fun db' => liveProvider db' later t c = liveProvider db later t c)
    ?_ rfl hsteps
  rintro db' e hsame ⟨⟨hown, hguard⟩, hle⟩
  rw [operatorStep_live hon hown hle hguard, hsame]

/-! ## An operator alone -/

/-- The example school, blacklisted and served with a live payment provider, each with the
approval of a colleague. -/
def Example.guarded : Db :=
  run (step production) requested
    [.staff (day 1) colleague (.decide 0 approval),
      .staff (day 1) operator (.setConfig
        { capability := "payment", providerId := "paystack", reason := "set up" }),
      .staff (day 1) operator (.setConfig
        { capability := "payment", providerId := "paystack", mode := "live", reason := "launch" }),
      .staff (day 1) colleague (.decide 1 approval)]

/-- The school's status is changed. -/
def Example.reinstated : List (Time × StaffCall) :=
  [(day 2, .changeStatus 0 { status := "active", reason := "appeal" })]

def Example.failedOver : List (Time × StaffCall) :=
  [(day 2, .setFailover failover), (day 2, .tripFailover 0)]

/-- The result at the change of status: it bears on the blacklisting, and not on the live
provider. -/
theorem single_operator_iff_example :
    ((∀ pre, pre <+: Example.reinstated →
        statusOf (run (operatorStep Example.production Example.operator) Example.guarded pre) 0
          = some .blacklisted)
      ↔ Along (operatorStep Example.production Example.operator)
          (fun db e => undoesBlacklist Example.operator 0 db e = false)
          Example.guarded Example.reinstated)
    ∧ (∀ pre, pre <+: Example.reinstated → JobsHeld Example.guarded
        (run (operatorStep Example.production Example.operator) Example.guarded pre))
    ∧ liveProvider (run (operatorStep Example.production Example.operator) Example.guarded
        Example.reinstated) (Example.day 2) 0 "payment" = some "paystack" := by
  obtain ⟨hblacklist, hjobs, hlive⟩ := single_operator_iff Example.production Example.operator
    Example.guarded Example.reinstated (by decide) (by decide)
  refine ⟨hblacklist 0 (by decide), hjobs, ?_⟩
  rw [hlive 0 "payment" (by decide) Example.reinstated (Example.day 2) List.prefix_rfl
    (by decide)]
  decide

/-- One operator takes a tenant off the blacklist, and switches a live provider, without a
second one. -/
theorem not_single_operator :
    (¬ ∀ (cfg : Settings) (staff : StaffContext) (db : Db) (es : List (Time × StaffCall)) (t : ℕ),
      dualControlEnabled cfg = true → Reach cfg db →
      Along (operatorStep cfg staff) (fun db e => e.2.own staff db = true) db es →
      statusOf db t = some .blacklisted →
      statusOf (run (operatorStep cfg staff) db es) t = some .blacklisted)
    ∧ ¬ ∀ (cfg : Settings) (staff : StaffContext) (db : Db) (es : List (Time × StaffCall)) (t : ℕ)
        (c : String) (later : Time),
      dualControlEnabled cfg = true → Reach cfg db →
      Along (operatorStep cfg staff) (fun db e => e.2.own staff db = true) db es →
      (∀ e ∈ es, e.1 ≤ later) →
      liveProvider (run (operatorStep cfg staff) db es) later t c = liveProvider db later t c := by
  have hreach : Reach Example.production Example.guarded := ⟨_, run_append _ _ _ _⟩
  refine ⟨?_, ?_⟩
  · intro h
    have hstill := h Example.production Example.operator Example.guarded Example.reinstated 0
      (by decide) hreach (by decide) (by decide)
    revert hstill
    decide
  intro h
  have hstill := h Example.production Example.operator Example.guarded Example.failedOver 0
    "payment" (Example.day 2) (by decide) hreach (by decide) (by decide)
  revert hstill
  decide

end MultiAcademy.Control
