import MultiAcademy.Control.ProviderRoutes
import MultiAcademy.Lib.Override

/-!
# Who serves a tenant live

The configuration and the failover policy that count for a tenant are its own, or else the
global ones (`MultiAcademy.Lib.Override`).  The provider endpoints gate a change of a row
whose own mode is live; what a tenant is served with also depends on which row that is, on
the mode in its settings and on the failover policy.
-/

namespace MultiAcademy.Control

open MultiAcademy.Lib

/-! ## The rows that count -/

section Choose
variable {α : Type}

variable (owner : α → Option ℕ)

/-- The rows after one is kept: an owner's row replaces a global one. -/
theorem foldl_keepRow (rows : List α) (kept : α) :
    rows.foldl (keepRow owner) (some kept)
      = if (owner kept).isSome then some kept
        else (rows.find? fun row => (owner row).isSome).or (some kept) := by
  induction rows generalizing kept with
  | nil => simp
  | cons row rows ih =>
    rw [List.foldl_cons, List.find?_cons, keepRow]
    cases hkept : owner kept with
    | some k => simp [ih, hkept]
    | none =>
      cases hrow : owner row with
      | some k => simp [ih, hrow]
      | none => simp [ih, hkept]

theorem chooseRow_eq (rows : List α) :
    chooseRow owner rows = (rows.find? fun row => (owner row).isSome).or rows.head? := by
  cases rows with
  | nil => rfl
  | cons row rows =>
    rw [chooseRow, List.foldl_cons, keepRow, foldl_keepRow, List.find?_cons, List.head?_cons]
    cases howner : owner row with
    | some k => simp
    | none => simp

/-- The loop keeps the row that serves the tenant. -/
theorem chooseRow_filter (p : α → Bool) (t : ℕ) (rows : List α) :
    chooseRow owner (rows.filter fun row => p row && appliesTo t (owner row))
      = serving owner p t rows := by
  rw [chooseRow_eq, List.find?_filter, List.head?_filter, serving, rowOf, rowOf]
  have hown : (fun row => decide ((p row && appliesTo t (owner row)) = true
      ∧ (owner row).isSome = true)) = fun row => p row && decide (owner row = some t) := by
    funext row
    cases howner : owner row with
    | none => simp
    | some k => simp [appliesTo]
  rw [hown]
  cases hfound : rows.find? fun row => p row && decide (owner row = some t) with
  | some row => rfl
  | none =>
    -- no row of the tenant, so the first that applies is global
    rw [Option.none_or, Option.none_or, ← List.head?_filter, ← List.head?_filter]
    congr 1
    refine List.filter_congr ?_
    intro row hrow
    have hnot := List.find?_eq_none.1 hfound row hrow
    cases hp : p row with
    | false => rfl
    | true =>
      have hne : owner row ≠ some t := by simpa [hp] using hnot
      simp [appliesTo, hne]

end Choose

def configFor (c : String) (config : ProviderConfig) : Bool :=
  config.isEnabled && config.capability = c

/-- The enabled failover policies of a capability. -/
def policyFor (c : String) (policy : ProviderFailoverPolicy) : Bool :=
  policy.enabled && policy.capability = c

theorem chosenConfig_eq (db : Db) (t : ℕ) (c : String) :
    chosenConfig db t c = serving (·.tenantId) (configFor c) t db.providerConfigs := by
  rw [← chooseRow_filter, chosenConfig]
  congr 2
  funext config
  simp [configFor, Bool.and_assoc]

theorem chosenPolicy_eq (policies : Table ProviderFailoverPolicy) (t : ℕ) (c : String) :
    chosenPolicy policies t c = serving (·.tenantId) (policyFor c) t policies := by
  rw [← chooseRow_filter, chosenPolicy]
  congr 2
  funext policy
  simp [policyFor, Bool.and_assoc]

/-! ## Who is served live -/

/-- The mode a school server is told is "live". -/
def isLive (config : ProviderConfig) : Bool :=
  (config.settings.lookup "mode").getD config.mode = "live"

def servedLive (db : Db) (t : ℕ) (c : String) : Option ProviderConfig :=
  (chosenConfig db t c).filter isLive

/-- The policy leaves the configuration's own provider in place, from `now` on. -/
def idle (now : Time) (config : ProviderConfig) (policy : ProviderFailoverPolicy) : Bool :=
  !failoverActive now policy && !redPrimary policy config

/-- The live provider under the configuration and the policy that count. -/
theorem liveProvider_eq (db : Db) (now : Time) (t : ℕ) (c : String) :
    liveProvider db now t c = (servedLive db t c).map fun config =>
      (providerEntry now (chosenPolicy db.failoverPolicies t c) config).providerId := by
  rw [liveProvider, resolveProvider, servedLive]
  cases chosenConfig db t c with
  | none => rfl
  | some config =>
    by_cases hlive : isLive config = true
    · simp [providerEntry, Option.filter, hlive, of_decide_eq_true hlive]
    have hentry : (config.settings.lookup "mode").getD config.mode ≠ "live" := by
      simpa [isLive] using hlive
    simp [providerEntry, Option.filter, hlive, hentry]

/-- A policy that is not active at some time is not active later. -/
theorem failoverActive_antitone {now later : Time} (hle : now ≤ later)
    {policy : ProviderFailoverPolicy} (h : failoverActive now policy = false) :
    failoverActive later policy = false := by
  simp only [failoverActive] at h ⊢
  generalize policy.trippedAt = trippedAt at h ⊢
  cases trippedAt with
  | none => exact h
  | some tripped =>
    simp only [Option.all_some, Bool.and_eq_false_iff, decide_eq_false_iff_not] at h ⊢
    exact h.imp_right fun hlt hle' => hlt (Int.le_trans hle hle')

theorem providerEntry_idle {now later : Time} (hle : now ≤ later) {config : ProviderConfig}
    {policy? : Option ProviderFailoverPolicy} (h : policy?.all (idle now config) = true) :
    providerEntry later policy? config = providerEntry later none config := by
  cases policy? with
  | none => rfl
  | some policy =>
    simp only [Option.all_some, idle, Bool.and_eq_true, Bool.not_eq_true'] at h
    have hactive := failoverActive_antitone hle h.1
    simp [providerEntry, trippedFor, Option.filter, hactive, h.2]

/-- Two policies that are in force alike and name the same providers do the same. -/
theorem providerEntry_congr {now : Time} {config : ProviderConfig}
    {policy policy' : ProviderFailoverPolicy}
    (hprimary : policy'.primaryProviderId = policy.primaryProviderId)
    (hsecondary : policy'.secondaryProviderId = policy.secondaryProviderId)
    (htripped : trippedFor now policy' config = trippedFor now policy config)
    (hred : redPrimary policy' config = redPrimary policy config) :
    providerEntry now (some policy') config = providerEntry now (some policy) config := by
  by_cases hr : redPrimary policy config = true <;>
    by_cases ht : trippedFor now policy config = true <;>
      simp [providerEntry, Option.filter, htripped, hred, hr, ht, hprimary, hsecondary]

/-! ## What one call bears on -/

/-- A configuration row of this owner would serve the tenant. -/
def configReaches (t : ℕ) (c : String) (db : Db) (owner : Option ℕ) : Bool :=
  reaches (·.tenantId) (configFor c) t owner db.providerConfigs

/-- A policy row of this owner would count for the tenant. -/
def policyReaches (t : ℕ) (c : String) (db : Db) (owner : Option ℕ) : Bool :=
  reaches (·.tenantId) (policyFor c) t owner db.failoverPolicies

/-- The body is stored without a second operator, in a row that would serve a tenant who is
served live, or that its settings declare live. -/
def setConfigSwitches (t : ℕ) (c : String) (db : Db) (body : ProviderConfigSet) : Bool :=
  (body.problem db).isNone && body.capability = c && !body.needsDual db
    && configReaches t c db body.tenantId
    && ((servedLive db t c).isSome || body.settings.lookup "mode" = some "live")

/-- The test turns the health of a live configuration red, or back, that is the primary of
the policy that counts. -/
def testSwitches (t : ℕ) (c : String) (db : Db) (configId : ℕ) (health : String) : Bool :=
  (db.providerConfigs[configId]?).any fun config =>
    configFor c config && configReaches t c db config.tenantId && isLive config
      && decide (config.healthStatus = "red") != decide (health = "red")
      && (chosenPolicy db.failoverPolicies t c).any fun policy =>
        policy.enabled && config.providerId = policy.primaryProviderId

def FailoverPolicySet.stillTripped (now : Time) (db : Db) (body : FailoverPolicySet) : Bool :=
  ((policyOf db body.capability body.tenantId).bind (db.failoverPolicies[·]?)).any fun policy =>
    policy.isTripped
      && policy.trippedAt.all fun tripped => now ≤ tripped + Time.seconds body.cooldownSeconds

/-- The body leaves the configuration's own provider in place: it is not in force itself
or, when it is switched off, no other policy is that could count for the tenant. -/
def FailoverPolicySet.leaves (now : Time) (t : ℕ) (c : String) (db : Db)
    (config : ProviderConfig) (body : FailoverPolicySet) : Bool :=
  if body.enabled then
    !body.stillTripped now db
      && !(config.providerId = body.primaryProviderId && config.healthStatus = "red")
  else
    db.failoverPolicies.all fun policy =>
      !(policyFor c policy && appliesTo t policy.tenantId) || idle now config policy

/-- The policy that counts for a tenant who is served live is in force, or will be. -/
def setFailoverSwitches (now : Time) (t : ℕ) (c : String) (db : Db) (body : FailoverPolicySet) :
    Bool :=
  body.problem.isNone && body.capability = c && policyReaches t c db body.tenantId
    && (servedLive db t c).any fun config =>
      !((chosenPolicy db.failoverPolicies t c).all (idle now config)
        && body.leaves now t c db config)

/-- The policy that counts for a tenant who is served live trips. -/
def tripSwitches (t : ℕ) (c : String) (db : Db) (policyId : ℕ) : Bool :=
  (db.failoverPolicies[policyId]?).any fun policy =>
    policyFor c policy && policyReaches t c db policy.tenantId && (servedLive db t c).isSome
      && policy.failureThreshold ≤ policy.consecutiveFailures + 1

/-- The policy that counts for a tenant who is served live is active, and is reset. -/
def resetSwitches (now : Time) (t : ℕ) (c : String) (db : Db) (policyId : ℕ) : Bool :=
  (db.failoverPolicies[policyId]?).any fun policy =>
    policyFor c policy && policyReaches t c db policy.tenantId && (servedLive db t c).isSome
      && failoverActive now policy

variable {cfg : Settings} {now later : Time} {t : ℕ} {c : String} {db : Db}

/-! ### Configurations -/

theorem liveProvider_congr {db' : Db} (hserved : servedLive db' t c = servedLive db t c)
    (hpolicies : db'.failoverPolicies = db.failoverPolicies) :
    liveProvider db' later t c = liveProvider db later t c := by
  rw [liveProvider_eq, liveProvider_eq, hserved, hpolicies]

theorem configOf_row {x : Option ℕ} {i : ℕ} (h : configOf db c x = some i) :
    ∃ config, db.providerConfigs[i]? = some config ∧ config.capability = c
      ∧ config.tenantId = x := by
  obtain ⟨config, hrow, hq⟩ := Table.mem_select.1 (Table.mem_of_first? h)
  exact ⟨config, hrow, of_decide_eq_true hq⟩

/-- The row a stored body leaves. -/
theorem storeConfig_put (body : ProviderConfigSet) (db : Db) :
    ∃ old? new, Put (·.tenantId) body.tenantId new db.providerConfigs old?
        (storeConfig (configOf db body.capability body.tenantId) body.capability body.tenantId
          body.apply db.providerConfigs)
      ∧ (∀ old ∈ old?, old.capability = body.capability)
      ∧ new.capability = body.capability ∧ new.isEnabled = true
      ∧ (isLive new = true → body.mode = "live" ∨ body.settings.lookup "mode" = some "live") := by
  have hlive : ∀ config : ProviderConfig, isLive (body.apply config) = true →
      body.mode = "live" ∨ body.settings.lookup "mode" = some "live" := by
    intro config hlive
    simp only [isLive, ProviderConfigSet.apply] at hlive
    cases hmode : body.settings.lookup "mode" with
    | none => exact Or.inl (by simpa [hmode] using hlive)
    | some mode => exact Or.inr (by simpa [hmode] using hlive)
  cases hconfig : configOf db body.capability body.tenantId with
  | none =>
    exact ⟨none, _, .insert rfl, (fun old hmem => by cases hmem), rfl, rfl, hlive _⟩
  | some i =>
    obtain ⟨config, hrow, hcap, howner⟩ := configOf_row hconfig
    refine ⟨some config, body.apply config, .replace i config _ hrow howner rfl howner, ?_,
      hcap, rfl, hlive _⟩
    intro old hmem
    cases hmem
    exact hcap

theorem setConfig_live (staff : StaffContext) (body : ProviderConfigSet)
    (hon : dualControlEnabled cfg = true) (hguard : setConfigSwitches t c db body = false) :
    liveProvider (setConfig cfg now staff body db).db later t c = liveProvider db later t c := by
  simp only [setConfig]
  cases hproblem : body.problem db with
  | some problem => rfl
  | none =>
    by_cases hdual : body.needsDual db = true
    · rw [if_pos ⟨hon, hdual⟩]
      rfl
    rw [if_neg fun h => hdual h.2]
    rw [Bool.not_eq_true] at hdual
    refine liveProvider_congr ?_ rfl
    obtain ⟨old?, new, hput, hold, hcap, henabled, hlive⟩ := storeConfig_put body db
    simp only [servedLive, commit_db, bumpConfigVersion_providerConfigs, chosenConfig_eq]
    by_cases hc : body.capability = c
    · subst hc
      by_cases hreach : configReaches t body.capability db body.tenantId = true
      · -- the row would serve the tenant: nothing is live before or after
        simp only [setConfigSwitches, hproblem, Option.isNone_none, decide_true, hdual,
          Bool.not_false, hreach, Bool.and_self, Bool.true_and, Bool.or_eq_false_iff,
          decide_eq_false_iff_not] at hguard
        obtain ⟨hnone, hmode⟩ := hguard
        have hnew : configFor body.capability new = true := by
          simp [configFor, henabled, hcap]
        rcases serving_put (k := t) hput hnew with hsame | ⟨hserves, -⟩
        · rw [hsame]
        have hnotlive : isLive new = false := by
          rw [← Bool.not_eq_true]
          intro h
          rcases hlive h with h | h
          · simp [ProviderConfigSet.needsDual, h] at hdual
          · exact hmode h
        rw [servedLive, chosenConfig_eq] at hnone
        rw [hserves, Option.isNone_iff_eq_none.1 (Option.isSome_eq_false_iff.1 hnone)]
        simp [Option.filter, hnotlive]
      rw [Bool.not_eq_true] at hreach
      rw [serving_put_of_not_reaches hput hreach]
    rw [serving_put_of_false hput]
    · intro old hmem
      simp [configFor, hold old hmem, hc]
    · simp [configFor, hcap, hc]

theorem testConnection_live (configId : ℕ) (health : String)
    (hguard : testSwitches t c db configId health = false) :
    liveProvider (testConnection configId health db).db later t c
      = liveProvider db later t c := by
  simp only [testConnection]
  cases hrow : db.providerConfigs[configId]? with
  | none => rfl
  | some config =>
    rw [commit_db, liveProvider_eq, liveProvider_eq]
    have hput : Put (·.tenantId) config.tenantId { config with healthStatus := health }
        db.providerConfigs (some config)
        (db.providerConfigs.modify configId fun config =>
          { config with healthStatus := health }) :=
      .replace configId config _ hrow rfl rfl rfl
    simp only [servedLive, chosenConfig_eq]
    by_cases hfor : configFor c config = true
    · by_cases hreach : configReaches t c db config.tenantId = true
      · rcases serving_put (k := t) hput (p := configFor c) hfor with hsame | ⟨hserves, hwas⟩
        · rw [hsame]
        rw [hserves, hwas config rfl hfor]
        by_cases hlive : isLive config = true
        · -- the live configuration itself: its redness counts only for a primary
          have hlive' : isLive { config with healthStatus := health } = true := hlive
          simp only [testSwitches, hrow, Option.any_some, hfor, hreach, hlive, Bool.true_and,
            Bool.and_eq_false_iff] at hguard
          simp only [Option.filter, hlive, hlive', if_true, Option.map_some, Option.some.injEq]
          cases hpolicy : chosenPolicy db.failoverPolicies t c with
          | none => rfl
          | some policy =>
            have hred : redPrimary policy { config with healthStatus := health }
                = redPrimary policy config := by
              simp only [redPrimary]
              rcases hguard with hguard | hguard
              · have heq : decide (config.healthStatus = "red")
                    = decide (health = "red") := by
                  simpa using hguard
                rw [heq]
              rw [hpolicy, Option.any_some] at hguard
              rw [hguard]
              rfl
            simp only [providerEntry, trippedFor, Option.filter, hred]
            rfl
        have hlive' : isLive { config with healthStatus := health } ≠ true := hlive
        simp [Option.filter, hlive, hlive']
      rw [Bool.not_eq_true] at hreach
      rw [serving_put_of_not_reaches hput hreach]
    rw [Bool.not_eq_true] at hfor
    rw [serving_put_of_false hput]
    · intro old hmem
      cases hmem
      exact hfor
    · exact hfor

/-! ### Policies -/

/-- With the configurations untouched, only the policy that counts can make a difference. -/
theorem liveProvider_of_policy {db' : Db} (hconfigs : db'.providerConfigs = db.providerConfigs)
    (h : ∀ config, servedLive db t c = some config →
      providerEntry later (chosenPolicy db'.failoverPolicies t c) config
        = providerEntry later (chosenPolicy db.failoverPolicies t c) config) :
    liveProvider db' later t c = liveProvider db later t c := by
  have hserved : servedLive db' t c = servedLive db t c := by
    rw [servedLive, chosenConfig, hconfigs, ← chosenConfig, ← servedLive]
  rw [liveProvider_eq, liveProvider_eq, hserved]
  cases hlive : servedLive db t c with
  | none => rfl
  | some config => simp only [Option.map_some, h config hlive]

theorem policyOf_row {x : Option ℕ} {i : ℕ} (h : policyOf db c x = some i) :
    ∃ policy, db.failoverPolicies[i]? = some policy ∧ policy.capability = c
      ∧ policy.tenantId = x := by
  obtain ⟨policy, hrow, hq⟩ := Table.mem_select.1 (Table.mem_of_first? h)
  exact ⟨policy, hrow, of_decide_eq_true hq⟩

/-- The policy row a stored body leaves. -/
theorem store_put (now : Time) (body : FailoverPolicySet) (db : Db) :
    ∃ old? new, Put (·.tenantId) body.tenantId new db.failoverPolicies old? (body.store db)
      ∧ (∀ old ∈ old?, old.capability = body.capability)
      ∧ new.capability = body.capability ∧ new.enabled = body.enabled
      ∧ new.primaryProviderId = body.primaryProviderId
      ∧ (failoverActive now new = true → body.stillTripped now db = true) := by
  simp only [FailoverPolicySet.store, FailoverPolicySet.stillTripped]
  cases hpolicy : policyOf db body.capability body.tenantId with
  | none =>
    refine ⟨none, body.fresh, .insert rfl, (fun old hmem => by cases hmem), rfl, rfl, rfl, ?_⟩
    intro hactive
    simp [failoverActive, FailoverPolicySet.fresh] at hactive
  | some i =>
    obtain ⟨policy, hrow, hcap, howner⟩ := policyOf_row hpolicy
    refine ⟨some policy, body.apply policy, .replace i policy _ hrow howner rfl howner, ?_,
      hcap, rfl, rfl, ?_⟩
    · intro old hmem
      cases hmem
      exact hcap
    intro hactive
    simp only [failoverActive, FailoverPolicySet.apply, Bool.and_eq_true] at hactive
    simp only [Option.bind_some, hrow, Option.any_some, Bool.and_eq_true]
    exact ⟨hactive.1.2, hactive.2⟩

theorem setFailover_live (body : FailoverPolicySet) (hle : now ≤ later)
    (hguard : setFailoverSwitches now t c db body = false) :
    liveProvider (setFailover cfg now body db).db later t c = liveProvider db later t c := by
  simp only [setFailover]
  cases hproblem : body.problem with
  | some problem => rfl
  | none =>
    rw [commit_db]
    refine liveProvider_of_policy rfl fun config hlive => ?_
    obtain ⟨old?, new, hput, hold, hcap, henabled, hprimary, hactive⟩ := store_put now body db
    simp only [bumpConfigVersion_failoverPolicies]
    by_cases hc : body.capability = c
    · subst hc
      by_cases hreach : policyReaches t body.capability db body.tenantId = true
      · simp only [setFailoverSwitches, hproblem, Option.isNone_none, decide_true, hreach,
          Bool.true_and, hlive, Option.any_some, Bool.not_eq_false', Bool.and_eq_true] at hguard
        obtain ⟨hidle, hleaves⟩ := hguard
        -- both the policy before and the one after are idle
        have hidle' : (chosenPolicy (body.store db) t body.capability).all (idle now config)
            = true := by
          rw [chosenPolicy_eq]
          cases hserves : serving (·.tenantId) (policyFor body.capability) t (body.store db) with
          | none => rfl
          | some policy =>
            obtain ⟨hfor, hwhich⟩ := serving_put_mem hput hserves
            rw [Option.all_some]
            cases hswitch : body.enabled with
            | true =>
              simp only [FailoverPolicySet.leaves, hswitch, if_true, Bool.and_eq_true,
                Bool.not_eq_true'] at hleaves
              have hnew : policyFor body.capability new = true := by
                simp [policyFor, henabled, hswitch, hcap]
              rcases serving_put (k := t) hput hnew with hsame | ⟨hput', -⟩
              · rw [hsame, ← chosenPolicy_eq] at hserves
                rw [hserves, Option.all_some] at hidle
                exact hidle
              rw [hput'] at hserves
              cases hserves
              have hinactive : failoverActive now new = false := by
                rw [← Bool.not_eq_true]
                intro h
                rw [hactive h] at hleaves
                cases hleaves.1
              have hgreen : redPrimary new config = false := by
                rw [redPrimary, hprimary, Bool.and_assoc, hleaves.2, Bool.and_false]
              rw [idle, hinactive, hgreen]
              rfl
            | false =>
              simp only [FailoverPolicySet.leaves, hswitch, Bool.false_eq_true, if_false,
                List.all_eq_true] at hleaves
              rcases hwhich with rfl | ⟨hmem, howner⟩
              · simp [policyFor, henabled, hswitch] at hfor
              have happlies : appliesTo t policy.tenantId = true := by
                simpa [appliesTo, or_comm] using howner
              simpa [hfor, happlies] using hleaves policy hmem
        rw [providerEntry_idle hle hidle, providerEntry_idle hle hidle']
      rw [Bool.not_eq_true] at hreach
      rw [chosenPolicy_eq, chosenPolicy_eq, serving_put_of_not_reaches hput hreach]
    rw [chosenPolicy_eq, chosenPolicy_eq, serving_put_of_false hput]
    · intro old hmem
      simp [policyFor, hold old hmem, hc]
    · simp [policyFor, hcap, hc]

/-- A policy rewritten in place by `f` makes no difference, when for a tenant served live
`f` does not change what the policy does. -/
theorem liveProvider_of_rewrite {policyId : ℕ} {policy : ProviderFailoverPolicy}
    (f : ProviderFailoverPolicy → ProviderFailoverPolicy)
    (hrow : db.failoverPolicies[policyId]? = some policy)
    (hkeep : ∀ c, policyFor c (f policy) = policyFor c policy)
    (howner : (f policy).tenantId = policy.tenantId)
    (hsame : policyFor c policy = true → policyReaches t c db policy.tenantId = true →
      ∀ config, servedLive db t c = some config →
        providerEntry later (some (f policy)) config = providerEntry later (some policy) config) :
    liveProvider { db with failoverPolicies := db.failoverPolicies.modify policyId f } later t c
      = liveProvider db later t c := by
  have hput : Put (·.tenantId) policy.tenantId (f policy) db.failoverPolicies (some policy)
      (db.failoverPolicies.modify policyId f) := .replace policyId policy f hrow rfl rfl howner
  refine liveProvider_of_policy rfl fun config hlive => ?_
  simp only [chosenPolicy_eq]
  by_cases hfor : policyFor c policy = true
  · by_cases hreach : policyReaches t c db policy.tenantId = true
    · have hnew : policyFor c (f policy) = true := (hkeep c).trans hfor
      rcases serving_put (k := t) hput hnew with hput' | ⟨hserves, hwas⟩
      · rw [hput']
      rw [hserves, hwas policy rfl hfor]
      exact hsame hfor hreach config hlive
    rw [Bool.not_eq_true] at hreach
    rw [serving_put_of_not_reaches hput hreach]
  rw [Bool.not_eq_true] at hfor
  rw [serving_put_of_false hput]
  · intro old hmem
    cases hmem
    exact hfor
  · rw [hkeep, hfor]

theorem tripFailover_live (policyId : ℕ) (hguard : tripSwitches t c db policyId = false) :
    liveProvider (tripFailover cfg now policyId db).db later t c
      = liveProvider db later t c := by
  simp only [tripFailover]
  cases hrow : db.failoverPolicies[policyId]? with
  | none => rfl
  | some policy =>
    have hpolicyFor : ∀ c, policyFor c (recordFailure now policy) = policyFor c policy := by
      intro c
      simp only [policyFor, recordFailure]
      split <;> rfl
    refine (liveProvider_congr rfl rfl).trans (liveProvider_of_rewrite (recordFailure now) hrow
      hpolicyFor (by simp only [recordFailure]; split <;> rfl) ?_)
    intro hfor hreach config hlive
    -- below the threshold only the counter moves
    have hbelow : ¬ policy.failureThreshold ≤ policy.consecutiveFailures + 1 := by
      simpa [tripSwitches, hrow, hfor, hreach, hlive] using hguard
    rw [recordFailure, if_neg hbelow]
    exact providerEntry_congr rfl rfl rfl rfl

theorem resetFailover_live (policyId : ℕ) (hle : now ≤ later)
    (hguard : resetSwitches now t c db policyId = false) :
    liveProvider (resetFailover cfg now policyId db).db later t c
      = liveProvider db later t c := by
  simp only [resetFailover]
  cases hrow : db.failoverPolicies[policyId]? with
  | none => rfl
  | some policy =>
    refine (liveProvider_congr rfl rfl).trans (liveProvider_of_rewrite clearFailures hrow
      (fun _ => rfl) rfl ?_)
    intro hfor hreach config hlive
    have hinactive : failoverActive now policy = false := by
      simpa [resetSwitches, hrow, hfor, hreach, hlive] using hguard
    have hbefore := failoverActive_antitone hle hinactive
    have hafter : failoverActive later (clearFailures policy) = false := by
      simp [failoverActive, clearFailures]
    refine providerEntry_congr rfl rfl ?_ rfl
    rw [trippedFor, trippedFor, hbefore, hafter, Bool.false_and, Bool.false_and]

end MultiAcademy.Control
