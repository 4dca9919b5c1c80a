import MultiAcademy.Control.System
import MultiAcademy.Lib.Pass

/-!
# What a stage of the worker does to one tenant

The effect of each stage on one tenant row, in terms of the state the stage starts
from: `runStage_tenant` says that a stage is `stageEffect` on every tenant.  Whatever
is proved about tenants across stages is proved from it, without another look at the
loops.
-/

namespace MultiAcademy.Control

open MultiAcademy.Lib

variable {cfg : Settings} {now : Time} {t : ℕ}

/-! ## The trial pass -/

/-- The trial is active, its tenant is `t` and it has ended. -/
def dueFor (now : Time) (t : ℕ) (trial : TenantTrial) : Bool :=
  trial.tenantId = t ∧ trial.status = .active ∧ trial.endsAt ≤ now

def trialDue (now : Time) (t : ℕ) (db : Db) : Bool :=
  db.trials.existsRow fun trial => trial.enabled && dueFor now t trial

/-- What the end of a trial does to its tenant. -/
def restrictIfActive (tenant : Tenant) : Tenant :=
  if tenant.status = .active then restrictAtTrialEnd tenant else tenant

theorem restrictIfActive_idem (tenant : Tenant) :
    restrictIfActive (restrictIfActive tenant) = restrictIfActive tenant := by
  by_cases h : tenant.status = .active <;> simp [restrictIfActive, restrictAtTrialEnd, h]

/-- The trial `k` hits the tenant. -/
def trialHit (now : Time) (t : ℕ) (acc : TrialCounts × Db) (k : ℕ) : Prop :=
  ∃ trial, acc.2.trials[k]? = some trial ∧ dueFor now t trial = true

theorem expireTrial_tenants (k : ℕ) (trial : TenantTrial) (tenant : Tenant) (db : Db) :
    (expireTrial cfg now k trial tenant db).tenants
      = if tenant.status = .active then db.tenants.modify trial.tenantId restrictAtTrialEnd
        else db.tenants := by
  by_cases h : tenant.status = .active <;> simp [expireTrial, h]

theorem expireTrial_trials (k : ℕ) (trial : TenantTrial) (tenant : Tenant) (db : Db) :
    (expireTrial cfg now k trial tenant db).trials
      = db.trials.modify k fun row => { row with status := .expired, expiredAt := some now } := by
  by_cases h : tenant.status = .active <;> simp [expireTrial, h]

@[simp] theorem sendReminder_tenants (days : ℤ) (k : ℕ) (trial : TenantTrial) (tenant : Tenant)
    (stamp : TenantTrial → TenantTrial) (acc : TrialCounts × Db) :
    (sendReminder cfg now days k trial tenant stamp acc).2.tenants = acc.2.tenants := rfl

@[simp] theorem sendReminder_trials (days : ℤ) (k : ℕ) (trial : TenantTrial) (tenant : Tenant)
    (stamp : TenantTrial → TenantTrial) (acc : TrialCounts × Db) :
    (sendReminder cfg now days k trial tenant stamp acc).2.trials
      = acc.2.trials.modify k stamp := rfl

theorem sendReminders_tenants (k : ℕ) (trial : TenantTrial) (tenant : Tenant)
    (acc : TrialCounts × Db) :
    (sendReminders cfg now k trial tenant acc).2.tenants = acc.2.tenants := by
  simp only [sendReminders]
  split <;> split <;> simp

/-- A reminder changes nothing about which trials hit the tenant. -/
theorem sendReminders_hit (k k' : ℕ) (trial : TenantTrial) (tenant : Tenant)
    (acc : TrialCounts × Db) :
    trialHit now t (sendReminders cfg now k trial tenant acc) k' ↔ trialHit now t acc k' := by
  have hstamp : ∀ (acc : TrialCounts × Db) (days : ℤ) (stamp : TenantTrial → TenantTrial),
      (∀ row, dueFor now t (stamp row) = dueFor now t row) →
      (trialHit now t (sendReminder cfg now days k trial tenant stamp acc) k'
        ↔ trialHit now t acc k') := by
    intro acc days stamp hstamp
    simp only [trialHit, sendReminder_trials, List.getElem?_modify]
    cases acc.2.trials[k']? with
    | none => simp
    | some row => by_cases hk : k = k' <;> simp [hk, hstamp]
  simp only [sendReminders]
  split <;> split <;> simp [hstamp, dueFor]

variable (graceDays : ℤ) (db : Db) (acc : TrialCounts × Db)

theorem trialStep_hit (k k' : ℕ) (h : ¬ trialHit now t acc k) :
    trialHit now t (trialStep cfg now acc k) k' ↔ trialHit now t acc k' := by
  simp only [trialStep]
  split
  · rfl
  rename_i trial htrial
  split
  · rfl
  split
  · -- The expired trial was not the tenant's, and no other trial changes.
    simp only [trialHit, expireTrial_trials, List.getElem?_modify]
    by_cases hk : k = k'
    · subst hk
      simp only [trialHit, htrial] at h
      simp_all [dueFor]
    · simp [hk]
  · exact sendReminders_hit _ _ _ _ _

theorem trialStep_of_hit (k : ℕ) (h : trialHit now t acc k) :
    (trialStep cfg now acc k).2.tenants[t]? = (acc.2.tenants[t]?).map restrictIfActive := by
  obtain ⟨trial, htrial, hdue⟩ := h
  simp only [dueFor, Bool.decide_and, Bool.and_eq_true, decide_eq_true_eq] at hdue
  obtain ⟨rfl, hstatus, hends⟩ := hdue
  simp only [trialStep, htrial]
  cases htenant : acc.2.tenants[trial.tenantId]? with
  | none => simp [htenant]
  | some tenant =>
    simp only [hstatus, hends, and_self, if_true, expireTrial_tenants]
    by_cases ha : tenant.status = .active
    · simp [ha, htenant, restrictIfActive]
    · simp [ha, htenant, restrictIfActive]

theorem trialStep_of_not_hit (k : ℕ) (h : ¬ trialHit now t acc k) :
    (trialStep cfg now acc k).2.tenants[t]? = acc.2.tenants[t]? := by
  simp only [trialStep]
  split
  · rfl
  rename_i trial htrial
  split
  · rfl
  split
  · rename_i hdue
    have hne : trial.tenantId ≠ t := by
      intro ht
      exact h ⟨trial, htrial, by simp [dueFor, ht, hdue]⟩
    rw [expireTrial_tenants]
    split
    · simp [hne]
    · rfl
  · rw [sendReminders_tenants]

/-- **The trial pass** restricts an active tenant with a due trial. -/
theorem runTrialPass_tenant :
    (runTrialPass cfg now db).2.tenants[t]?
      = if trialDue now t db then (db.tenants[t]?).map restrictIfActive else db.tenants[t]? := by
  have hpass := row_foldl_of_hit (I := fun _ => True) (trialStep cfg now)
    (fun acc => acc.2.tenants[t]?) (trialHit now t) restrictIfActive_idem
    (fun _ _ h => h) (fun s k _ => trialStep_of_hit s k) (fun s k _ => trialStep_of_not_hit s k)
    (fun s k k' _ => trialStep_hit s k k') (db.trials.select (·.enabled))
    (s := (({} : TrialCounts), db)) trivial
  have hex : (∃ k ∈ db.trials.select (·.enabled), trialHit now t (({} : TrialCounts), db) k)
      ↔ trialDue now t db = true := by
    simp only [trialDue, Table.existsRow_iff, Table.mem_select, trialHit, Bool.and_eq_true]
    constructor
    · rintro ⟨k, ⟨trial, hk, he⟩, trial', hk', hd⟩
      rw [hk] at hk'
      cases hk'
      exact ⟨k, trial, hk, he, hd⟩
    rintro ⟨k, trial, hk, he, hd⟩
    exact ⟨k, ⟨trial, hk, he⟩, trial, hk, hd⟩
  rw [hex] at hpass
  simp only [runTrialPass]
  split
  · exact hpass.1 ‹_›
  · exact hpass.2 ‹_›

/-! ## The unsubscribed pass -/

/-- The unsubscribed pass suspends the tenant. -/
def unsubscribedHit (now : Time) (graceDays : ℤ) (t : ℕ) (db : Db) : Bool :=
  (db.tenants[t]?).any (unsubscribedCandidate now graceDays) && !onTrial db t
    && !subscribed db t

theorem graceExpired_idem (tenant : Tenant) :
    graceExpired (graceExpired tenant) = graceExpired tenant := rfl

theorem unsubscribedStep_frame (cfg : Settings) (now : Time) (acc : ℕ × Db) (k : ℕ) :
    (unsubscribedStep cfg now acc k).2.trials = acc.2.trials
      ∧ (unsubscribedStep cfg now acc k).2.subscriptions = acc.2.subscriptions := by
  simp only [unsubscribedStep]
  split <;> simp

theorem onTrial_congr {db db' : Db} (h : db'.trials = db.trials) :
    onTrial db' t = onTrial db t := by
  simp only [onTrial, trialOf, h]

theorem subscribed_congr {db db' : Db} (h : db'.subscriptions = db.subscriptions) :
    subscribed db' t = subscribed db t := by
  simp only [subscribed, h]

/-- **The unsubscribed pass** suspends the tenants it hits. -/
theorem runUnsubscribedPass_tenant :
    (runUnsubscribedPass cfg now graceDays db).2.tenants[t]?
      = if unsubscribedHit now graceDays t db then (db.tenants[t]?).map graceExpired
        else db.tenants[t]? := by
  have hpass := row_foldl_of_hit (I := fun _ => True) (unsubscribedStep cfg now)
    (fun acc => acc.2.tenants[t]?)
    (fun acc k => k = t ∧ onTrial acc.2 t = false ∧ subscribed acc.2 t = false)
    graceExpired_idem (fun _ _ h => h)
    (by
      rintro acc k _ ⟨rfl, ht, hs⟩
      simp [unsubscribedStep, ht, hs])
    (by
      intro acc k _ h
      simp only [unsubscribedStep]
      split
      · rfl
      rename_i hvalid
      have hne : k ≠ t := by
        rintro rfl
        exact h (by simpa using hvalid)
      simp [hne])
    (by
      intro acc k k' _ _
      obtain ⟨htrials, hsubs⟩ := unsubscribedStep_frame cfg now acc k
      rw [onTrial_congr htrials, subscribed_congr hsubs])
    (db.tenants.select (unsubscribedCandidate now graceDays)) (s := (0, db)) trivial
  have hex : (∃ k ∈ db.tenants.select (unsubscribedCandidate now graceDays),
      k = t ∧ onTrial db t = false ∧ subscribed db t = false)
      ↔ unsubscribedHit now graceDays t db = true := by
    simp only [unsubscribedHit, Table.mem_select, Bool.and_eq_true, Bool.not_eq_true',
      Option.any_eq_true]
    constructor
    · rintro ⟨k, hk, rfl, ht, hs⟩
      exact ⟨⟨hk, ht⟩, hs⟩
    rintro ⟨⟨hk, ht⟩, hs⟩
    exact ⟨t, hk, rfl, ht, hs⟩
  rw [hex] at hpass
  simp only [runUnsubscribedPass]
  split
  · exact hpass.1 ‹_›
  · exact hpass.2 ‹_›

/-! ## The courtesy pass -/

/-- The courtesy pass suspends the tenant: its unlock has ended and it still owes. -/
def courtesyHit (now : Time) (t : ℕ) (db : Db) : Bool :=
  (db.tenants[t]?).any (courtesyUnlockEnded now) && !tenantBillingResolved db t

/-- Some tenant's ended unlock is unresolved. -/
def someUnresolved (now : Time) (db : Db) : Bool :=
  (db.tenants.select (courtesyUnlockEnded now)).any fun k => !tenantBillingResolved db k

/-- The courtesy pass clears the tenant's ended unlock; the pass is only committed when
it suspends somebody. -/
def unlockCleared (now : Time) (t : ℕ) (db : Db) : Bool :=
  (db.tenants[t]?).any (courtesyUnlockEnded now) && tenantBillingResolved db t
    && someUnresolved now db

def endUnlock (resolved : Bool) (tenant : Tenant) : Tenant :=
  if resolved then clearCourtesyUnlock tenant else expireCourtesyUnlock tenant

theorem clearCourtesyUnlock_idem (tenant : Tenant) :
    clearCourtesyUnlock (clearCourtesyUnlock tenant) = clearCourtesyUnlock tenant := by
  by_cases h : tenant.statusReason ∈ billingReasons <;> simp [clearCourtesyUnlock, h]

theorem expireCourtesyUnlock_status (tenant : Tenant) :
    (expireCourtesyUnlock tenant).status = .suspended := by
  simp only [expireCourtesyUnlock]
  split
  · rfl
  · split <;> rfl

theorem expireCourtesyUnlock_idem (tenant : Tenant) :
    expireCourtesyUnlock (expireCourtesyUnlock tenant) = expireCourtesyUnlock tenant := by
  by_cases h1 : priorReason tenant = "billing_dunning"
  · have h : expireCourtesyUnlock tenant = { tenant with
        status := .suspended
        courtesyUnlockUntil := none
        statusMessage := "Suspended for unpaid SaaS subscription (dunning)."
        statusReason := "billing_dunning" } := by rw [expireCourtesyUnlock, if_pos h1]
    rw [h]; rfl
  by_cases h2 : priorReason tenant = "billing_grace_expired"
  · have h : expireCourtesyUnlock tenant = { tenant with
        status := .suspended
        courtesyUnlockUntil := none
        statusMessage := "This school is suspended because it has no active subscription."
        statusReason := "billing_grace_expired" } := by
      rw [expireCourtesyUnlock, if_neg h1, if_pos h2]
    rw [h]; rfl
  have h : expireCourtesyUnlock tenant = { tenant with
      status := .suspended
      courtesyUnlockUntil := none
      statusMessage :=
        "Courtesy unlock expired. Please renew your subscription or contact support."
      statusReason := "courtesy_unlock_expired" } := by
    rw [expireCourtesyUnlock, if_neg h1, if_neg h2]
  rw [h]; rfl

theorem endUnlock_idem (resolved : Bool) (tenant : Tenant) :
    endUnlock resolved (endUnlock resolved tenant) = endUnlock resolved tenant := by
  cases resolved with
  | true => exact clearCourtesyUnlock_idem tenant
  | false => exact expireCourtesyUnlock_idem tenant

theorem tenantBillingResolved_congr {db db' : Db} (hs : db'.subscriptions = db.subscriptions)
    (hi : db'.invoices = db.invoices) :
    tenantBillingResolved db' t = tenantBillingResolved db t := by
  simp only [tenantBillingResolved, hs, hi]

/-- A step of the pass rewrites one tenant, and no subscription and no invoice. -/
theorem expireCourtesyUnlockOf_spec (cfg : Settings) (now : Time) (acc : ℕ × Db) (k : ℕ) :
    (expireCourtesyUnlockOf cfg now acc k).2.tenants
        = acc.2.tenants.modify k (endUnlock (tenantBillingResolved acc.2 k))
      ∧ (expireCourtesyUnlockOf cfg now acc k).2.subscriptions = acc.2.subscriptions
      ∧ (expireCourtesyUnlockOf cfg now acc k).2.invoices = acc.2.invoices
      ∧ (expireCourtesyUnlockOf cfg now acc k).1
        = if tenantBillingResolved acc.2 k then acc.1 else acc.1 + 1 := by
  by_cases h : tenantBillingResolved acc.2 k = true
  · simp [expireCourtesyUnlockOf, h]
    rfl
  simp [expireCourtesyUnlockOf, h]
  rfl

/-- The rows the courtesy pass reads are those of the state it starts from. -/
def SameBilling (db : Db) (acc : ℕ × Db) : Prop :=
  acc.2.subscriptions = db.subscriptions ∧ acc.2.invoices = db.invoices

theorem sameBilling_step (acc : ℕ × Db) (k : ℕ) (h : SameBilling db acc) :
    SameBilling db (expireCourtesyUnlockOf cfg now acc k) := by
  obtain ⟨-, hs, hi, -⟩ := expireCourtesyUnlockOf_spec cfg now acc k
  exact ⟨hs.trans h.1, hi.trans h.2⟩

theorem runCourtesyUnlockExpiryPass_row :
    (runCourtesyUnlockExpiryPass cfg now db).2.tenants[t]?
      = if (db.tenants[t]?).any (courtesyUnlockEnded now) then
          (db.tenants[t]?).map (endUnlock (tenantBillingResolved db t))
        else db.tenants[t]? := by
  have hpass := row_foldl_of_hit (I := SameBilling db) (expireCourtesyUnlockOf cfg now)
    (fun acc => acc.2.tenants[t]?) (fun _ k => k = t)
    (endUnlock_idem (tenantBillingResolved db t)) (fun acc k h => sameBilling_step db acc k h)
    (by
      rintro acc k h rfl
      rw [(expireCourtesyUnlockOf_spec cfg now acc k).1, tenantBillingResolved_congr h.1 h.2]
      simp)
    (by
      intro acc k _ hne
      rw [(expireCourtesyUnlockOf_spec cfg now acc k).1]
      simp [hne])
    (fun _ _ _ _ _ => Iff.rfl) (db.tenants.select (courtesyUnlockEnded now)) (s := (0, db))
    ⟨rfl, rfl⟩
  have hex : (∃ k ∈ db.tenants.select (courtesyUnlockEnded now), k = t)
      ↔ (db.tenants[t]?).any (courtesyUnlockEnded now) = true := by
    simp [Table.mem_select, Option.any_eq_true]
  rw [hex] at hpass
  simp only [runCourtesyUnlockExpiryPass]
  split
  · exact hpass.1 ‹_›
  · exact hpass.2 ‹_›

/-- The pass counts a suspension exactly when some ended unlock is unresolved. -/
theorem runCourtesyUnlockExpiryPass_count :
    (runCourtesyUnlockExpiryPass cfg now db).1 ≠ 0 ↔ someUnresolved now db = true := by
  have hpass := row_foldl_of_hit (I := SameBilling db) (f := fun _ => true)
    (expireCourtesyUnlockOf cfg now) (fun acc => some (decide (acc.1 ≠ 0)))
    (fun _ k => tenantBillingResolved db k = false)
    (fun _ => rfl) (fun acc k h => sameBilling_step db acc k h)
    (by
      intro acc k h hk
      rw [(expireCourtesyUnlockOf_spec cfg now acc k).2.2.2, tenantBillingResolved_congr h.1 h.2]
      simp [hk])
    (by
      intro acc k h hk
      rw [(expireCourtesyUnlockOf_spec cfg now acc k).2.2.2, tenantBillingResolved_congr h.1 h.2]
      simp [hk])
    (fun _ _ _ _ _ => Iff.rfl) (db.tenants.select (courtesyUnlockEnded now)) (s := (0, db))
    ⟨rfl, rfl⟩
  have hex : (∃ k ∈ db.tenants.select (courtesyUnlockEnded now),
      tenantBillingResolved db k = false) ↔ someUnresolved now db = true := by
    simp [someUnresolved]
  rw [hex] at hpass
  simp only [runCourtesyUnlockExpiryPass]
  constructor
  · intro h
    by_contra hno
    have := hpass.2 hno
    simp at this
    exact h this
  intro h
  simpa using hpass.1 h

/-! ## The dunning pass -/

/-- The dunning pass suspends the tenant of this subscription, once it meets it. -/
def suspendedByDunning (now : Time) (t : ℕ) (sub : Subscription) : Bool :=
  sub.tenantId = t && sub.isCurrent && dunnable now sub && pastWarnings sub

/-- The overdue invoice makes the dunning pass suspend the tenant. -/
def suspendsTenant (now : Time) (t : ℕ) (db : Db) (inv : SaasInvoice) : Bool :=
  overdue now inv && inv.subscriptionId.any fun s =>
    (db.subscriptions[s]?).any (suspendedByDunning now t)

/-- The dunning pass suspends the tenant. -/
def dunningHit (now : Time) (t : ℕ) (db : Db) : Bool :=
  db.invoices.existsRow fun inv => dunningCandidate inv && suspendsTenant now t db inv

/-- **What `advance_dunning` does to a tenant.** -/
theorem advanceDunning_tenant (s : ℕ) (db : Db) :
    (advanceDunning cfg now graceDays s db).2.tenants[t]?
      = if (db.subscriptions[s]?).any (fun sub => sub.tenantId = t && pastWarnings sub) then
          (db.tenants[t]?).map dunningSuspend
        else db.tenants[t]? := by
  rcases advanceDunning_cases cfg now graceDays s db with
    ⟨h, hnone⟩ | ⟨sub, hsub, ⟨hw, h | h⟩ | ⟨hw, h⟩⟩
  · rw [h]
    cases hsub : db.subscriptions[s]? with
    | none => simp
    | some sub =>
      rw [hsub, Option.bind_some] at hnone
      by_cases ht : sub.tenantId = t
      · subst ht; simp [hnone]
      · simp [ht]
  · rw [h, hsub]
    simp [hw, enterPastDue]
  · rw [h, hsub]
    simp [hw, enterGrace]
  rw [h, hsub]
  by_cases ht : sub.tenantId = t
  · subst ht; simp [hw, enterSuspended]
  · simp [ht, enterSuspended]

/-- What the dunning pass reads of an invoice and never rewrites. -/
def dunningKey (inv : SaasInvoice) : Option Time × Option ℕ := (inv.dueAt, inv.subscriptionId)

/-- `advance_dunning` rewrites no other subscription, and of the invoices only
statuses. -/
theorem advanceDunning_frame (cfg : Settings) (now : Time) (graceDays : ℤ) (s : ℕ) (db : Db) :
    (∀ s', s' ≠ s →
      (advanceDunning cfg now graceDays s db).2.subscriptions[s']? = db.subscriptions[s']?)
    ∧ ∀ i : ℕ, ((advanceDunning cfg now graceDays s db).2.invoices[i]?).map dunningKey
      = (db.invoices[i]?).map dunningKey := by
  rcases advanceDunning_cases cfg now graceDays s db with
    ⟨h, -⟩ | ⟨sub, hsub, ⟨-, h | h⟩ | ⟨-, h⟩⟩ <;> rw [h]
  · exact ⟨fun _ _ => rfl, fun _ => rfl⟩
  · refine ⟨fun s' hs' => by simp [enterPastDue, Ne.symm hs'], fun i => ?_⟩
    simp only [enterPastDue, Table.getElem?_updateWhere, Option.map_map]
    congr 1
    funext inv
    simp only [Function.comp]
    split <;> rfl
  · exact ⟨fun s' hs' => by simp [enterGrace, Ne.symm hs'], fun _ => rfl⟩
  · exact ⟨fun s' hs' => by simp [enterSuspended, Ne.symm hs'], fun _ => rfl⟩

/-- Invoice `k` makes the pass suspend the tenant, unless its subscription was met. -/
def dunHit (now : Time) (t : ℕ) (acc : DunningAcc) (k : ℕ) : Prop :=
  ∃ inv, acc.db.invoices[k]? = some inv ∧ overdue now inv = true ∧
    ∃ s, inv.subscriptionId = some s ∧ s ∉ acc.seen ∧
      (acc.db.subscriptions[s]?).any (suspendedByDunning now t) = true

theorem dunSubscription_of_hit (acc : DunningAcc) (s : ℕ) (sub : Subscription)
    (hsub : acc.db.subscriptions[s]? = some sub) (h : suspendedByDunning now t sub = true) :
    (dunSubscription cfg now graceDays acc s sub).db.tenants[t]?
      = (acc.db.tenants[t]?).map dunningSuspend := by
  simp only [suspendedByDunning, Bool.and_eq_true, decide_eq_true_eq] at h
  obtain ⟨⟨⟨rfl, hc⟩, hd⟩, hw⟩ := h
  simp [dunSubscription, hc, hd, advanceDunning_tenant, hsub, hw]

theorem dunSubscription_of_not_hit (acc : DunningAcc) (s : ℕ)
    (sub : Subscription) (hsub : acc.db.subscriptions[s]? = some sub)
    (h : suspendedByDunning now t sub = false) :
    (dunSubscription cfg now graceDays acc s sub).db.tenants[t]? = acc.db.tenants[t]? := by
  simp only [dunSubscription]
  split
  · rfl
  rename_i hc
  split
  · rename_i hd
    rw [advanceDunning_tenant, hsub]
    have hno : ¬ (sub.tenantId = t ∧ pastWarnings sub = true) := by
      rintro ⟨ht, hw⟩
      simp [suspendedByDunning, ht, hw, hd] at h
      simp [h] at hc
    simp only [Option.any_some, Bool.and_eq_true, decide_eq_true_eq]
    rw [if_neg hno]
  · rfl

/-- Once subscription `s`, which does not hit the tenant, has been met, the invoices hit
the tenant as before: those of `s` do not, and every other subscription is as it was. -/
theorem dunHit_of_met {acc acc' : DunningAcc} {s : ℕ} (k : ℕ) (hseen : acc'.seen = s :: acc.seen)
    (hsubs : ∀ s', s' ≠ s → acc'.db.subscriptions[s']? = acc.db.subscriptions[s']?)
    (hinvs : ∀ i : ℕ, (acc'.db.invoices[i]?).map dunningKey = (acc.db.invoices[i]?).map dunningKey)
    (hs : (acc.db.subscriptions[s]?).any (suspendedByDunning now t) = false) :
    dunHit now t acc' k ↔ dunHit now t acc k := by
  have hkey : ∀ {a b : DunningAcc} {inv : SaasInvoice},
      (b.db.invoices[k]?).map dunningKey = (a.db.invoices[k]?).map dunningKey →
      b.db.invoices[k]? = some inv → ∃ inv', a.db.invoices[k]? = some inv'
        ∧ overdue now inv' = overdue now inv ∧ inv'.subscriptionId = inv.subscriptionId := by
    intro a b inv hmap hinv
    rw [hinv, Option.map_some, eq_comm, Option.map_eq_some_iff] at hmap
    obtain ⟨inv', hinv', hk⟩ := hmap
    simp only [dunningKey, Prod.mk.injEq] at hk
    exact ⟨inv', hinv', by simp only [overdue, hk.1], hk.2⟩
  constructor
  · rintro ⟨inv, hinv, hover, s', hs', hnot, hany⟩
    rw [hseen, List.mem_cons, not_or] at hnot
    obtain ⟨inv', hinv', hover', hsub'⟩ := hkey (hinvs k) hinv
    exact ⟨inv', hinv', hover' ▸ hover, s', hsub' ▸ hs', hnot.2, hsubs s' hnot.1 ▸ hany⟩
  rintro ⟨inv, hinv, hover, s', hs', hnot, hany⟩
  have hne : s' ≠ s := by
    rintro rfl
    rw [hs] at hany
    exact Bool.false_ne_true hany
  obtain ⟨inv', hinv', hover', hsub'⟩ := hkey (hinvs k).symm hinv
  refine ⟨inv', hinv', hover' ▸ hover, s', hsub' ▸ hs', ?_, (hsubs s' hne).symm ▸ hany⟩
  rw [hseen, List.mem_cons, not_or]
  exact ⟨hne, hnot⟩

theorem dunSubscription_hit (acc : DunningAcc) (s k' : ℕ) (sub : Subscription)
    (hsub : acc.db.subscriptions[s]? = some sub) (h : suspendedByDunning now t sub = false) :
    dunHit now t (dunSubscription cfg now graceDays acc s sub) k' ↔ dunHit now t acc k' := by
  have hs : (acc.db.subscriptions[s]?).any (suspendedByDunning now t) = false := by
    rw [hsub]; exact h
  simp only [dunSubscription]
  split
  · rfl
  split
  · obtain ⟨hsubs, hinvs⟩ := advanceDunning_frame cfg now graceDays s acc.db
    exact dunHit_of_met k' rfl hsubs hinvs hs
  · exact dunHit_of_met k' rfl (fun _ _ => rfl) (fun _ => rfl) hs

/-- What one invoice of the pass does: nothing, or it meets a new subscription. -/
theorem dunInvoice_cases (cfg : Settings) (now : Time) (t : ℕ) (graceDays : ℤ) (acc : DunningAcc)
    (k : ℕ) :
    (dunInvoice cfg now graceDays acc k = acc ∧ ¬ dunHit now t acc k)
      ∨ ∃ inv s sub, acc.db.invoices[k]? = some inv ∧ overdue now inv = true
        ∧ inv.subscriptionId = some s ∧ s ∉ acc.seen ∧ acc.db.subscriptions[s]? = some sub
        ∧ dunInvoice cfg now graceDays acc k = dunSubscription cfg now graceDays acc s sub := by
  simp only [dunInvoice, dunHit]
  cases hinv : acc.db.invoices[k]? with
  | none => simp
  | some inv =>
    by_cases hover : overdue now inv = true
    · cases hsid : inv.subscriptionId with
      | none => simp [hsid]
      | some s =>
        by_cases hseen : s ∈ acc.seen
        · simp [hsid, hseen, hover]
        cases hsub : acc.db.subscriptions[s]? with
        | none => simp [hsid, hover, hseen, hsub]
        | some sub =>
          refine Or.inr ⟨inv, s, sub, rfl, hover, hsid, hseen, hsub, ?_⟩
          simp [hover, hsid, hseen, hsub]
    · simp [hover]

/-- **The dunning pass** suspends the tenants it hits. -/
theorem runDunningPass_tenant :
    (runDunningPass cfg now graceDays db).2.tenants[t]?
      = if dunningHit now t db then (db.tenants[t]?).map dunningSuspend else db.tenants[t]? := by
  have hmet : ∀ (acc : DunningAcc) (s : ℕ) (sub : Subscription) (inv : SaasInvoice) (k : ℕ),
      acc.db.invoices[k]? = some inv → overdue now inv = true → inv.subscriptionId = some s →
      s ∉ acc.seen → acc.db.subscriptions[s]? = some sub →
      (dunHit now t acc k ↔ suspendedByDunning now t sub = true) := by
    intro acc s sub inv k hinv hover hsid hseen hsub
    simp [dunHit, hinv, hover, hsid, hseen, hsub]
  have hpass := row_foldl_of_hit (I := fun _ => True) (dunInvoice cfg now graceDays)
    (fun acc => acc.db.tenants[t]?) (dunHit now t) (fun _ => rfl : ∀ a, dunningSuspend
      (dunningSuspend a) = dunningSuspend a) (fun _ _ h => h)
    (by
      intro acc k _ hk
      rcases dunInvoice_cases cfg now t graceDays acc k with
        ⟨-, hno⟩ | ⟨inv, s, sub, hinv, hover, hsid, hseen, hsub, heq⟩
      · exact absurd hk hno
      rw [heq]
      exact dunSubscription_of_hit graceDays acc s sub hsub
        ((hmet acc s sub inv k hinv hover hsid hseen hsub).1 hk))
    (by
      intro acc k _ hk
      rcases dunInvoice_cases cfg now t graceDays acc k with
        ⟨heq, -⟩ | ⟨inv, s, sub, hinv, hover, hsid, hseen, hsub, heq⟩
      · rw [heq]
      rw [heq]
      rw [hmet acc s sub inv k hinv hover hsid hseen hsub, Bool.not_eq_true] at hk
      exact dunSubscription_of_not_hit graceDays acc s sub hsub hk)
    (by
      intro acc k k' _ hk
      rcases dunInvoice_cases cfg now t graceDays acc k with
        ⟨heq, -⟩ | ⟨inv, s, sub, hinv, hover, hsid, hseen, hsub, heq⟩
      · rw [heq]
      rw [heq]
      rw [hmet acc s sub inv k hinv hover hsid hseen hsub, Bool.not_eq_true] at hk
      exact dunSubscription_hit graceDays acc s k' sub hsub hk)
    (db.invoices.select dunningCandidate) (s := ⟨[], [], db⟩) trivial
  have hex : (∃ k ∈ db.invoices.select dunningCandidate, dunHit now t ⟨[], [], db⟩ k)
      ↔ dunningHit now t db = true := by
    simp only [dunningHit, suspendsTenant, Table.existsRow_iff, Table.mem_select, Bool.and_eq_true]
    constructor
    · rintro ⟨k, ⟨inv, hk, hc⟩, inv', hk', hover, s, hs, -, hany⟩
      rw [hk] at hk'
      cases hk'
      exact ⟨k, inv, hk, hc, hover, by rw [hs]; exact hany⟩
    rintro ⟨k, inv, hk, hc, hover, hany⟩
    obtain ⟨s, hs, hany⟩ := (Option.any_eq_true _ _).1 hany
    exact ⟨k, ⟨inv, hk, hc⟩, inv, hk, hover, s, hs, List.not_mem_nil, hany⟩
  rw [hex] at hpass
  simp only [runDunningPass]
  split
  · exact hpass.1 ‹_›
  · exact hpass.2 ‹_›

/-! ## Stages that leave every tenant alone -/

theorem createInvoiceForSubscription_tenants (s : ℕ) (dueDays : ℤ) (start : Option Time) (db : Db) :
    (createInvoiceForSubscription now s dueDays start db).2.tenants = db.tenants := by
  unfold createInvoiceForSubscription
  split
  · rfl
  simp only
  split <;> rfl

theorem catchUp_tenants (s periods : ℕ) (created : List ℕ) (db : Db) :
    (catchUp now s periods created db).2.tenants = db.tenants := by
  induction periods generalizing created db with
  | zero => rfl
  | succ periods ih =>
    simp only [catchUp]
    split
    · rfl
    split
    · rfl
    · simp only [ih, createInvoiceForSubscription_tenants]

theorem generateDueInvoices_tenants :
    (generateDueInvoices now db).2.tenants = db.tenants := by
  simp only [generateDueInvoices]
  refine foldl_invariant (I := fun acc : List ℕ × Db => acc.2.tenants = db.tenants) ?_ _ rfl
  intro acc s h
  split
  · exact h
  split
  · rw [catchUp_tenants, h]
  · exact h

theorem dispatchWipe_tenants (acc : ℕ × Db) (k : ℕ) :
    (dispatchWipe cfg now acc k).2.tenants = acc.2.tenants := by
  simp only [dispatchWipe]
  split
  · rfl
  split
  · rfl
  · split <;> rfl

theorem dispatchDueWipes_tenants (limit : ℕ) (db : Db) :
    (dispatchDueWipes cfg now limit db).2.tenants = db.tenants := by
  simp only [dispatchDueWipes]
  refine foldl_invariant (I := fun acc : ℕ × Db => acc.2.tenants = db.tenants) ?_ _ rfl
  intro acc k h
  rw [dispatchWipe_tenants, h]

/-! ## Commits -/

theorem commitIf_eq {worked : Bool} {db' db : Db} (h : worked = true ∨ db' = db) :
    commitIf worked db' db = db' := by
  simp only [commitIf]
  split
  · rfl
  rename_i hw
  rcases h with h | h
  · exact absurd h hw
  · exact h.symm

def TrialCounts.worked (counts : TrialCounts) : Prop := counts.reminders ≠ 0 ∨ counts.expired ≠ 0

theorem sendReminder_worked (days : ℤ) (k : ℕ) (trial : TenantTrial) (tenant : Tenant)
    (stamp : TenantTrial → TenantTrial) (acc : TrialCounts × Db) :
    (sendReminder cfg now days k trial tenant stamp acc).1.worked := Or.inl (Nat.succ_ne_zero _)

theorem sendReminders_work (k : ℕ) (trial : TenantTrial) (tenant : Tenant)
    (acc : TrialCounts × Db) :
    (sendReminders cfg now k trial tenant acc).1.worked
      ∨ sendReminders cfg now k trial tenant acc = acc := by
  simp only [sendReminders]
  split
  · split
    · exact Or.inl (sendReminder_worked _ _ _ _ _ _)
    · exact Or.inl (sendReminder_worked _ _ _ _ _ _)
  split
  · exact Or.inl (sendReminder_worked _ _ _ _ _ _)
  · exact Or.inr rfl

theorem trialStep_work (k : ℕ) :
    (trialStep cfg now acc k).1.worked ∨ trialStep cfg now acc k = acc := by
  simp only [trialStep]
  split
  · exact Or.inr rfl
  split
  · exact Or.inr rfl
  split
  · exact Or.inl (Or.inr (Nat.succ_ne_zero _))
  · exact sendReminders_work _ _ _ _

theorem work_mono {σ : Type} (worked : σ → Prop) {s s' : σ} (h : worked s' ∨ s' = s)
    (hs : worked s) : worked s' := by
  rcases h with h | h
  · exact h
  · exact h ▸ hs

theorem runTrialPass_work :
    (runTrialPass cfg now db).1.worked ∨ (runTrialPass cfg now db).2 = db := by
  simp only [runTrialPass]
  exact foldl_idle (fun acc : TrialCounts × Db => acc.1.worked) Prod.snd
    (fun acc k => work_mono (fun acc : TrialCounts × Db => acc.1.worked) (trialStep_work acc k))
    (fun acc k => (trialStep_work acc k).imp_right (congrArg Prod.snd)) _ ({}, db)

theorem unsubscribedStep_work (acc : ℕ × Db) (k : ℕ) :
    (unsubscribedStep cfg now acc k).1 ≠ 0 ∨ unsubscribedStep cfg now acc k = acc := by
  simp only [unsubscribedStep]
  split
  · exact Or.inr rfl
  · exact Or.inl (Nat.succ_ne_zero _)

theorem runUnsubscribedPass_work :
    (runUnsubscribedPass cfg now graceDays db).1 ≠ 0
      ∨ (runUnsubscribedPass cfg now graceDays db).2 = db := by
  simp only [runUnsubscribedPass]
  exact foldl_idle (fun acc : ℕ × Db => acc.1 ≠ 0) Prod.snd
    (fun acc k => work_mono (fun acc : ℕ × Db => acc.1 ≠ 0) (unsubscribedStep_work acc k))
    (fun acc k => (unsubscribedStep_work acc k).imp_right (congrArg Prod.snd)) _ (0, db)

theorem dunSubscription_work (acc : DunningAcc) (s : ℕ) (sub : Subscription) :
    ((dunSubscription cfg now graceDays acc s sub).results ≠ []
      ∧ (acc.results ≠ [] → (dunSubscription cfg now graceDays acc s sub).results ≠ []))
    ∨ (dunSubscription cfg now graceDays acc s sub).db = acc.db
      ∧ (dunSubscription cfg now graceDays acc s sub).results = acc.results := by
  simp only [dunSubscription]
  split
  · exact Or.inr ⟨rfl, rfl⟩
  split
  · exact Or.inl (by simp)
  · exact Or.inr ⟨rfl, rfl⟩

theorem dunInvoice_work (cfg : Settings) (now : Time) (graceDays : ℤ) (acc : DunningAcc) (k : ℕ) :
    (dunInvoice cfg now graceDays acc k).results ≠ []
    ∨ (dunInvoice cfg now graceDays acc k).db = acc.db
      ∧ (dunInvoice cfg now graceDays acc k).results = acc.results := by
  rcases dunInvoice_cases cfg now 0 graceDays acc k with
    ⟨heq, -⟩ | ⟨inv, s, sub, -, -, -, -, -, heq⟩
  · exact Or.inr ⟨by rw [heq], by rw [heq]⟩
  rw [heq]
  exact (dunSubscription_work graceDays acc s sub).imp_left And.left

theorem runDunningPass_work :
    (runDunningPass cfg now graceDays db).1 ≠ []
      ∨ (runDunningPass cfg now graceDays db).2 = db := by
  simp only [runDunningPass]
  refine foldl_idle (fun acc : DunningAcc => acc.results ≠ []) DunningAcc.db ?_
    (fun acc k => (dunInvoice_work cfg now graceDays acc k).imp_right And.left) _ ⟨[], [], db⟩
  intro acc k h
  rcases dunInvoice_work cfg now graceDays acc k with h' | ⟨-, h'⟩
  · exact h'
  · rwa [h']

theorem dispatchWipe_work (acc : ℕ × Db) (k : ℕ) :
    (dispatchWipe cfg now acc k).1 ≠ 0 ∨ dispatchWipe cfg now acc k = acc := by
  simp only [dispatchWipe]
  split
  · exact Or.inr rfl
  split
  · exact Or.inl (Nat.succ_ne_zero _)
  · split <;> exact Or.inl (Nat.succ_ne_zero _)

theorem dispatchDueWipes_work (limit : ℕ) (db : Db) :
    (dispatchDueWipes cfg now limit db).1 ≠ 0 ∨ (dispatchDueWipes cfg now limit db).2 = db := by
  simp only [dispatchDueWipes]
  exact foldl_idle (fun acc : ℕ × Db => acc.1 ≠ 0) Prod.snd
    (fun acc k => work_mono (fun acc : ℕ × Db => acc.1 ≠ 0) (dispatchWipe_work acc k))
    (fun acc k => (dispatchWipe_work acc k).imp_right (congrArg Prod.snd)) _ (0, db)

/-- **A stage is its pass**, committed or not, except that the courtesy pass is only
kept when it suspends somebody. -/
theorem runStage_eq (stage : Stage) (db : Db) :
    runStage cfg now stage db = match stage with
      | .trial => (runTrialPass cfg now db).2
      | .generateDue => (generateDueInvoices now db).2
      | .unsubscribed => (runUnsubscribedPass cfg now (workerGraceDays cfg) db).2
      | .courtesyExpiry =>
        if someUnresolved now db then (runCourtesyUnlockExpiryPass cfg now db).2 else db
      | .dunning => (runDunningPass cfg now (workerGraceDays cfg) db).2
      | .wipes => (dispatchDueWipes cfg now wipeLimit db).2 := by
  cases stage with
  | trial => exact commitIf_eq ((runTrialPass_work db).imp_left decide_eq_true)
  | generateDue => rfl
  | unsubscribed => exact commitIf_eq ((runUnsubscribedPass_work _ db).imp_left decide_eq_true)
  | courtesyExpiry =>
    simp only [runStage, commitIf, decide_eq_true_eq, runCourtesyUnlockExpiryPass_count]
  | dunning => exact commitIf_eq ((runDunningPass_work _ db).imp_left decide_eq_true)
  | wipes => exact commitIf_eq ((dispatchDueWipes_work _ db).imp_left decide_eq_true)

/-! ## Stages -/

/-- What a stage does to a tenant row. -/
def stageEffect (cfg : Settings) (now : Time) (stage : Stage) (t : ℕ) (db : Db) :
    Tenant → Tenant :=
  match stage with
  | .trial => if trialDue now t db then restrictIfActive else id
  | .unsubscribed => if unsubscribedHit now (workerGraceDays cfg) t db then graceExpired else id
  | .courtesyExpiry =>
    if courtesyHit now t db then expireCourtesyUnlock
    else if unlockCleared now t db then clearCourtesyUnlock else id
  | .dunning => if dunningHit now t db then dunningSuspend else id
  | .generateDue | .wipes => id

theorem map_ite_id {α : Type} (p : Prop) [Decidable p] (f : α → α) (o : Option α) :
    o.map (if p then f else id) = if p then o.map f else o := by
  split <;> simp

/-- **A stage on one tenant.** -/
theorem runStage_tenant (stage : Stage) (db : Db) :
    (runStage cfg now stage db).tenants[t]?
      = (db.tenants[t]?).map (stageEffect cfg now stage t db) := by
  rw [runStage_eq]
  cases stage with
  | trial => simp only [stageEffect, runTrialPass_tenant, map_ite_id]
  | generateDue => simp [stageEffect, generateDueInvoices_tenants]
  | unsubscribed => simp only [stageEffect, runUnsubscribedPass_tenant, map_ite_id]
  | courtesyExpiry =>
    simp only [stageEffect, courtesyHit, unlockCleared]
    by_cases hended : (db.tenants[t]?).any (courtesyUnlockEnded now) = true
    · by_cases hres : tenantBillingResolved db t = true
      · by_cases hsome : someUnresolved now db = true
        · simp [hended, hres, hsome, runCourtesyUnlockExpiryPass_row]
          rfl
        · simp [hres, hsome]
      have hsome : someUnresolved now db = true := by
        simp only [someUnresolved, List.any_eq_true]
        exact ⟨t, Table.mem_select.2 ((Option.any_eq_true _ _).1 hended), by simpa using hres⟩
      simp [hended, hres, hsome, runCourtesyUnlockExpiryPass_row]
      rfl
    by_cases hsome : someUnresolved now db = true
    · simp [hended, hsome, runCourtesyUnlockExpiryPass_row]
    · simp [hended, hsome]
  | dunning => simp only [stageEffect, runDunningPass_tenant, map_ite_id]
  | wipes => simp [stageEffect, dispatchDueWipes_tenants]

end MultiAcademy.Control
