import MultiAcademy.Control.Grace

/-!
# Locks that payment lifts

Three passes suspend a tenant for its bill, each under a reason of its own, and
settlement lifts only one of the three.  A tenant locked by dunning still owes an
invoice, and the payment that leaves it owing nothing lets it in; a tenant locked for
another reason can pay everything and stays locked.
-/

namespace MultiAcademy.Control

open MultiAcademy.Lib

variable {cfg : Settings} {now : Time} {t : ℕ} {db : Db}

/-- Some invoice of the tenant is still to be paid. -/
def owes (t : ℕ) (db : Db) : Bool :=
  db.invoices.existsRow fun inv => inv.tenantId = t && owing inv

/-- The tenant is suspended under a reason. -/
def lockedFor (reason : String) (t : ℕ) (db : Db) : Bool :=
  (db.tenants[t]?).any fun tenant => tenant.status = .suspended && tenant.statusReason = reason

/-- The tenant is suspended under one of the billing reasons. -/
def billingLocked (t : ℕ) (db : Db) : Bool := billingReasons.any fun reason => lockedFor reason t db

theorem lockedFor_iff {reason : String} :
    lockedFor reason t db = true
      ↔ ∃ tenant, db.tenants[t]? = some tenant ∧ tenant.status = .suspended
        ∧ tenant.statusReason = reason := by
  simp [lockedFor, Option.any_eq_true]

theorem owes_iff :
    owes t db = true
      ↔ ∃ (i : ℕ) (inv : SaasInvoice), db.invoices[i]? = some inv ∧ inv.tenantId = t
        ∧ owing inv = true := by
  simp [owes, Table.existsRow_iff]

theorem lockedFor_congr {db' : Db} (reason : String) (h : db'.tenants[t]? = db.tenants[t]?) :
    lockedFor reason t db' = lockedFor reason t db := by
  simp only [lockedFor, h]

/-! ## What the stages leave owing -/

/-- What is owed stays owed, by the same tenant. -/
def KeepsOwing (db db' : Db) : Prop :=
  ∀ (i : ℕ) inv, db.invoices[i]? = some inv → owing inv = true →
    ∃ inv', db'.invoices[i]? = some inv' ∧ inv'.tenantId = inv.tenantId ∧ owing inv' = true

namespace KeepsOwing

theorem of_eq {db db' : Db} (h : db'.invoices = db.invoices) : KeepsOwing db db' := by
  intro i inv hinv howing
  exact ⟨inv, by rw [h, hinv], rfl, howing⟩

theorem refl (db : Db) : KeepsOwing db db := of_eq rfl

theorem trans {db db' db'' : Db} (h : KeepsOwing db db') (h' : KeepsOwing db' db'') :
    KeepsOwing db db'' := by
  intro i inv hinv howing
  obtain ⟨inv', hinv', ht, howing'⟩ := h i inv hinv howing
  obtain ⟨inv'', hinv'', ht', howing''⟩ := h' i inv' hinv' howing'
  exact ⟨inv'', hinv'', ht'.trans ht, howing''⟩

theorem owes {db db' : Db} (h : KeepsOwing db db') (howes : owes t db = true) :
    owes t db' = true := by
  obtain ⟨i, inv, hinv, ht, howing⟩ := owes_iff.1 howes
  obtain ⟨inv', hinv', ht', howing'⟩ := h i inv hinv howing
  exact owes_iff.2 ⟨i, inv', hinv', ht'.trans ht, howing'⟩

end KeepsOwing

theorem keepsOwing_advanceDunning (graceDays : ℤ) (s : ℕ) (db : Db) :
    KeepsOwing db (advanceDunning cfg now graceDays s db).2 := by
  rcases advanceDunning_cases cfg now graceDays s db with
    ⟨h, -⟩ | ⟨sub, -, ⟨-, h | h⟩ | ⟨-, h⟩⟩ <;> rw [h]
  · exact .refl db
  · -- open invoices become past due
    intro i inv hinv howing
    refine ⟨_, by rw [enterPastDue, Table.getElem?_updateWhere, hinv, Option.map_some], ?_, ?_⟩
    · split <;> rfl
    split
    · simp [owing]
    · exact howing
  · exact .of_eq rfl
  · exact .of_eq rfl

theorem keepsOwing_runDunningPass (graceDays : ℤ) (db : Db) :
    KeepsOwing db (runDunningPass cfg now graceDays db).2 := by
  unfold runDunningPass
  refine foldl_invariant (I := fun acc : DunningAcc => KeepsOwing db acc.db) ?_ _ (.refl db)
  intro acc k h
  refine h.trans ?_
  rcases dunInvoice_cases cfg now 0 graceDays acc k with
    ⟨heq, -⟩ | ⟨inv, s, sub, -, -, -, -, -, heq⟩ <;> rw [heq]
  · exact .refl _
  unfold dunSubscription
  split
  · exact .refl _
  split
  · exact keepsOwing_advanceDunning _ _ _
  · exact .refl _

theorem keepsOwing_createInvoiceForSubscription (s : ℕ) (dueDays : ℤ) (start : Option Time)
    (db : Db) : KeepsOwing db (createInvoiceForSubscription now s dueDays start db).2 := by
  rcases createInvoiceForSubscription_cases now s dueDays start db with h | ⟨new, -, h⟩ <;> rw [h]
  · exact .refl db
  intro i inv hinv howing
  have hlt := lt_length hinv
  refine ⟨inv, ?_, rfl, howing⟩
  rw [Table.getElem?_insert, if_neg (by rw [Table.nextId]; omega), hinv]

theorem keepsOwing_catchUp (s periods : ℕ) (created : List ℕ) (db : Db) :
    KeepsOwing db (catchUp now s periods created db).2 := by
  induction periods generalizing created db with
  | zero => exact .refl db
  | succ periods ih =>
    unfold catchUp
    split
    · exact .refl db
    split
    · exact .refl db
    rename_i nia _ _
    have hissue : KeepsOwing db (createInvoiceForSubscription now s 14 (some nia) db).2 :=
      keepsOwing_createInvoiceForSubscription s 14 (some nia) db
    have hdates : ∀ db : Db, KeepsOwing db { db with
        subscriptions := db.subscriptions.modify s (advanceNextInvoiceAt nia) } :=
      fun _ => .of_eq rfl
    exact hissue.trans ((hdates _).trans (ih _ _))

theorem keepsOwing_generateDueInvoices (db : Db) :
    KeepsOwing db (generateDueInvoices now db).2 := by
  unfold generateDueInvoices
  refine foldl_invariant (I := fun acc : List ℕ × Db => KeepsOwing db acc.2) ?_ _ (.refl db)
  intro acc s h
  split
  · exact h
  split
  · exact h.trans (keepsOwing_catchUp _ _ _ _)
  · exact h

/-- **No stage of the worker pays an invoice.** -/
theorem keepsOwing_runStage (stage : Stage) (db : Db) :
    KeepsOwing db (runStage cfg now stage db) := by
  rw [runStage_eq]
  cases stage with
  | trial => exact .of_eq ((effect_runTrialPass db).same_invoices (by simp))
  | generateDue => exact keepsOwing_generateDueInvoices db
  | unsubscribed => exact .of_eq ((effect_runUnsubscribedPass _ db).same_invoices (by simp))
  | courtesyExpiry =>
    simp only
    split
    · exact .of_eq ((effect_runCourtesyUnlockExpiryPass db).same_invoices (by simp))
    · exact .refl db
  | dunning => exact keepsOwing_runDunningPass _ db
  | wipes => exact .of_eq ((effect_dispatchDueWipes _ db).same_invoices (by simp))

/-! ## Payments of a locked tenant -/

/-- A payment either lifts the tenant's dunning lock or leaves it in place, with
something still owing. -/
theorem PaysOnce.dunningLock {db db' : Db} (h : PaysOnce cfg now db db')
    (hlocked : lockedFor "billing_dunning" t db = true) (howes : owes t db = true) :
    statusOf db' t = some .active
      ∨ (lockedFor "billing_dunning" t db' = true ∧ owes t db' = true) := by
  rcases h with rfl | ⟨payment, inv, ha, hrec⟩
  · exact Or.inr ⟨hlocked, howes⟩
  obtain ⟨-, hinvoices, htenants, -⟩ := recordPayment_spec ha.row ha.positive hrec
  by_cases hlift : liftedBy t payment inv db
  · -- the tenant is let in
    obtain ⟨tenant, htenant, -⟩ := lockedFor_iff.1 hlocked
    refine Or.inl (statusOf_eq_some.2 ⟨lift tenant, ?_, rfl⟩)
    rw [htenants, paidTenants_of_lifted hlift, htenant, Option.map_some]
  refine Or.inr ⟨?_, ?_⟩
  · have hrow : db'.tenants[t]? = db.tenants[t]? := by
      rw [htenants, paidTenants_of_not_lifted hlift]
    rw [lockedFor_congr _ hrow, hlocked]
  -- an invoice other than the paid one is as it was
  have hother : ∀ (k : ℕ) (row : SaasInvoice), k ≠ payment.invoiceId →
      db.invoices[k]? = some row → row.tenantId = t → owing row = true →
      owes t db' = true := by
    intro k row hk hrow ht howing
    refine owes_iff.2 ⟨k, row, ?_, ht, howing⟩
    rw [hinvoices, List.getElem?_modify, hrow]
    simp [Ne.symm hk]
  obtain ⟨i, row, hrow, ht, howing⟩ := owes_iff.1 howes
  by_cases hi : i = payment.invoiceId
  · subst hi
    rw [ha.row] at hrow
    cases hrow
    by_cases hfull : inv.amountMinor ≤ inv.amountPaidMinor + payment.amountMinor
    · -- paid in full and not lifted: another invoice of the tenant is owing
      have hnot : liftsSuspension db payment.invoiceId t = false := by
        rw [← Bool.not_eq_true]
        exact fun hlifts => hlift ⟨ht, hfull, hlifts⟩
      have hlocked' := hlocked
      simp only [lockedFor] at hlocked'
      rw [liftsSuspension, hlocked', Bool.true_and, Bool.not_eq_false'] at hnot
      simp only [existsOther, List.any_eq_true, Table.mem_select, Bool.decide_and,
        Bool.and_eq_true, decide_eq_true_eq, Bool.decide_eq_true] at hnot
      obtain ⟨k, ⟨row, hrow, ht', howing'⟩, hk⟩ := hnot
      exact hother k row hk hrow ht' howing'
    refine owes_iff.2 ⟨payment.invoiceId, credited now payment.amountMinor inv, ?_, ?_, ?_⟩
    · rw [hinvoices, List.getElem?_modify, ha.row]
      simp
    · rw [credited_tenantId, ht]
    · simp [credited, hfull, owing]
  · exact hother i row hi hrow ht howing

/-- A payment leaves a tenant locked for another reason alone. -/
theorem PaysOnce.otherLock {db db' : Db} (h : PaysOnce cfg now db db')
    (hnot : lockedFor "billing_dunning" t db = false) :
    db'.tenants[t]? = db.tenants[t]? := by
  rcases h with rfl | ⟨payment, inv, ha, hrec⟩
  · rfl
  obtain ⟨-, -, htenants, -⟩ := recordPayment_spec ha.row ha.positive hrec
  rw [htenants]
  refine paidTenants_of_not_lifted fun hlift => ?_
  obtain ⟨-, -, hlifts⟩ := hlift
  rw [liftsSuspension, ← lockedFor, hnot] at hlifts
  cases hlifts

/-! ## Runs of the worker and of payments -/

/-- The worker's stages and the payments of both endpoints. -/
def Event.billing : Event → Bool
  | .stage _ _ | .staff _ _ (.payInvoice _ _) | .service _ _ (.settleTenantInvoice _ _ _) => true
  | _ => false

/-- The stage restricts or suspends the tenant. -/
def locksAnew (cfg : Settings) (t : ℕ) (db : Db) : Event → Bool
  | .stage now .trial => trialDue now t db && statusOf db t = some .active
  | .stage now stage => stageSuspends cfg now stage t db
  | _ => false

/-- A billing event is a stage or a payment. -/
theorem billing_cases (cfg : Settings) {e : Event} (h : e.billing = true) (db : Db) :
    (∃ now stage, e = .stage now stage)
      ∨ ∃ now, PaysOnce cfg now db (step cfg e db) := by
  cases e with
  | stage now stage => exact Or.inl ⟨now, stage, rfl⟩
  | staff now staff call =>
    cases call with
    | payInvoice i body =>
      refine Or.inr ⟨now, ?_⟩
      simp only [step, respond]
      split
      · exact payInvoice_cases staff i body db
      · exact Or.inl rfl
    | _ => cases h
  | service now svc call =>
    cases call with
    | settleTenantInvoice tenantRef i body =>
      exact Or.inr ⟨now, settleTenantInvoice_cases tenantRef i body svc db⟩
    | _ => cases h
  | advanceDunning now graceDays s => cases h
  | catalogue plans flags => cases h

/-- What a stage that does not lock the tenant anew may still do to it: clear an unlock
that has ended, once nothing is owing. -/
theorem stage_of_not_locksAnew (stage : Stage) {tenant : Tenant}
    (htenant : db.tenants[t]? = some tenant)
    (hfree : locksAnew cfg t db (.stage now stage) = false) :
    (runStage cfg now stage db).tenants[t]? = some tenant
      ∨ (owes t db = false
        ∧ (runStage cfg now stage db).tenants[t]? = some (clearCourtesyUnlock tenant)) := by
  have hrow : (runStage cfg now stage db).tenants[t]?
      = some (stageEffect cfg now stage t db tenant) := by
    rw [runStage_tenant, htenant, Option.map_some]
  rw [hrow]
  cases stage with
  | trial =>
    refine Or.inl ?_
    simp only [stageEffect]
    split
    · rename_i hdue
      simp only [locksAnew, hdue, statusOf, htenant, Option.map_some, Option.some.injEq,
        Bool.true_and, decide_eq_false_iff_not] at hfree
      simp [restrictIfActive, hfree]
    · rfl
  | generateDue => exact Or.inl rfl
  | unsubscribed =>
    simp only [locksAnew, stageSuspends] at hfree
    exact Or.inl (by simp [stageEffect, hfree])
  | courtesyExpiry =>
    simp only [locksAnew, stageSuspends] at hfree
    by_cases hcleared : unlockCleared now t db = true
    · refine Or.inr ⟨?_, by simp [stageEffect, hfree, hcleared]⟩
      simp only [unlockCleared, tenantBillingResolved, Bool.and_eq_true,
        Bool.not_eq_true'] at hcleared
      simpa [owes] using hcleared.1.2.2
    · exact Or.inl (by simp [stageEffect, hfree, hcleared])
  | dunning =>
    simp only [locksAnew, stageSuspends] at hfree
    exact Or.inl (by simp [stageEffect, hfree])
  | wipes => exact Or.inl rfl

/-- The tenant is in, or locked by dunning with something owing. -/
def Payable (t : ℕ) (db : Db) : Prop :=
  statusOf db t = some .active ∨ (lockedFor "billing_dunning" t db = true ∧ owes t db = true)

/-- Billing events that do not lock the tenant anew keep it payable. -/
theorem payable_step {e : Event} (h : Payable t db)
    (he : e.billing = true ∧ locksAnew cfg t db e = false) : Payable t (step cfg e db) := by
  obtain ⟨hbilling, hfree⟩ := he
  rcases billing_cases cfg hbilling db with ⟨now, stage, rfl⟩ | ⟨now, hpays⟩
  · rcases h with hactive | ⟨hlocked, howes⟩
    · obtain ⟨tenant, htenant, hstatus⟩ := statusOf_eq_some.1 hactive
      refine Or.inl (statusOf_eq_some.2 ?_)
      rcases stage_of_not_locksAnew stage htenant hfree with hrow | ⟨-, hrow⟩
      · exact ⟨tenant, hrow, hstatus⟩
      · exact ⟨clearCourtesyUnlock tenant, hrow, hstatus⟩
    obtain ⟨tenant, htenant, hstatus, hreason⟩ := lockedFor_iff.1 hlocked
    refine Or.inr ⟨?_, (keepsOwing_runStage stage db).owes howes⟩
    rcases stage_of_not_locksAnew stage htenant hfree with hrow | ⟨hnone, -⟩
    · exact lockedFor_iff.2 ⟨tenant, hrow, hstatus, hreason⟩
    · rw [howes] at hnone; cases hnone
  rcases h with hactive | ⟨hlocked, howes⟩
  · have hne : statusOf db t ≠ some .suspended := by rw [hactive]; decide
    exact Or.inl ((statusOf_congr (hpays.tenant_of_not_suspended hne)).trans hactive)
  · exact hpays.dunningLock hlocked howes

def LockedOtherwise (t : ℕ) (db : Db) : Prop :=
  ∃ tenant, db.tenants[t]? = some tenant ∧ tenant.status = .suspended
    ∧ tenant.statusReason ≠ "billing_dunning"

/-- Billing events that do not lock the tenant anew keep any other lock. -/
theorem lockedOtherwise_step {e : Event} (h : LockedOtherwise t db)
    (he : e.billing = true ∧ locksAnew cfg t db e = false) :
    LockedOtherwise t (step cfg e db) := by
  obtain ⟨hbilling, hfree⟩ := he
  obtain ⟨tenant, htenant, hstatus, hreason⟩ := h
  rcases billing_cases cfg hbilling db with ⟨now, stage, rfl⟩ | ⟨now, hpays⟩
  · rcases stage_of_not_locksAnew stage htenant hfree with hrow | ⟨-, hrow⟩
    · exact ⟨tenant, hrow, hstatus, hreason⟩
    refine ⟨clearCourtesyUnlock tenant, hrow, hstatus, ?_⟩
    simp only [clearCourtesyUnlock]
    split
    · decide
    · exact hreason
  have hnot : lockedFor "billing_dunning" t db = false := by
    simp [lockedFor, htenant, hreason]
  exact ⟨tenant, (hpays.otherLock hnot).trans htenant, hstatus, hreason⟩

/-- **Having paid everything lifts a billing lock exactly when it is a dunning lock of a
tenant that owes**, in every run of the worker and of payments that reaches a state with
nothing owing and does not lock the tenant anew. -/
theorem paid_up_iff (cfg : Settings) (t : ℕ) (db : Db) (es : List Event)
    (hbilling : ∀ e ∈ es, e.billing = true) (hlocked : billingLocked t db = true)
    (hfree : Along (step cfg) (fun db e => locksAnew cfg t db e = false) db es)
    (hpaid : ∃ pre, pre <+: es ∧ owes t (run (step cfg) db pre) = false) :
    (∀ pre, pre <+: es → owes t (run (step cfg) db pre) = false →
        statusOf (run (step cfg) db pre) t = some .active)
      ↔ lockedFor "billing_dunning" t db = true ∧ owes t db = true := by
  have hguard := (along_of_forall hbilling).and hfree
  have hsuspended : ∃ tenant, db.tenants[t]? = some tenant ∧ tenant.status = .suspended := by
    simp only [billingLocked, List.any_eq_true] at hlocked
    obtain ⟨reason, -, hlocked⟩ := hlocked
    obtain ⟨tenant, htenant, hstatus, -⟩ := lockedFor_iff.1 hlocked
    exact ⟨tenant, htenant, hstatus⟩
  obtain ⟨tenant, htenant, hstatus⟩ := hsuspended
  constructor
  · intro hall
    refine ⟨?_, ?_⟩
    · by_contra hnot
      have hother : LockedOtherwise t db := by
        refine ⟨tenant, htenant, hstatus, fun hreason => hnot ?_⟩
        exact lockedFor_iff.2 ⟨tenant, htenant, hstatus, hreason⟩
      obtain ⟨pre, hpre, hnone⟩ := hpaid
      obtain ⟨row, hrow, hsusp, -⟩ :=
        along_invariant_throughout (fun _ _ h he => lockedOtherwise_step h he) hother hguard hpre
      obtain ⟨row', hrow', hactive⟩ := statusOf_eq_some.1 (hall pre hpre hnone)
      rw [hrow] at hrow'
      cases hrow'
      rw [hsusp] at hactive
      cases hactive
    by_contra hnone
    rw [Bool.not_eq_true] at hnone
    have hactive := hall [] List.nil_prefix hnone
    rw [run_nil, statusOf, htenant, Option.map_some, hstatus] at hactive
    cases hactive
  intro h pre hpre hnone
  have hpayable : Payable t (run (step cfg) db pre) :=
    along_invariant_throughout (fun _ _ h he => payable_step h he) (Or.inr h) hguard hpre
  rcases hpayable with hactive | ⟨-, howes⟩
  · exact hactive
  · rw [hnone] at howes; cases howes

/-- The example school pays its one invoice on day 22, after the worker's passes. -/
def Example.payment : List Event :=
  [.staff (day 22) operator (.payInvoice 0 { amountMinor := 500000 })]

/-- The equivalence at the example school, suspended by the passes of days 20 and 21. -/
theorem paid_up_iff_example :
    (∀ pre, pre <+: Example.payment →
        owes 0 (run (step Example.settings) Example.suspended pre) = false →
        statusOf (run (step Example.settings) Example.suspended pre) 0 = some .active)
      ↔ lockedFor "billing_dunning" 0 Example.suspended = true
        ∧ owes 0 Example.suspended = true :=
  paid_up_iff Example.settings 0 Example.suspended Example.payment (by decide)
    (by decide) (by decide)
    ⟨Example.payment, List.prefix_refl _, by decide⟩

/-- Paying everything does not lift every billing lock: the school suspended by the
unsubscribed pass pays its only invoice in full and stays suspended. -/
theorem not_paid_up_active :
    ¬ ∀ (cfg : Settings) (t : ℕ) (db : Db) (es : List Event), Reach cfg db →
      (∀ e ∈ es, e.billing = true) → billingLocked t db = true → owes t db = true →
      owes t (run (step cfg) db es) = false →
      statusOf (run (step cfg) db es) t = some .active := by
  intro h
  have hactive := h Example.settings 0 Example.suspended Example.payment
    ⟨Example.suspendedRun, rfl⟩ (by decide) (by decide) (by decide)
    (by decide)
  revert hactive
  decide

end MultiAcademy.Control
