import MultiAcademy.Control.OutboxRows
import MultiAcademy.Control.StageEffects

/-!
# What every event does

The simulation of the program by the abstract books of `Control/Books.lean`, and what it
queues: whatever event the control plane handles, its books make a sequence of moves, its
outbox continues (`step_effect`), and the tables that it may not write are left alone.  So the
books are in order in every reachable state (`Reach.books`).

The two payment endpoints are inverted first (`payInvoice_cases`,
`settleTenantInvoice_cases`): a call changes nothing, or it records one accepted
payment.
-/

namespace MultiAcademy.Control

open MultiAcademy.Lib

/-! ## Effects -/

/-- Tables whose writers are told apart: dual control and billing ask about them. -/
inductive Area
  | tenants | invoices | jobs | providers
  deriving DecidableEq

/-- Those tables, but for the ones of `areas`. -/
def Db.outside (areas : List Area) (db : Db) :
    Table Tenant × Table SaasInvoice × Table TenantOffboardJob × Table ProviderConfig
      × Table ProviderFailoverPolicy :=
  (bif areas.elem .tenants then [] else db.tenants,
    bif areas.elem .invoices then [] else db.invoices,
    bif areas.elem .jobs then [] else db.offboardJobs,
    bif areas.elem .providers then [] else db.providerConfigs,
    bif areas.elem .providers then [] else db.failoverPolicies)

/-- What a handler does that writes such tables of `areas`: moves of the books, and what every
event keeps. -/
structure Effect (areas : List Area) (db db' : Db) : Prop extends Continues db db' where
  moves : Moves db db'
  outside : db'.outside areas = db.outside areas

variable {cfg : Settings} {now : Time} {areas : List Area}

namespace Effect
variable {db db' db'' : Db} {t : ℕ} {x : String} {rest : List (String × Json)}

theorem refl (db : Db) : Effect areas db db := ⟨.refl db, .refl, rfl⟩

theorem trans (h : Effect areas db db') (h' : Effect areas db' db'') : Effect areas db db'' :=
  ⟨h.toContinues.trans h'.toContinues, h.moves.trans h'.moves, h'.outside.trans h.outside⟩

theorem mono {areas' : List Area} (hsub : areas ⊆ areas') (h : Effect areas db db') :
    Effect areas' db db' := by
  have hmore {α : Type} {x y : List α} (a : Area)
      (heq : (bif areas.elem a then [] else x) = bif areas.elem a then [] else y) :
      (bif areas'.elem a then [] else x) = bif areas'.elem a then [] else y := by
    by_cases ha : a ∈ areas'
    · simp [ha]
    have ha' : a ∉ areas := fun hmem => ha (hsub hmem)
    simpa [ha, ha'] using heq
  refine ⟨h.toContinues, h.moves, ?_⟩
  have houtside := h.outside
  simp only [Db.outside, Prod.mk.injEq] at houtside ⊢
  exact ⟨hmore _ houtside.1, hmore _ houtside.2.1, hmore _ houtside.2.2.1,
    hmore _ houtside.2.2.2.1, hmore _ houtside.2.2.2.2⟩

theorem same_tenants (h : Effect areas db db') (hnot : .tenants ∉ areas) :
    db'.tenants = db.tenants := by
  have houtside := congrArg Prod.fst h.outside
  simpa only [Db.outside, List.elem_eq_mem, hnot, decide_false, cond_false] using houtside

theorem same_invoices (h : Effect areas db db') (hnot : .invoices ∉ areas) :
    db'.invoices = db.invoices := by
  have houtside := congrArg (·.2.1) h.outside
  simpa only [Db.outside, List.elem_eq_mem, hnot, decide_false, cond_false] using houtside

theorem same_jobs (h : Effect areas db db') (hnot : .jobs ∉ areas) :
    db'.offboardJobs = db.offboardJobs := by
  have houtside := congrArg (·.2.2.1) h.outside
  simpa only [Db.outside, List.elem_eq_mem, hnot, decide_false, cond_false] using houtside

theorem kept (ids : KeepsIds db.tenants db'.tenants)
    (subs : SubsKept db.subscriptions db'.subscriptions)
    (trials : OneTrial db.trials → OneTrial db'.trials)
    (money : (db'.invoices, db'.payments, db'.outbox) = (db.invoices, db.payments, db.outbox))
    (outside : db'.outside areas = db.outside areas) : Effect areas db db' := by
  simp only [Prod.mk.injEq] at money
  exact ⟨⟨ids, ⟨[], by simp [money.2.2], by simp⟩, trials⟩,
    .quiet ⟨money.1, money.2.1, ids.length_le, subs⟩, outside⟩

theorem aside (h : (db'.tenants, db'.subscriptions, db'.trials, db'.invoices, db'.payments,
    db'.outbox) = (db.tenants, db.subscriptions, db.trials, db.invoices, db.payments, db.outbox))
    (outside : db'.outside areas = db.outside areas) : Effect areas db db' := by
  simp only [Prod.mk.injEq] at h
  obtain ⟨ht, hs, htr, hi, hp, ho⟩ := h
  exact .kept (ht ▸ .refl _) (hs ▸ .refl _) (htr ▸ id) (by rw [hi, hp, ho]) outside

theorem tenants (ids : KeepsIds db.tenants db'.tenants)
    (h : (db'.subscriptions, db'.trials, db'.invoices, db'.payments, db'.outbox)
      = (db.subscriptions, db.trials, db.invoices, db.payments, db.outbox))
    (outside : db'.outside areas = db.outside areas) : Effect areas db db' := by
  simp only [Prod.mk.injEq] at h
  obtain ⟨hs, htr, hi, hp, ho⟩ := h
  exact .kept ids (hs ▸ .refl _) (htr ▸ id) (by rw [hi, hp, ho]) outside

theorem sub {f : Subscription → Subscription} (hf : Keeps f) (s : ℕ) :
    Effect areas db { db with subscriptions := db.subscriptions.modify s f } :=
  .kept (.refl _) (.modify hf s) id rfl rfl

theorem book (h : Move db db')
    (hrest : (db'.tenants, db'.trials, db'.outbox) = (db.tenants, db.trials, db.outbox))
    (outside : db'.outside areas = db.outside areas) : Effect areas db db' := by
  simp only [Prod.mk.injEq] at hrest
  exact ⟨⟨hrest.1 ▸ .refl _, ⟨[], by simp [hrest.2.2], by simp⟩, hrest.2.1 ▸ id⟩, .single h, outside⟩

theorem enqueue (h : Effect areas db db') {e a i : String} {payload : List (String × Json)}
    (hrow : Queued db' (outboxRow cfg now e a i payload)) :
    Effect areas db (enqueueOutbox cfg now e a i payload db') :=
  h.trans ⟨⟨.refl _, ⟨[_], rfl, fun _ hmem => List.mem_singleton.1 hmem ▸ hrow⟩, id⟩,
    .quiet ⟨rfl, rfl, le_rfl, .refl _⟩, rfl⟩

theorem bumpFrom (h : Effect areas db db') (version : ℕ) :
    Effect areas db (bumpFrom cfg now version db') :=
  have hnext : Effect areas db' { db' with configVersion := version + 1 } := .aside rfl rfl
  (h.trans hnext).enqueue (.inl ⟨rfl, version + 1, rfl⟩)

theorem bump (h : Effect areas db db') : Effect areas db (bumpConfigVersion cfg now db') :=
  h.bumpFrom _

theorem named (h : Effect areas db db') {eventType : String}
    (htype : eventType ∈ ["tenant.trial.started", "trial.notification", "billing.notification",
      "config.invalidate"])
    (hx : externalIdOf db t = some x) (hplain : plainPayload rest = true) :
    Effect areas db
      (enqueueOutbox cfg now eventType "tenant" x (("tenantId", .text x) :: rest) db') :=
  h.enqueue (.inr ⟨t, x, h.ids t x hx, .named rest htype rfl rfl rfl hplain⟩)

theorem billing (h : Effect areas db db') {reason : String}
    (hreason : reason ∈ billingEventReasons) (hx : externalIdOf db t = some x)
    (hplain : plainPayload rest = true) :
    Effect areas db (enqueueOutbox cfg now "config.invalidate" "tenant" (toString (publicId t))
      (("reason", .text reason) :: rest) db') :=
  h.enqueue (.inr ⟨t, x, h.ids t x hx, .billing reason rest rfl rfl rfl hreason rfl hplain⟩)

theorem offboarding (h : Effect areas db db') {eventType : String}
    (htype : eventType ∈ ["tenant.offboard.export_requested", "tenant.offboard.cancelled",
      "tenant.offboard.wipe_requested"])
    (hx : externalIdOf db t = some x) (hplain : plainPayload rest = true) :
    Effect areas db (enqueueOutbox cfg now eventType "tenant" (toString (publicId t))
      (("tenantId", .number (publicId t)) :: rest) db') :=
  h.enqueue (.inr ⟨t, x, h.ids t x hx, .offboarding rest htype rfl rfl rfl hplain⟩)

end Effect

/-- What a loop over some ids does whose steps do it. -/
theorem effect_foldl {σ : Type} (proj : σ → Db) {step : σ → ℕ → σ} (ids : List ℕ) (s₀ : σ)
    (hstep : ∀ s, Effect areas (proj s₀) (proj s) → ∀ k ∈ ids,
      Effect areas (proj s) (proj (step s k))) :
    Effect areas (proj s₀) (proj (ids.foldl step s₀)) := by
  have hrest : ∀ rest : List ℕ, (∀ k ∈ rest, k ∈ ids) → ∀ s, Effect areas (proj s₀) (proj s) →
      Effect areas (proj s₀) (proj (rest.foldl step s)) := by
    intro rest
    induction rest with
    | nil => exact fun _ s h => h
    | cons k rest ih =>
      intro hmem s h
      exact ih (fun k' hk' => hmem k' (List.mem_cons_of_mem _ hk')) _
        (h.trans (hstep s h k (hmem k List.mem_cons_self)))
  exact hrest ids (fun _ h => h) s₀ (.refl _)

/-! ## Row rewritings -/

theorem keeps_cancelAtTrialEnd (now : Time) : Keeps (cancelAtTrialEnd now) := fun _ => ⟨rfl, id⟩
theorem keeps_cancelBlacklisted : Keeps cancelBlacklisted := fun _ => ⟨rfl, id⟩
theorem keeps_reactivate : Keeps reactivate := fun _ => ⟨rfl, id⟩
theorem keeps_advanceNextInvoiceAt (at_ : Time) : Keeps (advanceNextInvoiceAt at_) :=
  fun _ => ⟨rfl, id⟩

theorem keeps_afterInvoice (db : Db) (now : Time) : Keeps (afterInvoice db now) := by
  intro sub
  simp only [afterInvoice, setNextInvoiceAt]
  split <;> split <;> exact ⟨rfl, id⟩

theorem keeps_retire : Keeps fun sub => { sub with isCurrent := false } :=
  fun _ => ⟨rfl, fun h => absurd h (by simp)⟩

/-! ## The worker -/

theorem effect_initializeTrialOnce {db : Db} {t : ℕ} {x : String}
    (hx : externalIdOf db t = some x) : Effect areas db (initializeTrialOnce cfg now t db) := by
  simp only [initializeTrialOnce]
  split
  · exact .refl db
  rename_i hnew
  rw [show (db.tenants[t]?).map (·.externalId) = some x from hx]
  refine Effect.named ?_ (by simp) hx (by simp [plainPayload])
  exact .kept (.refl _) (.refl _) (OneTrial.insert (by simpa using hnew)) rfl rfl

theorem effect_expireTrial {k : ℕ} {trial : TenantTrial} {tenant : Tenant} {db : Db}
    (htenant : db.tenants[trial.tenantId]? = some tenant) :
    Effect [.tenants] db (expireTrial cfg now k trial tenant db) := by
  have hx := externalIdOf_of_row htenant
  unfold expireTrial
  extract_lets expired restricted
  have hsubs : SubsKept db.subscriptions expired.subscriptions := by
    dsimp only [expired]
    split
    · exact .modify (keeps_cancelAtTrialEnd now) _
    · exact .refl _
  have hexpired : Effect [.tenants] db expired :=
    .kept (.refl _) hsubs (OneTrial.modify (by intro _; rfl) k) rfl rfl
  have hrestricted : Effect [.tenants] db restricted := by
    refine hexpired.trans ?_
    dsimp only [restricted]
    split
    · exact .bump (.tenants (.modify (by intro _; rfl) _ _) rfl rfl)
    · exact .refl _
  exact (hrestricted.named (by simp) hx (by simp [plainPayload])).named (by simp) hx
    (by simp [plainPayload])

theorem effect_sendReminder {k : ℕ} {days : ℤ} {trial : TenantTrial} {tenant : Tenant}
    {stamp : TenantTrial → TenantTrial} (hstamp : ∀ r, (stamp r).tenantId = r.tenantId)
    {acc : TrialCounts × Db} {t : ℕ} (hx : externalIdOf acc.2 t = some tenant.externalId) :
    Effect areas acc.2 (sendReminder cfg now days k trial tenant stamp acc).2 := by
  refine Effect.named ?_ (by simp) hx (by simp [plainPayload])
  exact .kept (.refl _) (.refl _) (OneTrial.modify hstamp k) rfl rfl

theorem effect_sendReminders {k : ℕ} {trial : TenantTrial} {tenant : Tenant}
    {acc : TrialCounts × Db} {t : ℕ} (hx : externalIdOf acc.2 t = some tenant.externalId) :
    Effect areas acc.2 (sendReminders cfg now k trial tenant acc).2 := by
  unfold sendReminders
  extract_lets first
  have hfirst : Effect areas acc.2 first.2 := by
    dsimp only [first]
    split
    · exact effect_sendReminder (by intro _; rfl) hx
    · exact .refl _
  split
  · exact hfirst.trans (effect_sendReminder (by intro _; rfl) (hfirst.ids _ _ hx))
  · exact hfirst

theorem effect_runTrialPass (db : Db) : Effect [.tenants] db (runTrialPass cfg now db).2 := by
  refine effect_foldl (fun acc : TrialCounts × Db => acc.2) _ ({}, db) fun acc _ k _ => ?_
  simp only [trialStep]
  split
  · exact .refl _
  split
  · exact .refl _
  rename_i htenant
  split
  · exact effect_expireTrial htenant
  · exact effect_sendReminders (externalIdOf_of_row htenant)

theorem effect_runUnsubscribedPass (graceDays : ℤ) (db : Db) :
    Effect [.tenants] db (runUnsubscribedPass cfg now graceDays db).2 := by
  refine effect_foldl (fun acc : ℕ × Db => acc.2) _ (0, db) fun acc hacc k hk => ?_
  obtain ⟨x, hx⟩ := externalIdOf_of_mem_select hk
  have hx' : externalIdOf acc.2 k = some x := hacc.ids k x hx
  simp only [unsubscribedStep]
  split
  · exact .refl _
  rw [show (acc.2.tenants[k]?).map (·.externalId) = some x from hx']
  refine Effect.named (Effect.named ?_ (by simp) hx' (by simp [plainPayload])) (by simp) hx'
    (by simp [plainPayload])
  exact .bump (.tenants (.modify (by intro _; rfl) _ _) rfl rfl)

theorem externalId_expireCourtesyUnlock (tenant : Tenant) :
    (expireCourtesyUnlock tenant).externalId = tenant.externalId := by
  simp only [expireCourtesyUnlock]
  split
  · rfl
  · split <;> rfl

theorem effect_runCourtesyUnlockExpiryPass (db : Db) :
    Effect [.tenants] db (runCourtesyUnlockExpiryPass cfg now db).2 := by
  refine effect_foldl (fun acc : ℕ × Db => acc.2) _ (0, db) fun acc hacc k hk => ?_
  obtain ⟨x, hx⟩ := externalIdOf_of_mem_select hk
  have hx' : externalIdOf acc.2 k = some x := hacc.ids k x hx
  simp only [expireCourtesyUnlockOf]
  split
  · refine Effect.billing (.bump ?_) (by simp [billingEventReasons]) hx' (by simp [plainPayload])
    exact .tenants (.modify (by intro _; rfl) _ _) rfl rfl
  refine Effect.billing (.bump ?_) (by simp [billingEventReasons]) hx' (by simp [plainPayload])
  exact .tenants (.modify externalId_expireCourtesyUnlock _ _) rfl rfl

theorem effect_dispatchDueWipes (limit : ℕ) (db : Db) :
    Effect [.jobs] db (dispatchDueWipes cfg now limit db).2 := by
  refine effect_foldl (fun acc : ℕ × Db => acc.2) _ (0, db) fun acc _ k _ => ?_
  simp only [dispatchWipe]
  split
  · exact .refl _
  split
  · exact .aside rfl rfl
  rename_i htenant
  split
  · exact .aside rfl rfl
  refine Effect.offboarding ?_ (by simp) (externalIdOf_of_row htenant)
    (by simp [plainPayload])
  exact .aside rfl rfl

theorem effect_advanceDunning (graceDays : ℤ) (s : ℕ) (db : Db) :
    Effect [.tenants, .invoices] db (advanceDunning cfg now graceDays s db).2 := by
  simp only [advanceDunning]
  split
  · exact .refl _
  split
  · exact .refl _
  rename_i htenant
  split
  · refine (Effect.sub (f := fun row : Subscription =>
      { row with
        status := .pastDue
        dunningStep := .pastDue
        pastDueAt := some now
        graceUntil := some (now + Time.days graceDays) }) (fun _ => ⟨rfl, id⟩) s).trans ?_
    refine .book ?_ rfl rfl
    convert Move.age (fun inv => inv.subscriptionId = some s) using 1
    simp [enterPastDue, age]
  split
  · exact .sub (by intro _; exact ⟨rfl, id⟩) s
  refine Effect.billing ?_ (by simp [billingEventReasons]) (externalIdOf_of_row htenant)
    (by simp [plainPayload])
  exact .bump (.kept (.modify (by intro _; rfl) _ _) (.modify (by intro _; exact ⟨rfl, id⟩) s) id rfl
    rfl)

theorem effect_runDunningPass (graceDays : ℤ) (db : Db) :
    Effect [.tenants, .invoices] db (runDunningPass cfg now graceDays db).2 := by
  refine effect_foldl (fun acc : DunningAcc => acc.db) _ ⟨[], [], db⟩ fun acc _ k _ => ?_
  rcases dunInvoice_cases cfg now 0 graceDays acc k with
    ⟨heq, -⟩ | ⟨inv, s, sub, -, -, -, -, -, heq⟩ <;> rw [heq]
  · exact .refl _
  simp only [dunSubscription]
  split
  · exact .refl _
  split
  · exact effect_advanceDunning _ _ _
  · exact .refl _

/-! ## Invoices -/

theorem issued_newInvoice {db : Db} {s : ℕ} {sub : Subscription}
    (hsub : db.subscriptions[s]? = some sub) (start : Time) (dueDays : ℤ) :
    Issued db (newInvoice db now s sub start dueDays) :=
  ⟨rfl, rfl, s, sub, rfl, hsub, rfl⟩

/-- What `create_invoice_for_subscription` can do: nothing, or issue one invoice and
move the subscription's dates. -/
theorem createInvoiceForSubscription_cases (now : Time) (s : ℕ) (dueDays : ℤ)
    (start : Option Time) (db : Db) :
    createInvoiceForSubscription now s dueDays start db = (none, db)
    ∨ ∃ inv, Issued db inv ∧ createInvoiceForSubscription now s dueDays start db
      = (some db.invoices.nextId,
        { db with
          invoices := db.invoices.insert inv
          subscriptions := db.subscriptions.modify s (afterInvoice db now) }) := by
  simp only [createInvoiceForSubscription]
  cases hsub : db.subscriptions[s]? with
  | none => exact Or.inl rfl
  | some sub =>
    simp only
    split
    · exact Or.inl rfl
    · exact Or.inr ⟨_, issued_newInvoice hsub _ dueDays, rfl⟩

theorem effect_createInvoiceForSubscription (s : ℕ) (dueDays : ℤ) (start : Option Time)
    (db : Db) : Effect [.invoices] db (createInvoiceForSubscription now s dueDays start db).2 := by
  rcases createInvoiceForSubscription_cases now s dueDays start db with h | ⟨inv, hi, h⟩ <;> rw [h]
  · exact .refl _
  · exact (Effect.book (.issue inv hi) rfl rfl).trans (.sub (keeps_afterInvoice db now) s)

theorem effect_catchUp (s periods : ℕ) (created : List ℕ) (db : Db) :
    Effect [.invoices] db (catchUp now s periods created db).2 := by
  induction periods generalizing created db with
  | zero => exact .refl _
  | succ periods ih =>
    simp only [catchUp]
    split
    · exact .refl _
    split
    · exact .refl _
    exact (effect_createInvoiceForSubscription s 14 _ db).trans
      ((Effect.sub (keeps_advanceNextInvoiceAt _) s).trans (ih _ _))

theorem effect_generateDueInvoices (db : Db) :
    Effect [.invoices] db (generateDueInvoices now db).2 := by
  refine effect_foldl (fun acc : List ℕ × Db => acc.2) _ ([], db) fun acc _ s _ => ?_
  split
  · exact .refl _
  split
  · exact effect_catchUp _ _ _ _
  · exact .refl _

theorem effect_runStage (stage : Stage) (db : Db) :
    Effect [.tenants, .invoices, .jobs] db (runStage cfg now stage db) := by
  rw [runStage_eq]
  cases stage with
  | trial => exact (effect_runTrialPass db).mono (by simp)
  | generateDue => exact (effect_generateDueInvoices db).mono (by simp)
  | unsubscribed => exact (effect_runUnsubscribedPass _ db).mono (by simp)
  | courtesyExpiry =>
    simp only
    split
    · exact (effect_runCourtesyUnlockExpiryPass db).mono (by simp)
    · exact .refl _
  | dunning => exact (effect_runDunningPass _ db).mono (by simp)
  | wipes => exact (effect_dispatchDueWipes _ db).mono (by simp)

/-! ## Payments -/

theorem modify_congr {α : Type} {l : List α} {i : ℕ} {f g : α → α} {a : α} (ha : l[i]? = some a)
    (h : f a = g a) : l.modify i f = l.modify i g := by
  apply List.ext_getElem?
  intro j
  simp only [List.getElem?_modify]
  by_cases hij : i = j
  · subst hij
    simp [ha, h]
  · simp [hij]

section Settle
variable {db : Db} {i : ℕ}

/-- What is said of the other invoices does not depend on this one's row. -/
theorem existsOther_modify (f : SaasInvoice → SaasInvoice) (p : SaasInvoice → Bool) :
    existsOther { db with invoices := db.invoices.modify i f } i p = existsOther db i p := by
  rw [Bool.eq_iff_iff]
  simp only [existsOther, List.any_eq_true, Table.mem_select, decide_eq_true_eq]
  have hne : ∀ k, k ≠ i → (db.invoices.modify i f)[k]? = db.invoices[k]? := by
    intro k hk
    simp [Ne.symm hk]
  constructor
  · rintro ⟨k, ⟨row, hrow, hp⟩, hk⟩
    exact ⟨k, ⟨row, (hne k hk) ▸ hrow, hp⟩, hk⟩
  rintro ⟨k, ⟨row, hrow, hp⟩, hk⟩
  exact ⟨k, ⟨row, (hne k hk).symm ▸ hrow, hp⟩, hk⟩

theorem liftsSuspension_credit (payments : Table SaasPayment) (f : SaasInvoice → SaasInvoice)
    (t : ℕ) :
    liftsSuspension { db with payments, invoices := db.invoices.modify i f } i t
      = liftsSuspension db i t := by
  simp only [liftsSuspension]
  congr 2
  exact @existsOther_modify { db with payments } i f _

end Settle

/-- The tenants after an accepted payment: a payment in full may lift a suspension. -/
def paidTenants (payment : SaasPayment) (inv : SaasInvoice) (db : Db) : Table Tenant :=
  if inv.amountMinor ≤ inv.amountPaidMinor + payment.amountMinor
      ∧ liftsSuspension db payment.invoiceId inv.tenantId = true then
    db.tenants.modify inv.tenantId lift
  else db.tenants

def billingNotice (cfg : Settings) (now : Time) (t : ℕ) (reason : String) (db : Db) : Db :=
  enqueueOutbox cfg now "config.invalidate" "tenant" (toString (publicId t))
    [("reason", .text reason)] (bumpConfigVersion cfg now db)

/-- **What settling an invoice does.** -/
theorem settleInvoice_eq {db : Db} {i : ℕ} {inv : SaasInvoice} (hrow : db.invoices[i]? = some inv) :
    ∃ subs settled, SubsKept db.subscriptions subs
      ∧ settled = { db with
          invoices := db.invoices.modify i (markPaid now)
          subscriptions := subs
          tenants := if liftsSuspension db i inv.tenantId then db.tenants.modify inv.tenantId lift
            else db.tenants }
      ∧ (settleInvoice cfg now i db = settled ∨ ∃ reason ∈ billingEventReasons,
        settleInvoice cfg now i db = billingNotice cfg now inv.tenantId reason settled) := by
  cases hreactivated : reactivatedSubscription db i inv with
  | none =>
    refine ⟨_, _, SubsKept.refl _, rfl, ?_⟩
    simp only [settleInvoice, hrow, hreactivated, Option.isSome_none, Bool.false_eq_true, if_false]
    split
    · exact Or.inr ⟨"invoice_paid", by simp [billingEventReasons], rfl⟩
    · exact Or.inl rfl
  | some s =>
    refine ⟨_, _, SubsKept.modify keeps_reactivate s, rfl, ?_⟩
    simp only [settleInvoice, hrow, hreactivated, Option.isSome_some, if_true]
    exact Or.inr ⟨"subscription_payment", by simp [billingEventReasons], rfl⟩

/-- What an accepted payment leaves, but for its notices. -/
def paidDb (now : Time) (payment : SaasPayment) (inv : SaasInvoice) (subs : Table Subscription)
    (db : Db) : Db :=
  { db with
    payments := db.payments.insert payment
    invoices := db.invoices.modify payment.invoiceId (credited now payment.amountMinor)
    subscriptions := subs
    tenants := paidTenants payment inv db }

/-- **What recording a payment does.** -/
theorem recordPayment_eq {payment : SaasPayment} {inv : SaasInvoice} {db db' : Db}
    (hrow : db.invoices[payment.invoiceId]? = some inv) (hpos : 0 < payment.amountMinor)
    (h : recordPayment cfg now payment db = some db') :
    ∃ subs, SubsKept db.subscriptions subs ∧ (db' = paidDb now payment inv subs db
      ∨ ∃ reason ∈ billingEventReasons,
        db' = billingNotice cfg now inv.tenantId reason (paidDb now payment inv subs db)) := by
  simp only [recordPayment, applyPaymentToInvoice, hrow, if_neg (Int.not_le.2 hpos)] at h
  by_cases hfull : inv.amountMinor ≤ inv.amountPaidMinor + payment.amountMinor
  · rw [if_pos hfull, Option.some.injEq] at h
    -- settlement sees the row with the payment already credited
    let mid : Db := { db with
      payments := db.payments.insert payment
      invoices := db.invoices.modify payment.invoiceId fun row =>
        { row with amountPaidMinor := row.amountPaidMinor + payment.amountMinor } }
    have hcredited : mid.invoices[payment.invoiceId]? = some
        { inv with amountPaidMinor := inv.amountPaidMinor + payment.amountMinor } := by
      simp [mid, hrow]
    have hinvoices : mid.invoices.modify payment.invoiceId (markPaid now)
        = db.invoices.modify payment.invoiceId (credited now payment.amountMinor) := by
      rw [List.modify_modify_eq]
      exact modify_congr hrow (by simp [credited, hfull])
    obtain ⟨subs, settled, hsubs, hsettled, heq⟩ := @settleInvoice_eq cfg now mid _ _ hcredited
    have hpaid : settled = paidDb now payment inv subs db := by
      rw [hsettled, hinvoices]
      simp only [paidDb, paidTenants, hfull, true_and, mid, liftsSuspension_credit]
    rw [hpaid, show settleInvoice cfg now payment.invoiceId mid = db' from h] at heq
    exact ⟨subs, hsubs, heq⟩
  rw [if_neg hfull, Option.some.injEq] at h
  refine ⟨_, SubsKept.refl _, Or.inl ?_⟩
  rw [← h, List.modify_modify_eq, modify_congr (g := credited now payment.amountMinor) hrow]
  · simp [paidDb, paidTenants, hfull]
  · simp [credited, hfull]

theorem recordPayment_spec {payment : SaasPayment} {inv : SaasInvoice} {db db' : Db}
    (hrow : db.invoices[payment.invoiceId]? = some inv) (hpos : 0 < payment.amountMinor)
    (h : recordPayment cfg now payment db = some db') :
    db'.payments = db.payments.insert payment
      ∧ db'.invoices = db.invoices.modify payment.invoiceId (credited now payment.amountMinor)
      ∧ db'.tenants = paidTenants payment inv db
      ∧ SubsKept db.subscriptions db'.subscriptions := by
  obtain ⟨subs, hsubs, rfl | ⟨reason, -, rfl⟩⟩ := recordPayment_eq hrow hpos h <;>
    exact ⟨rfl, rfl, rfl, hsubs⟩

/-- Recording an accepted payment is a credit. -/
theorem effect_recordPayment {payment : SaasPayment} {inv : SaasInvoice} {db db' : Db}
    (hw : WellFormed db) (ha : Accepted db payment inv)
    (h : recordPayment cfg now payment db = some db') :
    Effect [.tenants, .invoices] db db' := by
  obtain ⟨subs, hsubs, heq⟩ := recordPayment_eq ha.row ha.positive h
  obtain ⟨x, hx⟩ := hw.externalIdOf (List.mem_of_getElem? ha.row)
  have hids : KeepsIds db.tenants (paidTenants payment inv db) := by
    simp only [paidTenants]
    split
    · exact .modify (by intro _; rfl) _ _
    · exact .refl _
  have hpaid : Effect [.tenants, .invoices] db (paidDb now payment inv subs db) :=
    (Effect.book (.credit now payment inv ha) rfl rfl).trans (.kept hids hsubs id rfl rfl)
  rcases heq with rfl | ⟨reason, hreason, rfl⟩
  · exact hpaid
  · exact hpaid.bump.billing hreason hx (by simp [plainPayload])

theorem recordPayment_isSome (cfg : Settings) (now : Time) {payment : SaasPayment}
    {inv : SaasInvoice} {db : Db}
    (hrow : db.invoices[payment.invoiceId]? = some inv) (hpos : 0 < payment.amountMinor) :
    ∃ db', recordPayment cfg now payment db = some db' := by
  simp only [recordPayment, applyPaymentToInvoice, hrow, if_neg (Int.not_le.2 hpos)]
  split <;> exact ⟨_, rfl⟩

/-- A payment endpoint either changes nothing or records one accepted payment. -/
def PaysOnce (cfg : Settings) (now : Time) (db db' : Db) : Prop :=
  db' = db ∨ ∃ payment inv, Accepted db payment inv
    ∧ recordPayment cfg now payment db = some db'

theorem reference_fresh {db : Db} {reference : String}
    (h : (db.payments.first? fun payment => payment.providerReference = reference).bind
      (db.payments[·]?) = none) :
    ∀ other ∈ db.payments, other.providerReference ≠ reference := by
  intro other hother heq
  obtain ⟨k, dup, hfirst, hrow, -⟩ := Table.exists_first? hother
    (p := fun payment => payment.providerReference = reference) (decide_eq_true heq)
  rw [hfirst, Option.bind_some, hrow] at h
  cases h

/-- What the operator's endpoint does: refuse, or record a payment that has passed all
its checks. -/
theorem payInvoice_spec (staff : StaffContext) (i : ℕ) (body : SaasPaymentCreate) (db : Db) :
    (payInvoice cfg now staff i body db).db = db
    ∨ ∃ inv, ¬ (inv.status = .void ∨ inv.status = .writtenOff)
      ∧ Accepted db (body.toRow staff i inv) inv
      ∧ recordPayment cfg now (body.toRow staff i inv) db
        = some (payInvoice cfg now staff i body db).db := by
  simp only [payInvoice]
  cases hrow : db.invoices[i]? with
  | none => exact Or.inl rfl
  | some inv =>
    simp only
    split
    · exact Or.inl rfl
    rename_i hstatus
    split
    · exact Or.inl rfl
    rename_i hpos
    split
    · exact Or.inl rfl
    rename_i hle
    split
    · exact Or.inl rfl
    rename_i hfresh
    have ha : Accepted db (body.toRow staff i inv) inv := by
      refine ⟨hrow, Int.not_le.1 hpos, Int.not_lt.1 hle, ?_⟩
      intro hne other hother heq
      refine hfresh ⟨hne, ?_⟩
      simp only [Table.existsRow, List.any_eq_true, decide_eq_true_eq]
      exact ⟨other, hother, heq⟩
    obtain ⟨db', hdb'⟩ := recordPayment_isSome cfg now ha.row ha.positive
    rw [hdb']
    exact Or.inr ⟨inv, hstatus, ha, hdb'⟩

theorem payInvoice_cases (staff : StaffContext) (i : ℕ) (body : SaasPaymentCreate) (db : Db) :
    PaysOnce cfg now db (payInvoice cfg now staff i body db).db := by
  rcases payInvoice_spec staff i body db with h | ⟨inv, -, ha, hrecord⟩
  · exact Or.inl h
  · exact Or.inr ⟨_, inv, ha, hrecord⟩

/-- The tenant behind a reference, with its row. -/
theorem tenantByRef_row {db : Db} {tenantRef : String} {svc : ServiceContext} {t : ℕ}
    {tenant : Tenant} (h : tenantByRef db tenantRef svc = .ok (t, tenant)) :
    db.tenants[t]? = some tenant := by
  simp only [tenantByRef] at h
  split at h
  · cases h
  split at h
  · cases h
  rename_i htenant
  split at h
  · cases h
  cases h
  exact htenant

/-- A call for a tenant reference fails without effect, or is handled for the tenant
behind it. -/
theorem forTenant_cases (db : Db) (tenantRef : String) (svc : ServiceContext)
    (handler : ℕ → Tenant → Outcome) :
    (forTenant db tenantRef svc handler).db = db
    ∨ ∃ tenantId tenant, tenantByRef db tenantRef svc = .ok (tenantId, tenant)
      ∧ db.tenants[tenantId]? = some tenant
      ∧ forTenant db tenantRef svc handler = handler tenantId tenant := by
  simp only [forTenant]
  cases h : tenantByRef db tenantRef svc with
  | error e => exact Or.inl rfl
  | ok found =>
    obtain ⟨tenantId, tenant⟩ := found
    exact Or.inr ⟨tenantId, tenant, rfl, tenantByRef_row h, rfl⟩

variable (tenantRef : String)

/-- What the school's endpoint does: refuse, or record a payment of the tenant's own
invoice that has passed all its checks. -/
theorem settleTenantInvoice_spec (i : ℕ) (body : SettleBody)
    (svc : ServiceContext) (db : Db) :
    (settleTenantInvoice cfg now tenantRef i body svc db).db = db
    ∨ ∃ t tenant inv, tenantByRef db tenantRef svc = .ok (t, tenant) ∧ inv.tenantId = t
      ∧ body.providerReference ≠ "" ∧ Accepted db (body.toRow svc t i inv) inv
      ∧ recordPayment cfg now (body.toRow svc t i inv) db
        = some (settleTenantInvoice cfg now tenantRef i body svc db).db := by
  simp only [settleTenantInvoice]
  rcases forTenant_cases db tenantRef svc _ with h | ⟨t, tenant, htenant, -, h⟩
  · exact Or.inl h
  rw [h]
  cases hrow : db.invoices[i]? with
  | none => exact Or.inl rfl
  | some inv =>
    simp only
    split
    · exact Or.inl rfl
    rename_i hown
    split
    · exact Or.inl rfl
    rename_i hne
    split
    · split <;> exact Or.inl rfl
    rename_i hdup
    split
    · exact Or.inl rfl
    rename_i hamount
    rw [not_or] at hamount
    have ha : Accepted db (body.toRow svc t i inv) inv :=
      ⟨hrow, Int.not_le.1 hamount.1, Int.not_lt.1 hamount.2,
        fun _ => reference_fresh hdup⟩
    obtain ⟨db', hdb'⟩ := recordPayment_isSome cfg now ha.row ha.positive
    rw [hdb']
    exact Or.inr ⟨t, tenant, inv, htenant, not_not.1 hown, hne, ha, hdb'⟩

theorem settleTenantInvoice_cases (i : ℕ) (body : SettleBody)
    (svc : ServiceContext) (db : Db) :
    PaysOnce cfg now db (settleTenantInvoice cfg now tenantRef i body svc db).db := by
  rcases settleTenantInvoice_spec tenantRef i body svc db with
    h | ⟨t, tenant, inv, -, -, -, ha, hrecord⟩
  · exact Or.inl h
  · exact Or.inr ⟨_, inv, ha, hrecord⟩

theorem PaysOnce.effect {db db' : Db} (hw : WellFormed db) (h : PaysOnce cfg now db db') :
    Effect [.tenants, .invoices] db db' := by
  rcases h with rfl | ⟨payment, inv, ha, h⟩
  · exact .refl _
  · exact effect_recordPayment hw ha h

/-! ## Subscriptions -/

/-- After retiring, any subscription of the tenant may become the current one. -/
theorem exclusive_retireCurrent (t s : ℕ) (subs : Table Subscription) :
    Exclusive (retireCurrent t subs) s t := by
  intro s' sub' hsub' hc ht
  rw [retireCurrent, Table.getElem?_updateWhere, Option.map_eq_some_iff] at hsub'
  obtain ⟨old, -, rfl⟩ := hsub'
  split at hc
  · exact absurd hc (by simp)
  rename_i hno
  rw [if_neg hno] at ht
  exact absurd (by simp [isCurrentOf, ht, hc]) hno

theorem subsKept_retireCurrent (t : ℕ) (subs : Table Subscription) :
    SubsKept subs (retireCurrent t subs) := .updateWhere keeps_retire _

theorem effect_replaceCurrent (sub : Subscription) (db : Db)
    (htenant : sub.tenantId < db.tenants.length) :
    Effect areas db { db with
      subscriptions := (retireCurrent sub.tenantId db.subscriptions).insert sub } :=
  have hretired : Effect areas db
      { db with subscriptions := retireCurrent sub.tenantId db.subscriptions } :=
    .kept (.refl _) (subsKept_retireCurrent sub.tenantId _) id rfl rfl
  hretired.trans (.book (.enrol sub htenant fun _ => exclusive_retireCurrent _ _ _) rfl rfl)

theorem WellFormed.exclusive_newTenant {db : Db} (h : WellFormed db) (s : ℕ) :
    Exclusive db.subscriptions s db.tenants.nextId := by
  intro s' sub' hsub' _ ht
  have := h.tenant s' sub' hsub'
  rw [ht, Table.nextId] at this
  omega

/-- A new tenant with its first subscription. -/
theorem effect_newTenant {db : Db} (hw : WellFormed db) (tenant : Tenant) (sub : Subscription)
    (hsub : sub.tenantId = db.tenants.nextId) :
    Effect [.tenants] db { db with
      tenants := db.tenants.insert tenant, subscriptions := db.subscriptions.insert sub } := by
  have hinsert : Effect [.tenants] db { db with tenants := db.tenants.insert tenant } :=
    .tenants (.insert tenant _) rfl rfl
  refine hinsert.trans (.book (.enrol sub ?_ ?_) rfl rfl)
  · show sub.tenantId < (db.tenants.insert tenant).length
    rw [hsub, Table.nextId, Table.length_insert]
    omega
  intro _
  rw [hsub]
  exact hw.exclusive_newTenant _

/-! ## Calls of school servers -/

theorem effect_applyInitializationResult {t : ℕ} {x : String} {db : Db}
    (hx : externalIdOf db t = some x) (jobId : ℕ) (status : JobStatus)
    (schoolDbStatus : SchoolDbStatus) (error : String) :
    Effect [.tenants] db
      (applyInitializationResult cfg now t jobId status schoolDbStatus error db) := by
  unfold applyInitializationResult
  extract_lets recorded
  have hrecorded : Effect [.tenants] db recorded := .aside rfl rfl
  split
  · have hlifted : Effect [.tenants] db { recorded with
        tenants := recorded.tenants.modify t lift } :=
      hrecorded.trans (.tenants (.modify (by intro _; rfl) _ _) rfl rfl)
    exact hlifted.trans (effect_initializeTrialOnce (hlifted.ids t x hx))
  split
  · exact hrecorded.trans (.tenants (.modify (by intro _; rfl) _ _) rfl rfl)
  · exact hrecorded

theorem effect_ensureInstall (t : ℕ) (token deviceHash : String) (db : Db) :
    Effect areas db (ensureInstall cfg t token deviceHash db).2 := by
  simp only [ensureInstall]
  split
  · exact .refl db
  · exact .aside rfl rfl

theorem effect_forTenant {db : Db} {tenantRef : String} {svc : ServiceContext}
    {handler : ℕ → Tenant → Outcome}
    (h : ∀ t tenant, db.tenants[t]? = some tenant → Effect areas db (handler t tenant).db) :
    Effect areas db (forTenant db tenantRef svc handler).db := by
  rcases forTenant_cases db tenantRef svc handler with heq | ⟨t, tenant, -, htenant, heq⟩ <;>
    rw [heq]
  · exact .refl _
  · exact h t tenant htenant

theorem effect_changeTenantSubscription (body : CatalogSubscriptionChange)
    (svc : ServiceContext) (db : Db) :
    Effect [.invoices] db (changeTenantSubscription now tenantRef body svc db).db := by
  refine effect_forTenant fun t tenant htenant => ?_
  split
  · exact .refl _
  split
  · exact .refl _
  split
  · exact .refl _
  exact (effect_replaceCurrent (catalogSubscription t _ _ body.billingCycle) db
    (lt_length htenant)).trans (effect_createInvoiceForSubscription _ _ _ _)

theorem effect_offboardResult (jobId : ℕ) (body : OffboardResultBody)
    (svc : ServiceContext) (db : Db) :
    Effect [.jobs] db (offboardResult tenantRef jobId body svc db).db := by
  refine effect_forTenant fun t tenant _ => ?_
  split
  · exact .refl _
  split
  · exact .refl _
  split
  · exact .aside rfl rfl
  split
  · exact .aside rfl rfl
  · exact .refl _

theorem effect_provisioningResult (jobId : ℕ) (body : ProvisioningResult)
    (svc : ServiceContext) (db : Db) :
    Effect [.tenants] db (provisioningResult cfg now tenantRef jobId body svc db).db := by
  refine effect_forTenant fun t tenant htenant => ?_
  split
  · exact .refl _
  split
  · exact .refl _
  split
  · exact .refl _
  split
  · exact .refl _
  split
  · exact .refl _
  · exact effect_applyInitializationResult (externalIdOf_of_row htenant) _ _ _ _

theorem effect_activateTenant (svc : ServiceContext) (db : Db) :
    Effect [.tenants] db (activateTenant cfg now tenantRef svc db).db := by
  refine effect_forTenant fun t tenant htenant => ?_
  split
  · exact .refl _
  split
  · exact .refl _
  have hlifted : Effect [.tenants] db { db with
      tenants := if tenant.status ≠ .active then db.tenants.modify t lift
        else db.tenants } := by
    split
    · exact .tenants (.modify (by intro _; rfl) _ _) rfl rfl
    · exact .refl _
  exact hlifted.trans (effect_initializeTrialOnce
    (hlifted.ids t _ (externalIdOf_of_row htenant)))

theorem effect_registerTenant {db : Db} (hw : WellFormed db) (tenantRef freshToken : String)
    (body : RegisterBody) :
    Effect [.tenants] db (registerTenant cfg now tenantRef freshToken body db).db := by
  unfold registerTenant
  extract_lets slug email schoolName
  split
  · exact .refl _
  split
  · dsimp only
    split
    · exact .refl _
    · exact effect_ensureInstall _ _ _ _
  split
  · exact .refl _
  split
  · exact .refl _
  refine Effect.trans ?_ (effect_ensureInstall _ _ _ _)
  split
  · exact effect_newTenant hw _ _ rfl
  · exact .tenants (.insert _ _) rfl rfl

theorem effect_serviceCall {db : Db} (hw : WellFormed db) (svc : ServiceContext)
    (call : ServiceCall) :
    Effect [.tenants, .invoices, .jobs] db (call.handle cfg now svc db).db := by
  cases call with
  | changeTenantSubscription tenantRef body =>
    exact (effect_changeTenantSubscription _ _ _ _).mono (by simp)
  | settleTenantInvoice tenantRef i body =>
    exact ((settleTenantInvoice_cases _ _ _ _ _).effect hw).mono (by simp)
  | offboardResult tenantRef jobId body =>
    exact (effect_offboardResult _ _ _ _ _).mono (by simp)
  | provisioningResult tenantRef jobId body =>
    exact (effect_provisioningResult _ _ _ _ _).mono (by simp)
  | registerTenant tenantRef freshToken body =>
    exact (effect_registerTenant hw _ _ _).mono (by simp)
  | activateTenant tenantRef => exact (effect_activateTenant _ _ _).mono (by simp)

/-! ## Calls of operators -/

theorem effect_createTenant {db : Db} (hw : WellFormed db) (body : TenantCreate) :
    Effect [.tenants] db (createTenant cfg now body db).db := by
  unfold createTenant
  extract_lets slug tenantId created
  have hcreated : Effect [.tenants] db created := .tenants (.insert _ _) rfl rfl
  split
  · exact .refl _
  split
  · exact .refl _
  split
  · exact .refl _
  split
  · exact hcreated.bump
  split
  · exact hcreated.bump
  split
  · exact .refl _
  · exact .bump (effect_newTenant hw _ _ rfl)

section Tenants
variable (staff : StaffContext) (t : ℕ) (db : Db)

theorem effect_updateTenant (body : TenantUpdate) :
    Effect [.tenants] db (updateTenant t body db).db := by
  simp only [updateTenant]
  split
  · exact .refl _
  · exact .tenants (.modify (by intro _; rfl) _ _) rfl rfl

theorem effect_changeStatus (body : TenantStatusChange) :
    Effect [.tenants] db (changeStatus cfg now t body db).db := by
  simp only [changeStatus]
  split
  · exact .refl _
  split
  · exact .refl _
  split
  · exact .refl _
  split
  · exact .refl _
  · exact .bump (.tenants (.modify (by intro _; rfl) _ _) rfl rfl)

theorem effect_blacklistTenant (body : BlacklistRequest) :
    Effect [.tenants] db (blacklistTenant cfg now staff t body db).db := by
  simp only [blacklistTenant]
  split
  · exact .refl _
  split
  · exact .aside rfl rfl
  exact .bump (.kept (.modify (by intro _; rfl) _ _) (.updateWhere keeps_cancelBlacklisted _) id rfl
    rfl)

theorem effect_unblacklistTenant (reason : String) :
    Effect [.tenants] db (unblacklistTenant cfg now staff t reason db).db := by
  simp only [unblacklistTenant]
  split
  · exact .refl _
  split
  · exact .refl _
  split
  · exact .aside rfl rfl
  · exact .bump (.tenants (.modify (by intro _; rfl) _ _) rfl rfl)

theorem effect_scheduleOffboardJob {committed : Db} {tenant : Tenant}
    (htenant : committed.tenants[t]? = some tenant) (wipeInDays : ℤ) (notes createdBy : String) :
    Effect [.tenants, .jobs] committed
      (scheduleOffboardJob cfg now t tenant wipeInDays notes createdBy db committed) := by
  simp only [scheduleOffboardJob]
  cases activeJobOf db t with
  | some jobId => exact .refl _
  | none =>
    refine Effect.bumpFrom (Effect.offboarding ?_ (by simp) (externalIdOf_of_row htenant)
      (by simp [plainPayload])) _
    exact .tenants (.modify (by intro _; rfl) _ _) rfl rfl

theorem effect_scheduleOffboard (body : OffboardCreate) :
    Effect [.tenants, .jobs] db (scheduleOffboard cfg now staff t body db).db := by
  simp only [scheduleOffboard]
  split
  · exact .refl _
  split
  · exact .refl _
  rename_i htenant
  split
  · exact .aside rfl rfl
  split
  · exact .aside rfl rfl
  · exact effect_scheduleOffboardJob t db htenant _ _ _

theorem effect_cancelOffboardJob {tenant : Tenant} (htenant : db.tenants[t]? = some tenant)
    {jobId : ℕ} {job : TenantOffboardJob} (hjob : db.offboardJobs[jobId]? = some job)
    (ht : job.tenantId = t) (reason : String) :
    Effect [.tenants, .jobs] db (cancelOffboardJob cfg now jobId reason db) := by
  subst ht
  simp only [cancelOffboardJob]
  rw [hjob]
  dsimp only
  split
  · exact .refl _
  refine Effect.offboarding ?_ (by simp) (externalIdOf_of_row htenant) (by simp [plainPayload])
  split
  · exact .bump (.tenants (.modify (by intro _; rfl) _ _) rfl rfl)
  · exact .aside rfl rfl

theorem effect_cancelOffboard (jobId : ℕ) (reason : String) :
    Effect [.tenants, .jobs] db (cancelOffboard cfg now t jobId reason db).db := by
  simp only [cancelOffboard]
  split
  · exact .refl _
  split
  · exact .refl _
  rename_i htenant
  split
  · exact .refl _
  rename_i hjob
  split
  · exact .refl _
  rename_i ht
  split
  · exact .refl _
  · exact effect_cancelOffboardJob t db htenant hjob (not_not.1 ht) reason

theorem effect_provisionTenant (key : String) :
    Effect [.tenants] db (provisionTenant cfg now staff t key db).db := by
  simp only [provisionTenant]
  split
  · exact .refl _
  rename_i htenant
  have hx := externalIdOf_of_row htenant
  split
  · refine Effect.bump ?_
    simp only [queueInitialization]
    split
    · exact .refl _
    have hqueued : ∀ jobs, Effect [.tenants] db { db with
        provisioningJobs := jobs, tenants := db.tenants.modify t provisioningPending } :=
      fun jobs => .tenants (.modify (by intro _; rfl) _ _) rfl rfl
    refine (hqueued _).enqueue (.inr ⟨t, _, (hqueued _).ids t _ hx, ?_⟩)
    rw [show (db.tenants[t]?).map (·.externalId) = some _ from hx]
    exact .initialization _ _ rfl rfl rfl rfl
  · exact .refl _

theorem effect_enableTrial (trialId : ℕ) : Effect [.tenants] db (enableTrial trialId t db) := by
  refine .kept (.modify ?_ _ _) ?_ (OneTrial.modify (by intro _; rfl) _) rfl rfl
  · intro tenant
    split <;> rfl
  simp only [enableTrial]
  split
  · exact .modify (by intro _; exact ⟨rfl, id⟩) _
  · exact .refl _

theorem effect_disableTrial (trialId : ℕ) : Effect [.tenants] db (disableTrial trialId t db) := by
  refine .kept ?_ ?_ (OneTrial.modify (by intro _; rfl) _) rfl rfl
  · unfold disableTrial
    dsimp only
    split
    · exact .refl _
    · exact .modify (by intro _; rfl) _ _
  unfold disableTrial
  dsimp only
  split
  · exact .modify (by intro _; exact ⟨rfl, id⟩) _
  · exact .refl _

theorem retime_tenantId (body : TrialUpdate) (trial : TenantTrial) :
    (retime body trial).tenantId = trial.tenantId := by
  simp only [retime]
  cases body.durationDays <;> rfl

theorem effect_applyTrialUpdate (trialId : ℕ) (body : TrialUpdate) :
    Effect [.tenants] db (applyTrialUpdate now trialId t body db) := by
  have hretimed : Effect [.tenants] db (retimeTrial trialId body db) := by
    refine .kept (.refl _) (.refl _) ?_ rfl rfl
    apply OneTrial.modify
    exact fun trial => retime_tenantId body trial
  unfold applyTrialUpdate
  dsimp only
  split
  · exact hretimed
  · split
    · exact hretimed
    · exact hretimed.trans (effect_enableTrial _ _ _)
  · exact hretimed.trans (effect_disableTrial _ _ _)

theorem effect_updateTrial (body : TrialUpdate) :
    Effect [.tenants] db (updateTrial cfg now t body db).db := by
  unfold updateTrial
  split
  · exact .refl _
  rename_i htenant
  have hx := externalIdOf_of_row htenant
  dsimp only
  split
  · exact .refl _
  refine Effect.named ?_ (by simp) hx (by simp [plainPayload])
  exact .bump ((effect_initializeTrialOnce hx).trans (effect_applyTrialUpdate _ _ _ _))

theorem effect_courtesyUnlock (body : CourtesyUnlockRequest) :
    Effect [.tenants] db (courtesyUnlock cfg now body db).db := by
  simp only [courtesyUnlock]
  split
  · exact .refl _
  rename_i htenant
  split
  · exact .refl _
  refine Effect.billing (.bump ?_) (by simp [billingEventReasons]) (externalIdOf_of_row htenant)
    (by simp [plainPayload])
  refine .kept (.modify (by intro _; rfl) _ _) ?_ id rfl rfl
  dsimp only
  split
  · exact .modify (by intro _; exact ⟨rfl, id⟩) _
  · exact .refl _

theorem effect_createSubscription (body : SubscriptionCreate) :
    Effect [] db (createSubscription cfg now t body db).db := by
  unfold createSubscription
  split
  · exact .refl _
  rename_i htenant
  have hstore : ∀ type planId, Effect [] db (commit (bumpConfigVersion cfg now
      { db with
        subscriptions := (retireCurrent t db.subscriptions).insert
          (body.toRow t type planId) })).db := fun type planId =>
    (effect_replaceCurrent (body.toRow t type planId) db (lt_length htenant)).bump
  dsimp only
  split
  · split
    · exact .refl _
    split
    · exact .refl _
    split
    · exact .refl _
    · exact hstore _ _
  split
  · exact hstore _ _
  · exact .refl _

end Tenants

theorem keeps_subscriptionStatusUpdate (body : SubscriptionStatusUpdate) : Keeps body.apply := by
  intro sub
  simp only [SubscriptionStatusUpdate.apply]
  split <;> exact ⟨rfl, id⟩

section Billing
variable (s : ℕ) (db : Db)

theorem effect_updateSubscriptionStatus (body : SubscriptionStatusUpdate) :
    Effect [] db (updateSubscriptionStatus s body db).db := by
  simp only [updateSubscriptionStatus]
  split
  · exact .refl _
  · exact .sub (keeps_subscriptionStatusUpdate body) s

theorem effect_dunningAdvance :
    Effect [.tenants, .invoices] db (dunningAdvance cfg now s db).db := by
  simp only [dunningAdvance]
  split
  · exact .refl _
  · exact effect_advanceDunning _ _ _

theorem insert_modify_nextId {α : Type} (l : Table α) (r : α) (f : α → α) :
    (l.insert r).modify l.nextId f = l.insert (f r) := by
  apply List.ext_getElem?
  intro i
  rw [List.getElem?_modify, Table.getElem?_insert, Table.getElem?_insert]
  by_cases hi : i = l.nextId
  · simp [hi]
  · simp [hi, Ne.symm hi]

theorem issued_apply (body : SaasInvoiceCreate) {db : Db} {inv : SaasInvoice}
    (h : Issued db inv) : Issued db (body.apply inv) := ⟨h.unpaid, h.isOpen, h.linked⟩

theorem effect_createInvoice (body : SaasInvoiceCreate) :
    Effect [.invoices] db (createInvoice now body db).db := by
  simp only [createInvoice]
  split
  · exact .refl _
  split
  · exact .refl _
  rename_i s _
  split
  · exact .refl _
  rcases createInvoiceForSubscription_cases now s body.dueDays none db with
    h | ⟨inv, hi, h⟩ <;> rw [h]
  · exact .refl _
  simp only [commit_db, insert_modify_nextId]
  refine (Effect.book (.issue (body.apply inv) (issued_apply body hi)) rfl rfl).trans ?_
  exact .kept (.refl _) ((SubsKept.modify (keeps_afterInvoice db now) s).trans
    (SubsKept.modify (keeps_advanceNextInvoiceAt _) s)) id rfl rfl

theorem effect_invoiceDeal (start : Option Time) :
    Effect [.invoices] db (invoiceDeal now s start db) := by
  have hissued : Effect [.invoices] db (createInvoiceForSubscription now s 14 start db).2 :=
    effect_createInvoiceForSubscription s 14 start db
  simp only [invoiceDeal]
  split
  · rename_i h
    rw [h] at hissued
    exact hissued
  rename_i h
  rw [h] at hissued
  exact hissued.trans (.sub (keeps_advanceNextInvoiceAt _) _)

theorem startBilling_row (now : Time) (deal : Subscription) :
    (startBilling now deal).tenantId = deal.tenantId
      ∧ (startBilling now deal).isCurrent = deal.isCurrent := by
  simp only [startBilling]
  split <;> exact ⟨rfl, rfl⟩

theorem effect_cloneTemplateToDeal (body : DealCloneFromTemplate) :
    Effect [] db (cloneTemplateToDeal cfg now s body db).db := by
  simp only [cloneTemplateToDeal]
  split
  · exact .refl _
  split
  · exact .refl _
  split
  · exact .refl _
  rename_i htenant
  split
  · exact .refl _
  refine .bump (.book (.enrol _ ?_ ?_) rfl rfl)
  · rw [(startBilling_row now _).1]
    exact lt_length htenant
  rw [(startBilling_row now _).2]
  intro hc
  cases hc

theorem effect_createDeal (body : DealCreate) :
    Effect [.invoices] db (createDeal cfg now body db).db := by
  unfold createDeal
  split
  · exact .refl _
  rename_i htenant
  split
  · exact .refl _
  rename_i schedule _
  obtain ⟨ht, hc⟩ := startBilling_row now (body.toRow schedule)
  have henrol : Effect [.invoices] db { db with
      subscriptions := db.subscriptions.insert (startBilling now (body.toRow schedule)) } := by
    refine .book (.enrol _ ?_ ?_) rfl rfl
    · rw [ht]
      exact lt_length htenant
    rw [hc]
    intro h
    cases h
  dsimp only
  refine .bump ?_
  split
  · exact henrol.trans (effect_invoiceDeal _ _ _)
  · exact henrol

theorem approved_tenantId (deal : Subscription) : (approved now deal).tenantId = deal.tenantId := by
  simp only [approved]
  split <;> rfl

theorem effect_approveDeal : Effect [.invoices] db (approveDeal cfg now s db).db := by
  unfold approveDeal
  split
  · exact .refl _
  rename_i deal hdeal
  split
  · exact .refl _
  split
  · exact .refl _
  have hsubs := subsKept_retireCurrent deal.tenantId db.subscriptions
  obtain ⟨row, hrow, hrowt⟩ := hsubs.forth hdeal
  have hretired : Effect [.invoices] db { db with
      subscriptions := retireCurrent deal.tenantId db.subscriptions } :=
    .kept (.refl _) hsubs id rfl rfl
  have hpromote : Effect [.invoices] db { db with
      subscriptions := (retireCurrent deal.tenantId db.subscriptions).modify s
        (approved now) } := by
    refine hretired.trans (.book ?_ rfl rfl)
    refine .promote s row (approved now) hrow approved_tenantId ?_
    rw [hrowt]
    exact exclusive_retireCurrent _ _ _
  dsimp only
  refine .bump ?_
  split
  · exact hpromote.trans (effect_invoiceDeal _ _ _)
  · exact hpromote

/-- Replacing a subscription by one of the same tenant that is current only if it was. -/
theorem SubsKept.replace {subs : Table Subscription} {s : ℕ} {old new : Subscription}
    (hold : subs[s]? = some old) (ht : new.tenantId = old.tenantId)
    (hc : new.isCurrent = true → old.isCurrent = true) :
    SubsKept subs (subs.modify s fun _ => new) := by
  intro i
  rw [List.getElem?_modify]
  by_cases hi : s = i
  · subst hi
    simpa [hold, ht] using hc
  · simp [hi]

/-- What an updated deal keeps of the deal. -/
def SameOwner (deal deal' : Subscription) : Prop :=
  deal'.tenantId = deal.tenantId ∧ (deal'.isCurrent = true → deal.isCurrent = true)

theorem reschedule_row {body : DealUpdate} {deal deal' : Subscription}
    (h : body.reschedule deal = .ok deal') : SameOwner deal deal' := by
  simp only [DealUpdate.reschedule] at h
  split at h
  · cases h; exact ⟨rfl, id⟩
  split at h
  · cases h
  · cases h; exact ⟨rfl, id⟩

theorem cachePrice_row (deal : Subscription) : SameOwner deal (cachePrice deal) := by
  simp only [cachePrice]
  split <;> split <;> exact ⟨rfl, id⟩

theorem settle_row (body : DealUpdate) (deal : Subscription) :
    SameOwner deal (body.settle deal) := by
  simp only [DealUpdate.settle]
  split
  · exact ⟨(cachePrice_row deal).1, fun h => absurd h (by simp)⟩
  · exact cachePrice_row deal

theorem effect_updateDeal (body : DealUpdate) : Effect [] db (updateDeal cfg now s body db).db := by
  simp only [updateDeal]
  split
  · exact .refl _
  rename_i deal hdeal
  split
  · exact .refl _
  split
  · exact .refl _
  split
  · exact .refl _
  split
  · exact .refl _
  split
  · exact .refl _
  rename_i deal' h
  obtain ⟨ht, hc⟩ := reschedule_row h
  obtain ⟨ht', hc'⟩ := settle_row body deal'
  exact .bump (.kept (.refl _)
    (SubsKept.replace hdeal (ht'.trans ht) fun hcurrent => hc (hc' hcurrent)) id rfl rfl)

end Billing

section Providers
variable (staff : StaffContext) (i : ℕ) (db : Db)

theorem effect_setConfig (body : ProviderConfigSet) :
    Effect [.providers] db (setConfig cfg now staff body db).db := by
  unfold setConfig
  split
  · exact .refl _
  dsimp only
  split
  · exact .aside rfl rfl
  · exact .bump (.aside rfl rfl)

theorem effect_testConnection (health : String) :
    Effect [.providers] db (testConnection i health db).db := by
  simp only [testConnection]
  split
  · exact .refl _
  · exact .aside rfl rfl

theorem effect_setSecret : Effect [] db (setSecret cfg now i db).db := by
  simp only [setSecret]
  split
  · exact .refl _
  · exact .bump (.refl _)

theorem effect_setFailover (body : FailoverPolicySet) :
    Effect [.providers] db (setFailover cfg now body db).db := by
  simp only [setFailover]
  split
  · exact .refl _
  · exact .bump (.aside rfl rfl)

theorem effect_tripFailover : Effect [.providers] db (tripFailover cfg now i db).db := by
  simp only [tripFailover]
  split
  · exact .refl _
  · exact .bump (.aside rfl rfl)

theorem effect_resetFailover : Effect [.providers] db (resetFailover cfg now i db).db := by
  simp only [resetFailover]
  split
  · exact .refl _
  · exact .bump (.aside rfl rfl)

theorem effect_setKillSwitch (key : String) (enabled : Bool) (reason : String) :
    Effect [] db (setKillSwitch cfg now staff key enabled reason db).db := by
  simp only [setKillSwitch]
  split
  · exact .refl _
  split
  · exact .refl _
  split
  · exact .refl _
  split
  · exact .aside rfl rfl
  · exact .bump (.aside rfl rfl)

end Providers

/-! ## Dual control -/

/-- The writes of an approved action, on a database with the tenants it read. -/
theorem effect_effect {req : DualControlRequest} {db : Db} {writes : Writes}
    (h : effect cfg now req db = .ok writes) {committed : Db}
    (htenants : committed.tenants = db.tenants) :
    Effect [.tenants, .jobs, .providers] committed (writes committed) := by
  cases effect_spec h with
  | blacklist t tenant =>
    exact .kept (.modify (by intro _; rfl) _ _) (.updateIds keeps_cancelBlacklisted _) id rfl rfl
  | unblacklist t => exact .tenants (.modify (by intro _; rfl) _ _) rfl rfl
  | destroy t => exact .tenants (.modify (by intro _; rfl) _ _) rfl rfl
  | offboard t tenant haction htenant =>
    exact (effect_scheduleOffboardJob t db (htenants ▸ htenant) _ _ _).mono (by simp)
  | killSwitch flagId on => exact .aside rfl rfl
  | switch mode configId => exact .aside rfl rfl

theorem effect_approve {staff : StaffContext} {requestId : ℕ} {reason : String}
    {req : DualControlRequest} {db : Db} {writes : Writes}
    (h : approve cfg now staff requestId reason req db = .ok writes) :
    Effect [.tenants, .jobs, .providers] db (writes db) := by
  obtain ⟨done, heff, rfl⟩ := approve_eq_ok h
  refine Effect.bumpFrom ?_ _
  have hdecided : Effect [.tenants, .jobs, .providers] db { db with
      dualRequests := db.dualRequests.modify requestId (decided now staff reason .approved) } :=
    .aside rfl rfl
  refine hdecided.trans (Effect.trans (effect_effect heff rfl) ?_)
  exact .aside rfl rfl

theorem effect_decideRequest (staff : StaffContext) (requestId : ℕ) (body : DualControlDecide)
    (db : Db) : Effect [.tenants, .jobs, .providers] db
      (decideRequest cfg now staff requestId body db).db := by
  simp only [decideRequest]
  split
  · exact .refl _
  rename_i req hreq
  have hverdict := verdict_spec cfg now staff requestId body req db
  revert hverdict
  generalize verdict cfg now staff requestId body req db = v
  intro hverdict
  cases hverdict with
  | refused code detail => exact .refl _
  | expired hlapsed => exact .aside rfl rfl
  | rejected hpending hreject => exact .aside rfl rfl
  | approved writes hlapsed hpending hother hyes happrove => exact effect_approve happrove

/-! ## Events -/

def Area.all : List Area := [.tenants, .invoices, .jobs, .providers]

theorem Effect.any {db db' : Db} (h : Effect areas db db') : Effect Area.all db db' :=
  h.mono fun area _ => by cases area <;> simp [Area.all]

theorem effect_staffCall {db : Db} (hw : WellFormed db) (staff : StaffContext)
    (call : StaffCall) : Effect Area.all db (call.handle cfg now staff db).db := by
  simp only [StaffCall.handle]
  cases call with
  | createTenant body => exact (effect_createTenant hw body).any
  | updateTenant t body => exact (effect_updateTenant t db body).any
  | changeStatus t body => exact (effect_changeStatus t db body).any
  | blacklistTenant t body => exact (effect_blacklistTenant staff t db body).any
  | unblacklistTenant t reason => exact (effect_unblacklistTenant staff t db reason).any
  | scheduleOffboard t body => exact (effect_scheduleOffboard staff t db body).any
  | cancelOffboard t jobId reason => exact (effect_cancelOffboard t db jobId reason).any
  | provisionTenant t key => exact (effect_provisionTenant staff t db key).any
  | updateTrial t body => exact (effect_updateTrial t db body).any
  | createSubscription t body => exact (effect_createSubscription t db body).any
  | updateSubscriptionStatus s body => exact (effect_updateSubscriptionStatus s db body).any
  | dunningAdvance s => exact (effect_dunningAdvance s db).any
  | dunningRun => exact (effect_runDunningPass _ db).any
  | generateDue => exact (effect_generateDueInvoices db).any
  | courtesyUnlock body => exact (effect_courtesyUnlock db body).any
  | createInvoice body => exact (effect_createInvoice db body).any
  | payInvoice i body => exact ((payInvoice_cases staff i body db).effect hw).any
  | createDealTemplate body => exact .aside rfl rfl
  | cloneTemplateToDeal i body => exact (effect_cloneTemplateToDeal i db body).any
  | createDeal body => exact (effect_createDeal db body).any
  | approveDeal i => exact (effect_approveDeal i db).any
  | updateDeal i body => exact (effect_updateDeal i db body).any
  | setConfig body => exact (effect_setConfig staff db body).any
  | testConnection i health => exact (effect_testConnection i db health).any
  | setSecret i => exact (effect_setSecret i db).any
  | setFailover body => exact (effect_setFailover db body).any
  | tripFailover i => exact (effect_tripFailover i db).any
  | resetFailover i => exact (effect_resetFailover i db).any
  | setKillSwitch key on reason => exact (effect_setKillSwitch staff db key on reason).any
  | decide i body => exact (effect_decideRequest staff i body db).any
  | listRequests listed => exact .aside rfl rfl

/-- **What every event does.** -/
theorem step_effect {db : Db} (hw : WellFormed db) (e : Event) :
    Effect Area.all db (step cfg e db) := by
  cases e with
  | stage now stage => exact (effect_runStage stage db).any
  | advanceDunning now graceDays s => exact (effect_advanceDunning graceDays s db).any
  | service now svc call => exact (effect_serviceCall hw svc call).any
  | staff now staff call =>
    simp only [step, respond]
    split
    · exact effect_staffCall hw staff call
    · exact .refl _
  | catalogue plans flags => exact .aside rfl rfl

/-- **Every event continues the outbox.** -/
theorem step_continues {db : Db} (hw : WellFormed db) (e : Event) :
    Continues db (step cfg e db) := (step_effect hw e).toContinues

theorem Books.step {db : Db} (h : Books db) (cfg : Settings) (e : Event) :
    Books (step cfg e db) := (step_effect h.wellFormed e).moves.books h

/-- **The books are in order in every reachable state.** -/
theorem Reach.books {db : Db} (h : Reach cfg db) : Books db :=
  Reachable.invariant ⟨WellFormed.empty, Ledger.empty⟩ (fun _ e hb => hb.step cfg e) h

/-- **A tenant has at most one trial**, in every reachable state. -/
theorem Reach.oneTrial {db : Db} (h : Reach cfg db) : OneTrial db.trials := by
  have hinv : Books db ∧ OneTrial db.trials :=
    Reachable.invariant (I := fun db => Books db ∧ OneTrial db.trials)
      ⟨⟨WellFormed.empty, Ledger.empty⟩, List.nodup_nil⟩
      (fun db e hdb => ⟨hdb.1.step cfg e, (step_continues hdb.1.wellFormed e).trials hdb.2⟩) h
  exact hinv.2

end MultiAcademy.Control
