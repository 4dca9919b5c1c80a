import MultiAcademy.Control.PaymentRace
import MultiAcademy.School.SettlementRace

/-!
# SaaS payments across the two services

A school pays its subscription invoice online: the school server settles the checkout
session with the control plane, whose settle endpoint refuses a reference it has recorded.
`verify` presents the transaction under the provider's id and a webhook under the merchant's
reference, and `verify` does so whether or not the session is settled already.
-/

namespace MultiAcademy.School

open MultiAcademy.Lib

/-- What the two services read besides their tables. -/
structure SaasEnv where
  cfg : Control.Settings
  /-- The tenant reference in the endpoint's path. -/
  tenantRef : String
  svc : Control.ServiceContext
  gateway : GatewayEnv := {}

/-- The school server's calls and tables, and the control plane's tables. -/
structure SaasState where
  school : GatewayState
  control : Control.Db

def SaasSettlement.body (saas : SaasSettlement) : Control.SettleBody :=
  { amountMinor := saas.amountMinor
    providerReference := saas.providerReference
    providerId := saas.providerId }

/-- A call settles with the control plane; the answer may get lost. -/
def chargeStep (env : SaasEnv) (now : Time) (i : ℕ) (reply : Reply) (saas : SaasSettlement)
    (s : SaasState) : SaasState :=
  let outcome := Control.settleTenantInvoice env.cfg now env.tenantRef saas.invoiceId saas.body
    env.svc s.control
  { control := outcome.db
    school := gatewayStep env.gateway
      (.advance i { reply with controlOk := reply.controlOk && outcome.reply = .ok }) s.school }

/-- One step of the two services, at a time. -/
def saasStep (env : SaasEnv) (e : GatewayEvent × Time) (s : SaasState) : SaasState :=
  match e.1 with
  | .advance i reply =>
    match s.school.calls[i]? with
    | some (.charging saas) => chargeStep env e.2 i reply saas s
    | _ => { s with school := gatewayStep env.gateway e.1 s.school }
  | _ => { s with school := gatewayStep env.gateway e.1 s.school }

/-! ## One transaction -/

/-- The provider's reference a verification presents the transaction under. -/
def Transaction.key (tx : Transaction) : String := tx.idOr tx.reference

/-- The provider reports the transaction, in whatever state, under its id and reference. -/
def Transaction.reports (tx data : Transaction) : Prop :=
  data.id = tx.id ∧ data.reference = tx.reference

/-- Every call is about the transaction's session, and every answer of the provider about
the transaction. -/
def Reported (tx : Transaction) : GatewayEvent → Prop
  | .verify reference => reference = tx.reference
  | .webhook _ _ result => ∃ data, tx.reports data ∧
      ((∃ event, result = PaystackGateway.handleWebhook event data)
        ∨ result = FlutterwaveGateway.handleWebhook data)
  | .advance _ reply => ∀ verification, reply.verification = .ok verification →
      ∃ data, tx.reports data ∧
        (verification = PaystackGateway.verifyTransaction data
          ∨ verification = FlutterwaveGateway.verifyTransaction data)
  | .stop _ => True

/-- A payment is recorded under the transaction's id or under its reference. -/
def Transaction.recorded (tx : Transaction) (db : Control.Db) : Bool :=
  Control.recorded db.payments tx.key || Control.recorded db.payments tx.reference

/-- The checks of the settle endpoint refuse the call, a duplicate included. -/
def refused (env : SaasEnv) (saas : SaasSettlement) (db : Control.Db) : Bool :=
  match Control.tenantByRef db env.tenantRef env.svc with
  | .error _ => true
  | .ok (tenantId, _) =>
    match db.invoices[saas.invoiceId]? with
    | none => true
    | some inv =>
      ((Control.PayRequest.settle env.svc tenantId saas.body).check saas.invoiceId inv
        db.payments).isNone

/-- A settle call that comes when the transaction is recorded, under either of its two
references, is refused. -/
def chargesOnce (env : SaasEnv) (tx : Transaction) (s : SaasState) (e : GatewayEvent × Time) :
    Bool :=
  match e.1 with
  | .advance i _ =>
    match s.school.calls[i]? with
    | some (.charging saas) => !tx.recorded s.control || refused env saas s.control
    | _ => true
  | _ => true

variable {env : SaasEnv} {tx : Transaction} {s : SaasState} {e : GatewayEvent × Time} {now : Time}
  {saas : SaasSettlement} {i : ℕ} {reply : Reply} {db : Control.Db}

/-! ## The settle endpoint -/

/-- **The endpoint records one payment, under the call's reference, unless it refuses.** -/
theorem settle_payments (env : SaasEnv) (now : Time) (saas : SaasSettlement) (db : Control.Db) :
    (refused env saas db = true ∧ (Control.settleTenantInvoice env.cfg now env.tenantRef
        saas.invoiceId saas.body env.svc db).db.payments = db.payments)
    ∨ (refused env saas db = false ∧ ∃ payment : Control.SaasPayment,
      payment.providerReference = saas.providerReference
        ∧ (Control.settleTenantInvoice env.cfg now env.tenantRef saas.invoiceId saas.body
          env.svc db).db.payments = db.payments.insert payment) := by
  simp only [refused]
  cases href : Control.tenantByRef db env.tenantRef env.svc with
  | error err =>
    refine Or.inl ⟨rfl, ?_⟩
    simp [Control.settleTenantInvoice, Control.forTenant, href]
  | ok found =>
    obtain ⟨tenantId, tenant⟩ := found
    cases hinv : db.invoices[saas.invoiceId]? with
    | none =>
      refine Or.inl ⟨rfl, ?_⟩
      simp [Control.settleTenantInvoice, Control.forTenant, href, hinv]
    | some inv =>
      have hhandles : Control.Handles saas.invoiceId inv (.settle env.svc tenantId saas.body)
          now db (Control.settleTenantInvoice env.cfg now env.tenantRef saas.invoiceId
            saas.body env.svc db).db :=
        Control.settleTenantInvoice_handles env.tenantRef env.svc saas.body href hinv
      have hpayments := hhandles.payments
      simp only
      cases hcheck : (Control.PayRequest.settle env.svc tenantId saas.body).check
          saas.invoiceId inv db.payments with
      | none =>
        rw [hcheck] at hpayments
        exact Or.inl ⟨rfl, hpayments⟩
      | some payment =>
        rw [hcheck] at hpayments
        refine Or.inr ⟨rfl, payment, ?_, hpayments⟩
        rw [Control.PayRequest.check] at hcheck
        split at hcheck
        · cases hcheck
        cases hcheck
        rfl

/-! ## What the calls present -/

/-- The reference is one of the transaction's two. -/
def Transaction.named (tx : Transaction) (reference : String) : Prop :=
  reference = tx.key ∨ reference = tx.reference

/-- A call for the transaction presents it under one of its two references. -/
def SettlePhase.presents (tx : Transaction) : SettlePhase → Prop
  | .lookup reference | .verifying reference _ => reference = tx.reference
  | .reading input => tx.named input.providerReference
  | .charging saas => tx.named saas.providerReference
  | .closing _ _ _ | .checking _ | .inserting _ | .paid _ _ _ | .answered _ _ | .failed _ _ => True

theorem presents_chargeSaas {providerReference : String} (h : tx.named providerReference)
    (sessionId : ℕ) (session : CheckoutSession) (amountMinor : ℤ) (providerId : String) :
    (chargeSaas sessionId session amountMinor providerId providerReference).presents tx := by
  simp only [chargeSaas]
  split
  · trivial
  · exact h

/-- What a verification of the transaction presents. -/
theorem named_verification {data : Transaction} (hdata : tx.reports data)
    {verification : PaymentVerification}
    (h : verification = PaystackGateway.verifyTransaction data
      ∨ verification = FlutterwaveGateway.verifyTransaction data) :
    tx.named (if verification.providerReference = "" then tx.reference
      else verification.providerReference) := by
  obtain ⟨hid, href⟩ := hdata
  have hkey : ∀ otherwise, (otherwise = tx.reference ∨ otherwise = "") →
      tx.named (if data.idOr otherwise = "" then tx.reference else data.idOr otherwise) := by
    intro otherwise hotherwise
    split
    · exact Or.inr rfl
    rename_i hne
    rw [Transaction.named, Transaction.key]
    simp only [Transaction.idOr] at hne ⊢
    rw [hid] at hne ⊢
    by_cases hzero : tx.id = 0
    · rw [if_pos hzero] at hne ⊢
      rcases hotherwise with rfl | rfl
      · exact Or.inr rfl
      · exact absurd rfl hne
    rw [if_neg hzero, if_neg hzero]
    exact Or.inl rfl
  rcases h with rfl | rfl
  · exact hkey data.reference (Or.inl href)
  · exact hkey "" (Or.inr rfl)

theorem presents_verified {session : Option (ℕ × CheckoutSession)}
    {verification : PaymentVerification}
    (h : tx.named (if verification.providerReference = "" then tx.reference
      else verification.providerReference)) :
    (verified tx.reference session verification).presents tx := by
  unfold verified
  split
  · trivial
  simp only
  split
  · exact presents_chargeSaas h _ _ _ _
  · exact h

theorem presents_readSession {input : SettleInput} (h : tx.named input.providerReference)
    (db : FeeDb) : (readSession input db).presents tx := by
  simp only [readSession]
  split
  · trivial
  split
  · trivial
  split
  · trivial
  split
  · trivial
  split
  · exact presents_chargeSaas h _ _ _ _
  · trivial

theorem presents_paidStep (stage : Stage) (job : Settlement) (paymentId : ℕ) (db : FeeDb) :
    (paidStep stage job paymentId db).1.presents tx := by
  rcases (paidStep_cases stage job paymentId db).2 with ⟨-, stage', -, hnext⟩ | ⟨hnext, -⟩
  · rw [hnext]
    trivial
  rw [hnext]
  trivial

/-- **Every step of a call keeps to the transaction's two references.** -/
theorem presents_settleStep {phase : SettlePhase} {db : FeeDb} (hphase : phase.presents tx)
    (hreply : Reported tx (.advance i reply)) :
    (settleStep env.gateway reply phase db).1.presents tx := by
  cases phase with
  | lookup reference =>
    simp only [settleStep]
    split
    · trivial
    · exact hphase
  | verifying reference session =>
    cases hphase
    simp only [settleStep]
    split
    · trivial
    rename_i verification hverification
    obtain ⟨data, hdata, hgateway⟩ := hreply verification hverification
    exact presents_verified (named_verification hdata hgateway)
  | reading input => exact presents_readSession hphase db
  | charging saas =>
    simp only [settleStep]
    split
    · trivial
    · trivial
  | checking job =>
    simp only [settleStep]
    split
    · trivial
    · trivial
  | inserting job =>
    simp only [settleStep]
    split
    · trivial
    · trivial
  | paid stage job paymentId => exact presents_paidStep stage job paymentId db
  | closing | answered | failed => trivial

/-- The calls of the school server keep to them too. -/
theorem presents_gatewayStep {e : GatewayEvent} {school : GatewayState}
    (hcalls : ∀ phase ∈ school.calls, phase.presents tx) (he : Reported tx e) :
    ∀ phase ∈ (gatewayStep env.gateway e school).calls, phase.presents tx := by
  intro phase hphase
  cases e with
  | verify reference =>
    rcases List.mem_append.1 hphase with hold | hnew
    · exact hcalls phase hold
    rw [List.mem_singleton.1 hnew]
    exact he
  | webhook providerId gatewayId result =>
    rcases List.mem_append.1 hphase with hold | hnew
    · exact hcalls phase hold
    rw [List.mem_singleton.1 hnew]
    obtain ⟨data, ⟨-, href⟩, hresult⟩ := he
    simp only [webhookPhase]
    split
    · trivial
    split
    · trivial
    rename_i hsuccess
    rw [not_or] at hsuccess
    right
    simp only
    rcases hresult with ⟨event, rfl⟩ | rfl
    · -- a Paystack webhook names its own reference, or none
      have hshape : (PaystackGateway.handleWebhook event data).reference = data.reference
          ∨ (PaystackGateway.handleWebhook event data).reference = "" := by
        simp only [PaystackGateway.handleWebhook]
        split
        · exact Or.inr rfl
        split
        · exact Or.inl rfl
        split
        · exact Or.inl rfl
        · exact Or.inl rfl
      rcases hshape with hshape | hshape
      · rw [hshape, href]
      · exact absurd hshape hsuccess.2
    · exact href
  | stop i =>
    rcases List.mem_or_eq_of_mem_set hphase with hold | rfl
    · exact hcalls phase hold
    · trivial
  | advance i reply =>
    simp only [gatewayStep] at hphase
    split at hphase
    · rename_i old hold
      rcases List.mem_or_eq_of_mem_set hphase with hmem | rfl
      · exact hcalls phase hmem
      · exact presents_settleStep (hcalls old (List.mem_of_getElem? hold)) he
    · exact hcalls phase hphase

/-! ## One step -/

/-- How many payments are recorded under either reference. -/
def Transaction.charges (tx : Transaction) (db : Control.Db) : ℕ :=
  db.payments.countP fun row =>
    row.providerReference = tx.key || row.providerReference = tx.reference

theorem recorded_eq_false : tx.recorded db = false ↔ tx.charges db = 0 := by
  simp only [Transaction.recorded, Transaction.charges, Control.recorded, Table.existsRow,
    Bool.or_eq_false_iff, List.any_eq_false, List.countP_eq_zero, decide_eq_true_eq,
    Bool.or_eq_true]
  constructor
  · rintro ⟨hkey, href⟩ row hrow (h | h)
    · exact hkey row hrow h
    · exact href row hrow h
  intro h
  exact ⟨fun row hrow hkey => h row hrow (Or.inl hkey),
    fun row hrow href => h row hrow (Or.inr href)⟩

/-- The calls are about the transaction, and every payment recorded since is one of it. -/
structure Tracked (tx : Transaction) (n : ℕ) (s : SaasState) : Prop where
  calls : ∀ phase ∈ s.school.calls, phase.presents tx
  payments : s.control.payments.length = n + tx.charges s.control

/-- A step of the control plane is a settle call. -/
theorem saasStep_cases (tx : Transaction) (env : SaasEnv) (e : GatewayEvent × Time)
    (s : SaasState) :
    (∃ i reply saas, e.1 = .advance i reply ∧ s.school.calls[i]? = some (.charging saas)
      ∧ saasStep env e s = chargeStep env e.2 i reply saas s)
    ∨ (chargesOnce env tx s e = true
      ∧ saasStep env e s = { s with school := gatewayStep env.gateway e.1 s.school }) := by
  obtain ⟨event, now⟩ := e
  cases event with
  | verify | webhook | stop => exact Or.inr ⟨rfl, rfl⟩
  | advance i reply =>
    simp only [saasStep, chargesOnce]
    cases hphase : s.school.calls[i]? with
    | none => exact Or.inr ⟨rfl, rfl⟩
    | some phase =>
      cases phase with
      | charging saas => exact Or.inl ⟨i, reply, saas, rfl, hphase, rfl⟩
      | lookup | verifying | reading | closing | checking | inserting | paid | answered
      | failed => exact Or.inr ⟨rfl, rfl⟩

/-- **Every step tracks the transaction.** -/
theorem saasStep_tracked {n : ℕ} (h : Tracked tx n s) (he : Reported tx e.1) :
    Tracked tx n (saasStep env e s) := by
  rcases saasStep_cases tx env e s with ⟨i, reply, saas, hadvance, hphase, hstep⟩
    | ⟨-, hstep⟩
  · rw [hstep]
    rw [hadvance] at he
    refine ⟨presents_gatewayStep h.calls he, ?_⟩
    have hnamed : tx.named saas.providerReference := h.calls _ (List.mem_of_getElem? hphase)
    have hpayments := h.payments
    simp only [chargeStep, Transaction.charges] at hpayments ⊢
    rcases settle_payments env e.2 saas s.control with ⟨-, hsame⟩ | ⟨-, payment, hkey, hnew⟩
    · rw [hsame]
      exact hpayments
    have hcounts : (decide (payment.providerReference = tx.key)
        || decide (payment.providerReference = tx.reference)) = true := by
      rw [hkey, Bool.or_eq_true, decide_eq_true_eq, decide_eq_true_eq]
      exact hnamed
    rw [hnew, Table.insert, List.length_append, List.countP_append, List.countP_singleton,
      if_pos hcounts, hpayments]
    rfl
  rw [hstep]
  exact ⟨presents_gatewayStep h.calls he, h.payments⟩

/-- **A step records no second payment exactly when a settle call that comes after a recorded
one is refused.** -/
theorem saasStep_once {n : ℕ} (h : Tracked tx n s) (hone : s.control.payments.length ≤ n + 1) :
    (saasStep env e s).control.payments.length ≤ n + 1 ↔ chargesOnce env tx s e = true := by
  rcases saasStep_cases tx env e s with ⟨i, reply, saas, hadvance, hphase, hstep⟩
    | ⟨hguard, hstep⟩
  · rw [hstep]
    simp only [chargesOnce, hadvance, hphase, chargeStep, Bool.or_eq_true, Bool.not_eq_true',
      recorded_eq_false]
    have hpayments := h.payments
    rcases settle_payments env e.2 saas s.control with ⟨hrefused, hsame⟩
      | ⟨haccepted, payment, -, hnew⟩
    · rw [hsame]
      exact iff_of_true hone (Or.inr hrefused)
    rw [hnew, Table.length_insert, haccepted]
    simp only [Bool.false_eq_true, or_false]
    omega
  rw [hstep]
  exact iff_of_true hone hguard

/-! ## Runs -/

/-- **The control plane records at most one payment for a transaction exactly along the runs
in which every settle call that comes after a recorded payment of it, under either of its
two references, is refused.** -/
theorem charged_once_iff (env : SaasEnv) (tx : Transaction) (db : FeeDb) (control : Control.Db)
    (es : List (GatewayEvent × Time)) (hfresh : tx.charges control = 0)
    (hreported : ∀ e ∈ es, Reported tx e.1) :
    (∀ pre, pre <+: es →
        (run (saasStep env) { school := { db }, control } pre).control.payments.length
          ≤ control.payments.length + 1)
      ↔ Along (saasStep env) (fun s e => chargesOnce env tx s e = true)
        { school := { db }, control } es := by
  have htracked : Tracked tx control.payments.length
      ({ school := { db }, control } : SaasState) :=
    ⟨fun _ hphase => absurd hphase List.not_mem_nil, by rw [hfresh]; rfl⟩
  exact (along_iff_throughout_with
    (I := fun s => s.control.payments.length ≤ control.payments.length + 1)
    (J := Tracked tx control.payments.length)
    (D := fun _ (e : GatewayEvent × Time) => Reported tx e.1)
    (fun _ _ he _ h => saasStep_tracked h he) (fun _ _ _ hone h => saasStep_once h hone)
    (along_of_forall hreported) (Nat.le_succ _) htracked).symm

/-! ## A webhook, and then a verification -/

namespace Example

/-- The example school pays half of its invoice. -/
def saasSession : CheckoutSession :=
  { studentId := "saas-0", invoiceId := some 0, installmentId := none, amount := 250000
    currency := "NGN", reference := "pay_1", providerId := "paystack", kind := .saasSubscription }

def saasTransaction : Transaction :=
  { id := 4099, reference := "pay_1", status := "success", amount := 250000, currency := "NGN" }

def saasReply : Reply :=
  { verification := .ok (PaystackGateway.verifyTransaction saasTransaction) }

def saasEnv : SaasEnv :=
  { cfg := Control.Example.settings, tenantRef := "s", svc := ⟨"school", []⟩ }

/-- The school server and the control plane before the payment. -/
def saasDb : FeeDb := { sessions := [saasSession] }

def saasControl : Control.Db :=
  run (Control.step Control.Example.settings) {} Control.Example.opened

/-- The webhook settles the session; the parent's browser verifies it afterwards. -/
def settledTwice : List (GatewayEvent × Time) :=
  [.webhook "paystack" "paystack" (PaystackGateway.handleWebhook "charge.success" saasTransaction),
    .advance 0 saasReply, .advance 0 saasReply, .advance 0 saasReply,
    .verify "pay_1", .advance 1 saasReply, .advance 1 saasReply, .advance 1 saasReply].map
    fun e => (e, Control.Example.day 1)

theorem settledTwice_reported : ∀ e ∈ settledTwice, Reported saasTransaction e.1 := by
  have hadvance : ∀ i, Reported saasTransaction (.advance i saasReply) := by
    intro i verification hverification
    cases hverification
    exact ⟨saasTransaction, ⟨rfl, rfl⟩, Or.inl rfl⟩
  intro e he
  obtain ⟨event, hevent, rfl⟩ := List.mem_map.1 he
  simp only [List.mem_cons, List.not_mem_nil, or_false] at hevent
  rcases hevent with rfl | rfl | rfl | rfl | rfl | rfl | rfl | rfl
  · exact ⟨saasTransaction, ⟨rfl, rfl⟩, Or.inl ⟨_, rfl⟩⟩
  · exact hadvance 0
  · exact hadvance 0
  · exact hadvance 0
  · rfl
  · exact hadvance 1
  · exact hadvance 1
  · exact hadvance 1

end Example

/-- The equivalence at that run. -/
theorem charged_once_iff_example :
    (∀ pre, pre <+: Example.settledTwice →
        (run (saasStep Example.saasEnv)
            { school := { db := Example.saasDb }, control := Example.saasControl }
            pre).control.payments.length
          ≤ Example.saasControl.payments.length + 1)
      ↔ Along (saasStep Example.saasEnv)
        (fun s e => chargesOnce Example.saasEnv Example.saasTransaction s e = true)
        { school := { db := Example.saasDb }, control := Example.saasControl }
        Example.settledTwice :=
  charged_once_iff Example.saasEnv Example.saasTransaction Example.saasDb Example.saasControl
    Example.settledTwice (by decide) Example.settledTwice_reported

/-- One transaction is recorded as two payments of the invoice. -/
theorem not_charged_once :
    ¬ ∀ (env : SaasEnv) (tx : Transaction) (db : FeeDb) (control : Control.Db)
        (es : List (GatewayEvent × Time)), tx.charges control = 0 →
      (∀ e ∈ es, Reported tx e.1) →
      (run (saasStep env) { school := { db }, control } es).control.payments.length
        ≤ control.payments.length + 1 := by
  intro h
  have hone := h Example.saasEnv Example.saasTransaction Example.saasDb Example.saasControl
    Example.settledTwice (by decide) Example.settledTwice_reported
  revert hone
  decide +kernel

end MultiAcademy.School
