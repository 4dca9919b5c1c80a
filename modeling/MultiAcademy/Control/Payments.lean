import MultiAcademy.Control.BillingLocks

/-!
# Payments the endpoints accept

An operator pays an invoice through one endpoint and a school server settles one through
another.  Both check the amount against what is outstanding and the reference against
the recorded ones, and then record the same kind of row, so a payment event is described
once: by the row it asks to record, and by whether that row is accepted.

An invoice for nothing has nothing outstanding, and neither endpoint accepts a payment
of nothing: such an invoice stays open, and dunning goes after it like after any other.
-/

namespace MultiAcademy.Control

open MultiAcademy.Lib

/-! ## Payment events -/

/-- A call of one of the two payment endpoints. -/
def Event.isPayment : Event → Bool
  | .staff _ _ (.payInvoice _ _) | .service _ _ (.settleTenantInvoice _ _ _) => true
  | _ => false

/-- The payment an event asks to record, after the checks that are its endpoint's own:
the permission and the status of the invoice, or the school and its reference. -/
def Event.payment (db : Db) : Event → Option (Time × SaasPayment)
  | .staff now operator (.payInvoice invoiceId body) =>
    if "billing:write" ∈ operator.permissions then
      match db.invoices[invoiceId]? with
      | none => none
      | some inv =>
        if inv.status = .void ∨ inv.status = .writtenOff then none
        else some (now, body.toRow operator invoiceId inv)
    else none
  | .service now svc (.settleTenantInvoice tenantRef invoiceId body) =>
    match tenantByRef db tenantRef svc, db.invoices[invoiceId]? with
    | .ok (tenantId, _), some inv =>
      if inv.tenantId = tenantId ∧ body.providerReference ≠ "" then
        some (now, body.toRow svc tenantId invoiceId inv)
      else none
    | _, _ => none
  | _ => none

/-- The checks both endpoints make of a payment. -/
def accepts (db : Db) (payment : SaasPayment) : Bool :=
  ((db.invoices[payment.invoiceId]?).any fun inv =>
    0 < payment.amountMinor && payment.amountMinor ≤ outstanding inv)
  && (payment.providerReference = "" || !db.payments.existsRow fun other =>
    other.providerReference = payment.providerReference)

/-- The payment an event records, and when; `none` when it is refused or no payment. -/
def Event.accepted (db : Db) (e : Event) : Option (Time × SaasPayment) :=
  (e.payment db).filter fun p => accepts db p.2

section Accepted
variable {cfg : Settings} {now : Time} {db : Db} {payment : SaasPayment}

theorem existsRow_reference (payments : Table SaasPayment) (reference : String) :
    (payments.existsRow fun other => other.providerReference = reference) = true
      ↔ ∃ other ∈ payments, other.providerReference = reference := by
  simp [Table.existsRow]

/-- The checks as the books state them. -/
theorem accepts_iff : accepts db payment = true ↔ ∃ inv, Accepted db payment inv := by
  simp only [accepts, Bool.and_eq_true, Option.any_eq_true, Bool.or_eq_true, decide_eq_true_eq,
    Bool.not_eq_true']
  constructor
  · rintro ⟨⟨inv, hinv, hpos, hle⟩, hfresh⟩
    refine ⟨inv, hinv, hpos, hle, ?_⟩
    intro hne other hother heq
    rcases hfresh with h | h
    · exact hne h
    rw [← Bool.not_eq_true, existsRow_reference] at h
    exact h ⟨other, hother, heq⟩
  rintro ⟨inv, ha⟩
  refine ⟨⟨inv, ha.row, ha.positive, ha.covered⟩, ?_⟩
  by_cases hne : payment.providerReference = ""
  · exact Or.inl hne
  refine Or.inr ?_
  rw [← Bool.not_eq_true, existsRow_reference]
  rintro ⟨other, hother, heq⟩
  exact ha.fresh hne other hother heq

variable {e : Event} {db' : Db}

theorem accepted_iff :
    e.accepted db = some (now, payment)
      ↔ e.payment db = some (now, payment) ∧ accepts db payment = true := by
  simp [Event.accepted, Option.filter_eq_some_iff]

theorem accepted_row (h : e.accepted db = some (now, payment)) :
    ∃ inv, Accepted db payment inv :=
  accepts_iff.1 (accepted_iff.1 h).2

theorem Accepted.not_recorded {inv : SaasInvoice} (ha : Accepted db payment inv) :
    ¬ (payment.providerReference ≠ "" ∧ (db.payments.existsRow fun other =>
      other.providerReference = payment.providerReference) = true) := by
  rintro ⟨hne, hex⟩
  obtain ⟨other, hother, heq⟩ := (existsRow_reference _ _).1 hex
  exact ha.fresh hne other hother heq

theorem Accepted.first?_eq_none {inv : SaasInvoice} (ha : Accepted db payment inv)
    (hne : payment.providerReference ≠ "") :
    (db.payments.first? fun other => other.providerReference = payment.providerReference)
      = none := by
  rw [Table.first?_eq_none]
  intro other hother
  simpa using ha.fresh hne other hother

theorem payInvoice_accepted {staff : StaffContext} {i : ℕ} {body : SaasPaymentCreate}
    {inv : SaasInvoice} (hstatus : ¬ (inv.status = .void ∨ inv.status = .writtenOff))
    (ha : Accepted db (body.toRow staff i inv) inv)
    (hrecord : recordPayment cfg now (body.toRow staff i inv) db = some db') :
    (payInvoice cfg now staff i body db).db = db' := by
  have hrow : db.invoices[i]? = some inv := ha.row
  have hpos : ¬ body.amountMinor ≤ 0 := Int.not_le.2 ha.positive
  have hle : ¬ outstanding inv < body.amountMinor := Int.not_lt.2 ha.covered
  have hdup : ¬ (body.providerReference ≠ "" ∧ (db.payments.existsRow fun other =>
      other.providerReference = body.providerReference) = true) := ha.not_recorded
  simp only [payInvoice, hrow, if_neg hstatus, if_neg hpos, if_neg hle, hrecord]
  rw [if_neg hdup, commit_db]

theorem settleTenantInvoice_accepted {svc : ServiceContext} {tenantRef : String} {i t : ℕ}
    {tenant : Tenant} {body : SettleBody} {inv : SaasInvoice}
    (htenant : tenantByRef db tenantRef svc = .ok (t, tenant)) (hown : inv.tenantId = t)
    (hne : body.providerReference ≠ "") (ha : Accepted db (body.toRow svc t i inv) inv)
    (hrecord : recordPayment cfg now (body.toRow svc t i inv) db = some db') :
    (settleTenantInvoice cfg now tenantRef i body svc db).db = db' := by
  have hrow : db.invoices[i]? = some inv := ha.row
  have hpos : 0 < body.amountMinor := ha.positive
  have hle : body.amountMinor ≤ outstanding inv := ha.covered
  have hdup : (db.payments.first? fun other =>
      other.providerReference = body.providerReference) = none := ha.first?_eq_none hne
  have hamount : ¬ (body.amountMinor ≤ 0 ∨ outstanding inv < body.amountMinor) := by omega
  simp only [settleTenantInvoice, forTenant, htenant, hrow, hown, ne_eq, not_true_eq_false,
    if_false, if_neg hne, hdup, Option.bind_none, hrecord]
  rw [if_neg hamount, commit_db]

theorem accepted_of_payment {inv : SaasInvoice}
    (hpayment : e.payment db = some (now, payment)) (ha : Accepted db payment inv) :
    e.accepted db = some (now, payment) :=
  accepted_iff.2 ⟨hpayment, accepts_iff.2 ⟨inv, ha⟩⟩

theorem step_staff (cfg : Settings) (now : Time) (staff : StaffContext) (call : StaffCall)
    (db : Db) :
    step cfg (.staff now staff call) db
      = if call.permission ∈ staff.permissions then (call.handle cfg now staff db).db else db := by
  simp only [step, respond]
  split <;> rfl

/-- **An accepted payment is recorded.** -/
theorem step_accepted (cfg : Settings) (h : e.accepted db = some (now, payment)) :
    recordPayment cfg now payment db = some (step cfg e db) := by
  obtain ⟨hpayment, haccepts⟩ := accepted_iff.1 h
  obtain ⟨inv, ha⟩ := accepts_iff.1 haccepts
  obtain ⟨db', hdb'⟩ := recordPayment_isSome cfg now ha.row ha.positive
  rw [hdb']
  simp only [Event.payment] at hpayment
  split at hpayment
  · rename_i at_ operator i body
    split at hpayment
    · rename_i hpermission
      split at hpayment
      · cases hpayment
      rename_i row hrow
      split at hpayment
      · cases hpayment
      rename_i hstatus
      cases hpayment
      obtain rfl : row = inv := Option.some.inj (hrow.symm.trans ha.row)
      replace hpermission : (StaffCall.payInvoice i body).permission ∈ operator.permissions :=
        hpermission
      rw [step_staff, if_pos hpermission]
      exact congrArg some (payInvoice_accepted hstatus ha hdb').symm
    · cases hpayment
  · rename_i at_ svc tenantRef i body
    split at hpayment
    · rename_i t tenant row htenant hrow
      split at hpayment
      · rename_i hown
        cases hpayment
        obtain rfl : row = inv := Option.some.inj (hrow.symm.trans ha.row)
        exact congrArg some (settleTenantInvoice_accepted htenant hown.1 hown.2 ha hdb').symm
      · cases hpayment
    · cases hpayment
  · cases hpayment

/-- **A refused payment changes nothing.** -/
theorem step_refused (cfg : Settings) (hpay : e.isPayment = true)
    (h : e.accepted db = none) : step cfg e db = db := by
  simp only [Event.isPayment] at hpay
  split at hpay
  · rename_i at_ operator i body
    rw [step_staff]
    split
    · rename_i hpermission
      rcases @payInvoice_spec cfg at_ operator i body db with hdb | ⟨inv, hstatus, ha, -⟩
      · exact hdb
      -- every check has passed, so the payment was accepted
      have hpayment : Event.payment db (.staff at_ operator (.payInvoice i body))
          = some (at_, body.toRow operator i inv) := by
        have hrow : db.invoices[i]? = some inv := ha.row
        replace hpermission : "billing:write" ∈ operator.permissions := hpermission
        simp [Event.payment, hpermission, hrow, hstatus]
      rw [accepted_of_payment hpayment ha] at h
      cases h
    · rfl
  · rename_i at_ svc tenantRef i body
    rcases @settleTenantInvoice_spec cfg at_ tenantRef i body svc db with
      hdb | ⟨t, tenant, inv, htenant, hown, hne, ha, -⟩
    · exact hdb
    have hpayment : Event.payment db (.service at_ svc (.settleTenantInvoice tenantRef i body))
        = some (at_, body.toRow svc t i inv) := by
      have hrow : db.invoices[i]? = some inv := ha.row
      simp [Event.payment, htenant, hrow, hown, hne]
    rw [accepted_of_payment hpayment ha] at h
    cases h
  · cases hpay

theorem settleInvoice_subscriptions {i : ℕ} {inv : SaasInvoice}
    (hrow : db.invoices[i]? = some inv) :
    (settleInvoice cfg now i db).subscriptions
      = match reactivatedSubscription db i inv with
        | some s => db.subscriptions.modify s reactivate
        | none => db.subscriptions := by
  simp only [settleInvoice, hrow]
  split
  · rfl
  · split <;> rfl

theorem reactivatedSubscription_credit (payments : Table SaasPayment)
    (f : SaasInvoice → SaasInvoice) (i : ℕ) (inv : SaasInvoice) (amount : ℤ) :
    reactivatedSubscription { db with payments, invoices := db.invoices.modify i f } i
        { inv with amountPaidMinor := amount }
      = reactivatedSubscription db i inv := by
  have hother : ∀ p, existsOther { db with payments, invoices := db.invoices.modify i f } i p
      = existsOther db i p := @existsOther_modify { db with payments } i f
  simp only [reactivatedSubscription, hother]

/-- **What an accepted payment does to the subscriptions**: in full it reactivates the
one that settlement finds owing nothing else. -/
theorem recordPayment_subscriptions {inv : SaasInvoice} (ha : Accepted db payment inv)
    (h : recordPayment cfg now payment db = some db') :
    db'.subscriptions
      = if inv.amountMinor ≤ inv.amountPaidMinor + payment.amountMinor then
          match reactivatedSubscription db payment.invoiceId inv with
          | some s => db.subscriptions.modify s reactivate
          | none => db.subscriptions
        else db.subscriptions := by
  have hpos : ¬ payment.amountMinor ≤ 0 := Int.not_le.2 ha.positive
  simp only [recordPayment, applyPaymentToInvoice, ha.row, if_neg hpos] at h
  by_cases hfull : inv.amountMinor ≤ inv.amountPaidMinor + payment.amountMinor
  · rw [if_pos hfull] at h ⊢
    rw [← Option.some.inj h]
    have hcredited : (db.invoices.modify payment.invoiceId fun row =>
        { row with amountPaidMinor := row.amountPaidMinor + payment.amountMinor })[
          payment.invoiceId]? = some
        { inv with amountPaidMinor := inv.amountPaidMinor + payment.amountMinor } := by
      simp [ha.row]
    rw [settleInvoice_subscriptions hcredited, reactivatedSubscription_credit]
  rw [if_neg hfull] at h ⊢
  rw [← Option.some.inj h]

end Accepted

/-! ## Paying an invoice off -/

/-- Some accepted payments, one after another, leave the invoice paid. -/
def PaysOff (cfg : Settings) (i : ℕ) (db : Db) : Prop :=
  ∃ es : List Event, Along (step cfg) (fun db e => (e.accepted db).isSome = true) db es
    ∧ ((run (step cfg) db es).invoices[i]?).any (fun inv => inv.status = .paid) = true

def ForNothing (i : ℕ) (db : Db) : Prop :=
  ∃ inv, db.invoices[i]? = some inv ∧ inv.amountMinor ≤ 0 ∧ 0 ≤ inv.amountPaidMinor
    ∧ inv.status ≠ .paid

section PayOff
variable {cfg : Settings} {db : Db} {i : ℕ} {inv : SaasInvoice}

/-- Accepted payments leave an invoice for nothing alone: nothing is outstanding on it. -/
theorem ForNothing.step {e : Event} (h : ForNothing i db) (he : (e.accepted db).isSome = true) :
    ForNothing i (step cfg e db) := by
  obtain ⟨inv, hinv, hamount, hpaid, hstatus⟩ := h
  obtain ⟨⟨now, payment⟩, hacc⟩ := Option.isSome_iff_exists.1 he
  obtain ⟨row, ha⟩ := accepted_row hacc
  obtain ⟨-, hinvoices, -, -⟩ := recordPayment_spec ha.row ha.positive (step_accepted cfg hacc)
  refine ⟨inv, ?_, hamount, hpaid, hstatus⟩
  rw [hinvoices, List.getElem?_modify]
  by_cases hi : payment.invoiceId = i
  · subst hi
    obtain rfl : row = inv := Option.some.inj (ha.row.symm.trans hinv)
    have hpos := ha.positive
    have hle := ha.covered
    simp only [outstanding] at hle
    omega
  · simp [hi, hinv]

theorem not_paysOff (h : ForNothing i db) : ¬ PaysOff cfg i db := by
  rintro ⟨es, hacc, hpaid⟩
  obtain ⟨inv, hinv, -, -, hstatus⟩ :=
    along_invariant (fun _ _ h he => ForNothing.step h he) h hacc
  rw [hinv] at hpaid
  simp [hstatus] at hpaid

/-- An operator who may take payments. -/
def cashier : StaffContext := { id := "1", email := "", permissions := ["billing:write"] }

/-- The operator's payment of everything outstanding on an invoice. -/
def payRest (now : Time) (i : ℕ) (inv : SaasInvoice) : Event :=
  .staff now cashier (.payInvoice i { amountMinor := outstanding inv })

theorem payRest_accepted (now : Time) (hinv : db.invoices[i]? = some inv)
    (howing : owing inv = true) (hlt : inv.amountPaidMinor < inv.amountMinor) :
    (payRest now i inv).accepted db
      = some (now, SaasPaymentCreate.toRow { amountMinor := outstanding inv } cashier i inv) := by
  have hopen : ¬ (inv.status = .void ∨ inv.status = .writtenOff) := by
    rintro (h | h) <;> simp [owing, h] at howing
  have hpayment : (payRest now i inv).payment db
      = some (now, SaasPaymentCreate.toRow { amountMinor := outstanding inv } cashier i inv) := by
    simp [payRest, Event.payment, cashier, hinv, hopen]
  refine accepted_of_payment hpayment ⟨hinv, ?_, le_rfl, fun hne => absurd rfl hne⟩
  show 0 < outstanding inv
  simp only [outstanding]
  omega

/-- Paying the rest leaves the invoice paid. -/
theorem payRest_paid (now : Time) (hinv : db.invoices[i]? = some inv)
    (howing : owing inv = true) (hlt : inv.amountPaidMinor < inv.amountMinor) :
    ((step cfg (payRest now i inv) db).invoices[i]?).any (fun inv => inv.status = .paid)
      = true := by
  have hacc := payRest_accepted now hinv howing hlt
  obtain ⟨row, ha⟩ := accepted_row hacc
  obtain ⟨-, hinvoices, -, -⟩ := recordPayment_spec ha.row ha.positive (step_accepted cfg hacc)
  have hfull : inv.amountMinor ≤ inv.amountPaidMinor + outstanding inv := by
    simp only [outstanding]
    omega
  rw [hinvoices]
  simp [SaasPaymentCreate.toRow, hinv, credited, hfull, markPaid]

/-- **An invoice that is owing can be paid off exactly when it is for a positive
amount.** -/
theorem paysOff_iff (hb : InvoiceBalance inv) (hinv : db.invoices[i]? = some inv)
    (howing : owing inv = true) : PaysOff cfg i db ↔ 0 < inv.amountMinor := by
  cases hb with
  | settled hstatus _ _ => simp [owing, hstatus] at howing
  | owed _ h0 hle hlt =>
    constructor
    · intro hpays
      by_contra hamount
      refine not_paysOff ⟨inv, hinv, Int.not_lt.1 hamount, h0, ?_⟩ hpays
      intro hstatus
      simp [owing, hstatus] at howing
    intro hamount
    have hless := hlt hamount
    refine ⟨[payRest 0 i inv], ⟨?_, trivial⟩, payRest_paid 0 hinv howing hless⟩
    simp only [payRest_accepted 0 hinv howing hless, Option.isSome_some]

end PayOff

theorem owing_of_dunningCandidate {inv : SaasInvoice} (h : dunningCandidate inv = true) :
    owing inv = true := by
  simp only [dunningCandidate, Bool.or_eq_true, decide_eq_true_eq] at h
  rcases h with h | h <;> simp [owing, h]

/-- **Which invoices can be paid off**, in every reachable database: an invoice that is
owing, exactly when it is for a positive amount.  So the invoices for which dunning
suspends a tenant can all be paid off exactly when they are all for positive amounts. -/
theorem paid_off_iff (cfg : Settings) (db : Db) (hreach : Reach cfg db) :
    (∀ (i : ℕ) inv, db.invoices[i]? = some inv → owing inv = true →
      (PaysOff cfg i db ↔ 0 < inv.amountMinor))
    ∧ ∀ (now : Time) (t : ℕ),
      (∀ (i : ℕ) inv, db.invoices[i]? = some inv → dunningCandidate inv = true →
          suspendsTenant now t db inv = true → PaysOff cfg i db)
        ↔ ∀ (i : ℕ) inv, db.invoices[i]? = some inv → dunningCandidate inv = true →
          suspendsTenant now t db inv = true → 0 < inv.amountMinor := by
  have hpays : ∀ (i : ℕ) inv, db.invoices[i]? = some inv → owing inv = true →
      (PaysOff cfg i db ↔ 0 < inv.amountMinor) := by
    intro i inv hinv howing
    exact paysOff_iff (hreach.books.ledger.status inv (List.mem_of_getElem? hinv)) hinv howing
  refine ⟨hpays, ?_⟩
  intro now t
  refine forall₂_congr fun i inv => forall₃_congr fun hinv hcandidate _ => ?_
  exact hpays i inv hinv (owing_of_dunningCandidate hcandidate)

/-- A school on a plan that costs nothing, warned twice about its first invoice. -/
def Example.freePlan : List Event :=
  [.catalogue [{ basicPlan with monthlyPriceMinor := 0 }] [],
   .staff (day 0) operator (.createTenant { externalId := "s", slug := "s", name := "School" }),
   .staff (day 0) operator (.createInvoice { tenantId := 0 }),
   .stage (day 20) .dunning, .stage (day 21) .dunning]

/-- The invoices of the school on the basic plan can be paid off. -/
theorem paid_off_iff_example :
    PaysOff Example.settings 0 (run (step Example.settings) {} Example.opened) := by
  obtain ⟨hrows, -⟩ := paid_off_iff Example.settings
    (run (step Example.settings) {} Example.opened) ⟨Example.opened, rfl⟩
  have hrow : ∃ inv, (run (step Example.settings) {} Example.opened).invoices[0]? = some inv
      ∧ owing inv = true ∧ 0 < inv.amountMinor := by
    refine ⟨_, rfl, ?_, ?_⟩ <;> decide
  obtain ⟨inv, hinv, howing, hamount⟩ := hrow
  exact (hrows 0 inv hinv howing).2 hamount

/-- Not every invoice dunning suspends for can be paid off: on day 28 the school on the
free plan is suspended for an invoice of nothing. -/
theorem not_dunned_payable :
    ¬ ∀ (cfg : Settings) (db : Db), Reach cfg db → ∀ (now : Time) (t i : ℕ) inv,
      db.invoices[i]? = some inv → dunningCandidate inv = true →
      suspendsTenant now t db inv = true → PaysOff cfg i db := by
  intro h
  have hrow : ∃ inv, (run (step Example.settings) {} Example.freePlan).invoices[0]? = some inv
      ∧ dunningCandidate inv = true
      ∧ suspendsTenant (Example.day 28) 0 (run (step Example.settings) {} Example.freePlan) inv
        = true
      ∧ inv.amountMinor = 0 ∧ inv.amountPaidMinor = 0 ∧ inv.status = .pastDue := by
    refine ⟨_, rfl, ?_, ?_, ?_, ?_, ?_⟩ <;> decide
  obtain ⟨inv, hinv, hcandidate, hsuspends, hamount, hpaid, hstatus⟩ := hrow
  refine not_paysOff ⟨inv, hinv, hamount.le, hpaid.ge, ?_⟩
    (h Example.settings _ ⟨Example.freePlan, rfl⟩ (Example.day 28) 0 0 inv hinv hcandidate
      hsuspends)
  rw [hstatus]
  decide

end MultiAcademy.Control
