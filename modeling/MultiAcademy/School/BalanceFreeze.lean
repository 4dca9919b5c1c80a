import MultiAcademy.School.InvoiceBalance

/-!
# Balances and the freeze

`financial/balance-freeze.service.ts` adds up a student's outstanding invoices and what was
paid in advance, and freezes the portal when the one exceeds the other.  It reads the status
of an invoice, and not the payments.

An invoice whose status says so much is either wholly unpaid or wholly paid.  As long as every
request leaves it so, the sum is what is still owed.
-/

namespace MultiAcademy.School

open MultiAcademy.Lib

/-! ## The balances -/

/-- `status IN ('unpaid', 'partial')`. -/
def InvoiceStatus.outstanding (status : InvoiceStatus) : Bool :=
  status = .unpaid || status = .partiallyPaid

/-- `SUM(amount) … WHERE student_id = ? AND status IN ('unpaid', 'partial')`. -/
def arrears (studentId : String) (db : FeeDb) : ℤ :=
  db.invoices.total (fun row => row.studentId = studentId && row.status.outstanding) (·.amount)

/-- `StudentBalanceSnapshot`. -/
structure StudentBalance where
  studentId : String
  arrears : ℤ
  prepaidCredits : ℤ
  netBalance : ℤ
  hasArrears : Bool
  frozen : Bool
  message : Option String
  deriving DecidableEq

/-- `computeStudentBalance`; the flag is `fees.balance_freeze`. -/
def computeStudentBalance (freezeEnabled : Bool) (studentId : String) (db : FeeDb) :
    StudentBalance :=
  let arrears := arrears studentId db
  let prepaidCredits := advanceCredit studentId db
  let netBalance := prepaidCredits - arrears
  let hasArrears := 0 < arrears && netBalance < 0
  let frozen := freezeEnabled && hasArrears
  { studentId, arrears, prepaidCredits, netBalance, hasArrears, frozen
    message :=
      if frozen then
        some ("Portal access is restricted due to outstanding fee arrears. "
          ++ "Please settle balances to continue.")
      else none }

structure ParentBalance where
  frozen : Bool
  message : Option String
  wards : List StudentBalance
  deriving DecidableEq

/-- `computeParentBalance`, of the students that the parent is linked to. -/
def computeParentBalance (freezeEnabled : Bool) (wardIds : List String) (db : FeeDb) :
    ParentBalance :=
  let wards := wardIds.map fun studentId => computeStudentBalance freezeEnabled studentId db
  let frozen := wards.any StudentBalance.frozen
  { frozen, wards
    message :=
      if frozen then
        some ("One or more wards have outstanding fee arrears. "
          ++ "Some portal actions are restricted until fees are settled.")
      else none }

/-! ## What is owed -/

variable (row : FeeInvoice)

/-- The invoice stands, and is not paid off. -/
def FeeInvoice.unsettled (paid : ℤ) : Bool :=
  row.status ≠ .cancelled && paid < row.amount

def FeeInvoice.owed (paid : ℤ) : ℤ :=
  if row.unsettled paid then row.amount - paid else 0

/-- What a student still owes: over the unsettled invoices, the amount minus the completed
payments. -/
def owedBy (studentId : String) (db : FeeDb) : ℤ :=
  db.invoices.sumIdx fun i row =>
    if row.studentId = studentId then row.owed (paidAmount i db) else 0

/-- The balance of a student is what the student owes, and with the freeze on the student is
frozen when that exceeds the advance credits. -/
structure BalanceRight (db : FeeDb) (studentId : String) (freezeEnabled : Bool) : Prop where
  arrears : (computeStudentBalance freezeEnabled studentId db).arrears = owedBy studentId db
  frozen : (computeStudentBalance freezeEnabled studentId db).frozen = true
    ↔ freezeEnabled = true
      ∧ (computeStudentBalance freezeEnabled studentId db).prepaidCredits < owedBy studentId db

/-- A request that pays some of an unsettled invoice lowers the arrears of its student. -/
def PaymentLowers (db : FeeDb) (e : FeeEvent) : Prop :=
  ∀ i, ∀ row ∈ db.invoices[i]?, row.unsettled (paidAmount i db) = true →
    paidAmount i db < paidAmount i (feeStep e db) →
      arrears row.studentId (feeStep e db) < arrears row.studentId db

def FeeInvoice.AllOrNothing (paid : ℤ) : Prop :=
  (row.status.outstanding = true → paid = 0) ∧ (row.status = .paid → row.amount ≤ paid)

instance (row : FeeInvoice) (paid : ℤ) : Decidable (row.AllOrNothing paid) :=
  inferInstanceAs (Decidable (_ ∧ _))

/-- The request leaves invoice `i` with nothing or all of it paid, and a status that says which:
a payment covers it, an invoice is not created paid, an edit or the deletion of a payment leaves
no other status or amount. -/
def PaysOff (i : ℕ) (db : FeeDb) : FeeEvent → Prop
  | .createInvoice body => i = db.invoices.nextId → body.row.status ≠ .paid
  | .updateInvoice id body =>
    id = i → ∀ row ∈ db.invoices[i]?, (body.apply row).AllOrNothing (paidAmount i db)
  | .createPayment body _ =>
    (checkPayment body db).toOption = some (some i) → ∀ row ∈ db.invoices[i]?,
      paidWith i body db = 0 ∨ row.amount ≤ paidWith i body db
  | .deletePayment id =>
    ∀ payment ∈ db.payments[id]?, payment.status = .completed → payment.invoiceId = some i →
      ∀ row ∈ db.invoices[i]?, row.AllOrNothing (paidAmount i db - payment.amount)
  | .createCheckout _ _ _ _ | .createInstallmentPlan _ => True
  | .settle source env reply =>
    ∀ job ∈ settles source env reply db, job.session.invoiceId = some i →
      ∀ row ∈ db.invoices[i]?,
        if job.covers i db then row.amount ≤ paidAmount i db + job.session.amount
        else row.AllOrNothing (paidAmount i db + job.session.amount)

variable {db db' : FeeDb} {i : ℕ} {e : FeeEvent}

/-! ## One invoice -/

def FeeInvoice.counted : ℤ := if row.status.outstanding then row.amount else 0

/-- **An invoice counts for what is owed of it exactly when nothing or all of it is paid.** -/
theorem FeeInvoice.counted_eq_owed_iff {row : FeeInvoice} {paid : ℤ}
    (hamount : 0 < row.amount) : row.counted = row.owed paid ↔ row.AllOrNothing paid := by
  unfold FeeInvoice.counted FeeInvoice.owed FeeInvoice.unsettled FeeInvoice.AllOrNothing
  cases hstatus : row.status with
  | unpaid | partiallyPaid =>
    by_cases hless : paid < row.amount
    · simp [InvoiceStatus.outstanding, hless]
      omega
    simp [InvoiceStatus.outstanding, hless]
    omega
  | paid =>
    by_cases hless : paid < row.amount
    · simp [InvoiceStatus.outstanding, hless]
      omega
    simp [InvoiceStatus.outstanding, hless]
    omega
  | cancelled => simp [InvoiceStatus.outstanding]

/-- The status `createPayment` computes says that nothing or all is paid, if that is so. -/
theorem allOrNothing_rowWith {body : PaymentBody} {recordedBy : String} {row : FeeInvoice}
    (hpaid : 0 ≤ paidWith i body db) :
    (rowWith i body recordedBy db row).AllOrNothing (paidWith i body db)
      ↔ paidWith i body db = 0 ∨ row.amount ≤ paidWith i body db := by
  simp only [rowWith, FeeInvoice.AllOrNothing, invoiceStatus]
  split
  · split
    · simp [InvoiceStatus.outstanding]
      omega
    simp [InvoiceStatus.outstanding]
    omega
  split
  · simp [InvoiceStatus.outstanding]
    omega
  simp [InvoiceStatus.outstanding]
  omega

/-- A request leaves nothing or all of the invoice paid exactly when it pays it off. -/
theorem keepsAt_allOrNothing_iff (hl : Linked db) :
    KeepsAt FeeInvoice.AllOrNothing i db e ↔ PaysOff i db e := by
  cases e with
  | createInvoice body =>
    have hpositive : 0 < body.row.amount := body.positive
    simp only [KeepsAt, PaysOff, FeeInvoice.AllOrNothing, implies_true, true_and]
    refine imp_congr_right fun _ => ⟨fun h hpaid => ?_, fun h hpaid => absurd hpaid h⟩
    have := h hpaid
    omega
  | createPayment body recordedBy =>
    simp only [KeepsAt, PaysOff]
    refine imp_congr_right fun _ => forall₂_congr fun row _ => ?_
    exact allOrNothing_rowWith (paidWith_nonneg hl body)
  | settle source env reply =>
    simp only [KeepsAt, PaysOff]
    refine forall₃_congr fun job _ _ => forall₂_congr fun row _ => ?_
    split
    · simp [FeeInvoice.AllOrNothing, InvoiceStatus.outstanding]
    · exact Iff.rfl
  | updateInvoice | deletePayment | createCheckout | createInstallmentPlan => exact Iff.rfl

/-- A request pays on one invoice at most. -/
theorem exists_paysOff_others (db : FeeDb) (e : FeeEvent) : ∃ j, ∀ i, i ≠ j → PaysOff i db e := by
  have hone : ∀ invoiceId : Option ℕ, ∃ j, ∀ i, i ≠ j → invoiceId ≠ some i := fun invoiceId => by
    cases invoiceId with
    | none => exact ⟨0, fun _ _ => nofun⟩
    | some j => exact ⟨j, fun i hi h => hi (Option.some.inj h).symm⟩
  cases e with
  | createInvoice body => exact ⟨db.invoices.nextId, fun i hi h => absurd h hi⟩
  | updateInvoice id body => exact ⟨id, fun i hi h => absurd h.symm hi⟩
  | createPayment body recordedBy =>
    obtain ⟨j, hj⟩ := hone (checkPayment body db).toOption.join
    refine ⟨j, fun i hi h => absurd ?_ (hj i hi)⟩
    rw [h, Option.join_some]
  | deletePayment id =>
    obtain ⟨j, hj⟩ := hone (db.payments[id]?.bind FeePayment.invoiceId)
    refine ⟨j, fun i hi payment hpayment _ h => absurd ?_ (hj i hi)⟩
    rw [Option.mem_def.1 hpayment, Option.bind_some, h]
  | createCheckout | createInstallmentPlan => exact ⟨0, fun _ _ => trivial⟩
  | settle source env reply =>
    obtain ⟨j, hj⟩ := hone ((settles source env reply db).bind fun job => job.session.invoiceId)
    refine ⟨j, fun i hi job hjob h => absurd ?_ (hj i hi)⟩
    rw [Option.mem_def.1 hjob, Option.bind_some, h]

/-! ## The sum -/

/-- Nothing or all of invoice `i` is paid, when there is one, and its status says which. -/
abbrev AllOrNothingAt (i : ℕ) (db : FeeDb) : Prop := AtInvoice FeeInvoice.AllOrNothing i db

theorem arrears_eq (studentId : String) (db : FeeDb) : arrears studentId db
    = db.invoices.sumIdx fun _ row => if row.studentId = studentId then row.counted else 0 := by
  rw [arrears, Table.total_eq_sumIdx]
  refine Table.sumIdx_congr fun i row _ => ?_
  by_cases hstudent : row.studentId = studentId
  · simp [hstudent, FeeInvoice.counted]
  · simp [hstudent]

/-- When one invoice at most is paid in part, the balances of its student tell. -/
theorem allOrNothingAt_of_arrears {j : ℕ} (hamounts : ∀ row ∈ db.invoices, 0 < row.amount)
    (hothers : ∀ i, i ≠ j → AllOrNothingAt i db)
    (hbalance : ∀ studentId, arrears studentId db = owedBy studentId db) (i : ℕ) :
    AllOrNothingAt i db := by
  by_cases hi : i = j
  · subst hi
    intro row hrow
    have hamount : ∀ {k : ℕ} {row' : FeeInvoice}, db.invoices[k]? = some row' → 0 < row'.amount :=
      fun h => hamounts _ (List.mem_of_getElem? h)
    have hsum := hbalance row.studentId
    rw [arrears_eq, owedBy, Table.sumIdx_eq_iff i] at hsum
    · have hterm := hsum row hrow
      rw [if_pos rfl, if_pos rfl] at hterm
      exact (FeeInvoice.counted_eq_owed_iff (hamount hrow)).1 hterm
    intro k row' hk hrow'
    rw [(FeeInvoice.counted_eq_owed_iff (hamount hrow')).2 (hothers k hk row' hrow')]
  · exact hothers i hi

/-- **When of every invoice nothing or all is paid, the arrears are what is owed.** -/
theorem arrears_eq_owedBy (hamounts : ∀ row ∈ db.invoices, 0 < row.amount)
    (h : ∀ i, AllOrNothingAt i db) (studentId : String) :
    arrears studentId db = owedBy studentId db := by
  rw [arrears_eq, owedBy]
  refine Table.sumIdx_congr fun i row hrow => ?_
  have hamount : 0 < row.amount := hamounts row (List.mem_of_getElem? hrow)
  rw [(FeeInvoice.counted_eq_owed_iff hamount).2 (h i row hrow)]

/-! ## Amounts -/

/-- Invoices have an amount, and credits none below zero. -/
structure AmountsOk (db : FeeDb) : Prop where
  linked : Linked db
  invoices : ∀ row ∈ db.invoices, 0 < row.amount
  credits : ∀ row ∈ db.credits, 0 ≤ row.amount

theorem amountsOk_empty : AmountsOk {} := ⟨linked_empty, by simp, by simp⟩

theorem feeStep_amounts (hl : Linked db) (h : ∀ row ∈ db.invoices, 0 < row.amount) :
    ∀ row ∈ (feeStep e db).invoices, 0 < row.amount := by
  have hat : ∀ i, AtInvoice (fun row _ => 0 < row.amount) i db :=
    fun i row hrow => h row (List.mem_of_getElem? hrow)
  intro row hrow
  obtain ⟨i, hi⟩ := List.mem_iff_getElem?.1 hrow
  refine (feeStep_atInvoice (fun _ _ _ h => h) hl (hat i)).2 ?_ row hi
  cases e with
  | createInvoice body => exact fun _ => body.positive
  | updateInvoice id body =>
    intro _ row hrow
    cases hamount : body.amount with
    | none => simpa [InvoiceUpdate.apply, hamount] using hat i row hrow
    | some amount => simpa [InvoiceUpdate.apply, hamount] using body.positive amount hamount
  | createPayment body recordedBy => exact fun _ row hrow => hat i row hrow
  | deletePayment id => exact fun _ _ _ _ row hrow => hat i row hrow
  | createCheckout | createInstallmentPlan => trivial
  | settle source env reply =>
    intro job _ _ row hrow
    split
    · exact hat i row hrow
    · exact hat i row hrow

/-- The settlement a call is about is for an amount. -/
def SettlePhase.Positive : SettlePhase → Prop
  | .checking job | .inserting job | .paid _ job _ => 0 < job.session.amount
  | _ => True

/-- No credit is below zero, and none will be. -/
def CreditsOk (x : SettlePhase × FeeDb) : Prop :=
  (∀ row ∈ x.2.credits, 0 ≤ row.amount) ∧ x.1.Positive

theorem chargeSaas_positive (sid : ℕ) (session : CheckoutSession) (amountMinor : ℤ)
    (providerId providerReference : String) :
    (chargeSaas sid session amountMinor providerId providerReference).Positive := by
  simp only [chargeSaas]
  split <;> trivial

theorem readSession_positive (input : SettleInput) (db : FeeDb) :
    (readSession input db).Positive := by
  simp only [readSession]
  split
  · trivial
  split
  · trivial
  split
  · trivial
  rename_i hamount
  rw [not_or, not_le, not_not] at hamount
  split
  · trivial
  split
  · exact chargeSaas_positive _ _ _ _ _
  change 0 < _
  exact hamount.2 ▸ hamount.1

theorem verified_positive (reference : String) (session : Option (ℕ × CheckoutSession))
    (verification : PaymentVerification) : (verified reference session verification).Positive := by
  unfold verified
  split
  · trivial
  simp only
  split
  · exact chargeSaas_positive _ _ _ _ _
  · trivial

theorem creditsOk_paidStep {stage : Stage} {job : Settlement} {paymentId : ℕ}
    (hcredits : ∀ row ∈ db.credits, 0 ≤ row.amount) (hjob : 0 < job.session.amount) :
    CreditsOk (paidStep stage job paymentId db) := by
  have hinstallment : (afterInstallment job paymentId).Positive := by
    simp only [afterInstallment]
    split
    · exact hjob
    · trivial
  have hinvoice : (afterInvoice job paymentId).Positive := by
    simp only [afterInvoice]
    split
    · exact hjob
    · exact hinstallment
  cases stage with
  | session =>
    refine ⟨hcredits, ?_⟩
    simp only [paidStep, afterSession]
    split
    · exact hjob
    · exact hinvoice
  | balance =>
    simp only [paidStep]
    split <;> exact ⟨hcredits, hjob⟩
  | invoice =>
    refine ⟨?_, hjob⟩
    simp only [paidStep]
    cases job.session.invoiceId <;> exact hcredits
  | reminders =>
    refine ⟨?_, hinvoice⟩
    simp only [paidStep]
    cases job.session.invoiceId <;> exact hcredits
  | installment =>
    refine ⟨?_, hinstallment⟩
    simp only [paidStep]
    cases job.session.installmentId <;> exact hcredits
  | credit => exact ⟨Table.forall_mem_insert.2 ⟨hcredits, hjob.le⟩, trivial⟩

theorem creditsOk_settleStep (env : GatewayEnv) (reply : Reply) (x : SettlePhase × FeeDb)
    (h : CreditsOk x) : CreditsOk (settleStep env reply x.1 x.2) := by
  obtain ⟨phase, db⟩ := x
  obtain ⟨hcredits, hjob⟩ := h
  cases phase with
  | lookup reference =>
    simp only [settleStep]
    split <;> exact ⟨hcredits, trivial⟩
  | verifying reference session =>
    simp only [settleStep]
    split
    · exact ⟨hcredits, trivial⟩
    · exact ⟨hcredits, verified_positive _ _ _⟩
  | reading input => exact ⟨hcredits, readSession_positive input db⟩
  | charging saas =>
    simp only [settleStep]
    split <;> exact ⟨hcredits, trivial⟩
  | closing sessionId providerReference receipt => exact ⟨hcredits, trivial⟩
  | checking job =>
    simp only [settleStep]
    split
    · exact ⟨hcredits, trivial⟩
    · exact ⟨hcredits, hjob⟩
  | inserting job =>
    simp only [settleStep]
    split
    · exact ⟨hcredits, trivial⟩
    · exact ⟨hcredits, hjob⟩
  | paid stage job paymentId => exact creditsOk_paidStep hcredits hjob
  | answered status receipt => exact ⟨hcredits, trivial⟩
  | failed status message => exact ⟨hcredits, trivial⟩

theorem start_positive (source : Source) : source.start.Positive := by
  cases source with
  | verify reference => trivial
  | webhook providerId gatewayId result =>
    simp only [Source.start, webhookPhase]
    split
    · trivial
    · split <;> trivial

theorem feeStep_credits (h : ∀ row ∈ db.credits, 0 ≤ row.amount) :
    ∀ row ∈ (feeStep e db).credits, 0 ≤ row.amount := by
  cases e with
  | createInvoice body => exact h
  | updateInvoice id body =>
    simp only [feeStep, updateInvoice]
    split
    · exact h
    · split <;> exact h
  | createPayment body recordedBy =>
    simp only [feeStep, createPayment]
    cases checkPayment body db with
    | error error => exact h
    | ok invoiceId =>
      have hinserted : (insertPayment body invoiceId recordedBy db).credits = db.credits := by
        simp only [insertPayment]
        cases body.installmentId <;> rfl
      cases invoiceId with
      | none =>
        change ∀ row ∈ (insertPayment body none recordedBy db).credits, _
        rw [hinserted]
        exact h
      | some j =>
        change ∀ row ∈ (recompute j (insertPayment body (some j) recordedBy db)).credits, _
        simp only [recompute]
        split
        · exact hinserted ▸ h
        · exact hinserted ▸ h
  | deletePayment id => exact h
  | createCheckout flags reference provider body =>
    simp only [feeStep]
    cases hcheckout : createCheckout flags reference provider body db with
    | error error => exact h
    | ok written =>
      obtain ⟨row, -, -, rfl⟩ := createCheckout_ok hcheckout
      exact h
  | createInstallmentPlan body =>
    simp only [feeStep, createInstallmentPlan]
    split
    · exact h
    split
    · exact h
    split
    · exact h
    · split <;> exact h
  | settle source env reply =>
    exact (settleFor_invariant (I := CreditsOk) (creditsOk_settleStep env reply)
      (x := (source.start, db)) ⟨h, start_positive source⟩ 11).1

theorem amountsOk_step (h : AmountsOk db) : AmountsOk (feeStep e db) where
  linked := feeStep_linked h.linked
  invoices := feeStep_amounts h.linked h.invoices
  credits := feeStep_credits h.credits

/-! ## One request -/

/-- A request that adds to what is paid on an invoice rewrites its status alone. -/
theorem modify_of_paid (hl : Linked db)
    (hmore : paidAmount i db < paidAmount i (feeStep e db)) :
    ∃ f : FeeInvoice → FeeInvoice, (feeStep e db).invoices = db.invoices.modify i f
      ∧ ∀ row, (f row).studentId = row.studentId := by
  cases e with
  | createInvoice body => exact absurd hmore (lt_irrefl _)
  | updateInvoice id body =>
    refine absurd hmore (not_lt.2 (paidAmount_congr ?_ i).le)
    simp only [feeStep, updateInvoice]
    split
    · rfl
    · split <;> rfl
  | createPayment body recordedBy =>
    simp only [feeStep, createPayment] at hmore ⊢
    cases hcheck : checkPayment body db with
    | error error =>
      rw [hcheck] at hmore
      exact absurd hmore (lt_irrefl _)
    | ok invoiceId =>
      rw [hcheck] at hmore
      set inserted := insertPayment body invoiceId recordedBy db with hinserted
      change paidAmount i db
        < paidAmount i (invoiceId.elim inserted fun j => recompute j inserted) at hmore
      have hpayments : (invoiceId.elim inserted fun j => recompute j inserted).payments
          = db.payments.insert (body.row invoiceId recordedBy) := by
        cases invoiceId with
        | none => exact insertPayment_payments body none recordedBy db
        | some j =>
          exact (recompute_payments j inserted).trans
            (insertPayment_payments body (some j) recordedBy db)
      have hpaid := paidAmount_insert hpayments i
      by_cases hi : invoiceId = some i
      · subst hi
        have hinvoices := recompute_invoices i inserted
        rw [show inserted.invoices = db.invoices from insertPayment_invoices _ _ _ _]
          at hinvoices
        exact ⟨_, hinvoices, fun _ => rfl⟩
      rw [if_neg (fun h => hi h.1), add_zero] at hpaid
      omega
  | deletePayment id => exact absurd hmore (not_lt.2 (paidAmount_deletePayment_le hl id))
  | createCheckout flags reference provider body =>
    refine absurd hmore (not_lt.2 (paidAmount_congr ?_ i).le)
    simp only [feeStep]
    cases hcheckout : createCheckout flags reference provider body db with
    | error error => rfl
    | ok written =>
      obtain ⟨row, -, -, rfl⟩ := createCheckout_ok hcheckout
      rfl
  | createInstallmentPlan body =>
    refine absurd hmore (not_lt.2 (paidAmount_congr ?_ i).le)
    simp only [feeStep]
    rcases createInstallmentPlan_cases body db with hsame | ⟨id, -, hpayments, -⟩
    · rw [hsame]
    · exact hpayments
  | settle source env reply =>
    rcases settlement_cases source env reply db with
      ⟨-, hsame⟩ | ⟨job, -, -, hpayments, hinvoices⟩
    · exact absurd hmore (not_lt.2 (paidAmount_congr hsame.1 i).le)
    have hpaid := paidAmount_insert hpayments i
    by_cases hi : job.session.invoiceId = some i
    · refine ⟨_, hinvoices.trans (payInvoice_eq hi), fun row => ?_⟩
      split <;> rfl
    rw [if_neg (fun h => hi h.1), add_zero] at hpaid
    exact absurd hmore (not_lt.2 hpaid.le)

/-- **A payment that pays off an invoice lowers the arrears.** -/
theorem paymentLowers_of (hok : AmountsOk db) (h : ∀ i, AllOrNothingAt i db)
    (hnext : ∀ i, AllOrNothingAt i (feeStep e db)) : PaymentLowers db e := by
  intro i row hrow hunsettled hmore
  obtain ⟨f, hinvoices, hstudent⟩ := modify_of_paid hok.linked hmore
  have hamount : 0 < row.amount := hok.invoices row (List.mem_of_getElem? hrow)
  have hpaid : 0 ≤ paidAmount i db := paidAmount_nonneg hok.linked i
  have hbefore : row.status.outstanding = true := by
    simp only [FeeInvoice.unsettled, Bool.and_eq_true, decide_eq_true_eq] at hunsettled
    have hcovered := (h i row hrow).2
    cases hstatus : row.status with
    | unpaid | partiallyPaid => rfl
    | paid =>
      have hle := hcovered hstatus
      omega
    | cancelled => exact absurd hstatus hunsettled.1
  have hafter : (f row).status.outstanding = false := by
    have hat := (atInvoice_modify hinvoices).1 (hnext i) row hrow
    cases houtstanding : (f row).status.outstanding with
    | false => rfl
    | true =>
      have hzero := hat.1 houtstanding
      omega
  rw [arrears, arrears, hinvoices, Table.total_modify hrow]
  simp [hbefore, hafter, hamount]

theorem balanceRight_of (hok : AmountsOk db) {studentId : String} {freezeEnabled : Bool}
    (h : arrears studentId db = owedBy studentId db) :
    BalanceRight db studentId freezeEnabled := by
  have hcredits : 0 ≤ advanceCredit studentId db :=
    Table.total_nonneg fun row hrow _ => hok.credits row hrow
  refine ⟨h, ?_⟩
  simp only [computeStudentBalance, h, Bool.and_eq_true, decide_eq_true_eq]
  refine and_congr_right fun _ => ?_
  omega

theorem allOrNothingAt_step_iff (hok : AmountsOk db) (h : AllOrNothingAt i db) :
    AllOrNothingAt i (feeStep e db) ↔ PaysOff i db e :=
  (feeStep_atInvoice (fun _ _ _ h => h) hok.linked h).trans (keepsAt_allOrNothing_iff hok.linked)

theorem allOrNothingAt_next (hok : AmountsOk db) (h : ∀ i, AllOrNothingAt i db)
    (hbalance : ∀ studentId, arrears studentId (feeStep e db) = owedBy studentId (feeStep e db)) :
    ∀ i, AllOrNothingAt i (feeStep e db) := by
  obtain ⟨j, hj⟩ := exists_paysOff_others db e
  refine allOrNothingAt_of_arrears (j := j) (amountsOk_step hok).invoices ?_ hbalance
  exact fun k hk => (allOrNothingAt_step_iff hok (h k)).2 (hj k hk)

/-- **A request keeps every balance right exactly when it pays off what it pays on.** -/
theorem balanceRight_step (hok : AmountsOk db) (h : ∀ i, AllOrNothingAt i db) :
    (∀ studentId freezeEnabled, BalanceRight (feeStep e db) studentId freezeEnabled)
        ∧ PaymentLowers db e
      ↔ ∀ i, PaysOff i db e := by
  have hok' : AmountsOk (feeStep e db) := amountsOk_step hok
  constructor
  · rintro ⟨hbalance, -⟩ i
    refine (allOrNothingAt_step_iff hok (h i)).1 (allOrNothingAt_next hok h ?_ i)
    exact fun studentId => (hbalance studentId true).arrears
  intro hpays
  have hnext : ∀ i, AllOrNothingAt i (feeStep e db) := fun i =>
    (allOrNothingAt_step_iff hok (h i)).2 (hpays i)
  refine ⟨fun studentId _ => balanceRight_of hok' ?_, paymentLowers_of hok h hnext⟩
  exact arrears_eq_owedBy hok'.invoices hnext studentId

/-! ## Runs -/

/-- **A student's balance is what is still owed exactly as long as every payment pays an invoice
off.**  Along every run of requests, one after another: the arrears are the amounts of the
unsettled invoices minus their completed payments, a student is frozen when they exceed the
credits, and every payment of an unsettled invoice lowers them. -/
theorem student_balance_iff (es : List FeeEvent) :
    (∀ pre, pre <+: es →
        ∀ studentId freezeEnabled, BalanceRight (run feeStep {} pre) studentId freezeEnabled)
      ∧ Along feeStep PaymentLowers {} es
      ↔ Along feeStep (fun db e => ∀ i, PaysOff i db e) {} es := by
  refine along_iff_throughout_and
    (I := fun db => ∀ studentId freezeEnabled, BalanceRight db studentId freezeEnabled)
    (J := fun db => AmountsOk db
      ∧ ((∀ studentId freezeEnabled, BalanceRight db studentId freezeEnabled) →
        ∀ i, AllOrNothingAt i db)) ?_ ?_ ?_ ?_
  · intro db e hright ⟨hok, h⟩
    refine ⟨amountsOk_step hok, fun hnext => allOrNothingAt_next hok (h hright) ?_⟩
    exact fun studentId => (hnext studentId true).arrears
  · intro db e hright ⟨hok, h⟩
    exact balanceRight_step hok (h hright)
  · intro studentId freezeEnabled
    exact balanceRight_of amountsOk_empty rfl
  refine ⟨amountsOk_empty, fun _ i row hrow => ?_⟩
  cases hrow

/-! ## A payment of a part -/

/-- Twenty of fifty thousand are paid at the office, and the balance is still fifty. -/
theorem not_student_balance :
    ¬ ∀ studentId freezeEnabled,
      BalanceRight (run feeStep {} [.createInvoice Example.fees, Example.firstHalf])
        studentId freezeEnabled := by
  intro h
  have harrears := (h "student-1" true).arrears
  revert harrears
  decide

end MultiAcademy.School
