import MultiAcademy.Lib.Fallible
import MultiAcademy.School.SettlementMoney

/-!
# The status of a school invoice and the money

`createPayment` computes an invoice's status from its completed payments; the other
requests leave it, set it as they are told, or look at the checkout sessions only.  So the
status follows the money from a request that puts it there, along the requests that agree.
-/

namespace MultiAcademy.School

open MultiAcademy.Lib

/-- An invoice with a positive amount is paid, or partly paid, as the paid amount says. -/
def FeeInvoice.Fits (row : FeeInvoice) (paid : ℤ) : Prop :=
  0 < row.amount →
    (row.status = .paid ↔ row.amount ≤ paid)
      ∧ (row.status = .partiallyPaid ↔ 0 < paid ∧ paid < row.amount)

instance (row : FeeInvoice) (paid : ℤ) : Decidable (row.Fits paid) :=
  inferInstanceAs (Decidable (_ → _))

/-- The status of invoice `i`, when there is one, is a function of the money. -/
def FitsAt (i : ℕ) (db : FeeDb) : Prop := ∀ row ∈ db.invoices[i]?, row.Fits (paidAmount i db)

/-- Foreign keys name invoices that exist, and no payment is negative. -/
structure Linked (db : FeeDb) : Prop where
  payments : ∀ row ∈ db.payments, ∀ i ∈ row.invoiceId, i < db.invoices.length
  plans : ∀ row ∈ db.plans, ∀ i ∈ row.invoiceId, i < db.invoices.length
  sessions : ∀ row ∈ db.sessions, row.kind ≠ .saasSubscription →
    ∀ i ∈ row.invoiceId, i < db.invoices.length
  amounts : ∀ row ∈ db.payments, 0 ≤ row.amount

/-! ## Requests and the money of an invoice -/

/-- The request opens invoice `i`, neither paid nor partly paid, or records a completed
payment of it. -/
def Starts (i : ℕ) (db : FeeDb) : FeeEvent → Prop
  | .createInvoice body =>
    i = db.invoices.nextId ∧ body.row.status ≠ .paid ∧ body.row.status ≠ .partiallyPaid
  | .createPayment body _ =>
    body.recorded = .completed ∧ (checkPayment body db).toOption = some (some i)
  | _ => False

/-- The status and the amount that a request gives invoice `i`, or leaves it with, agree
with its completed payments. -/
def AgreesAt (i : ℕ) (db : FeeDb) : FeeEvent → Prop
  | .createInvoice body => i = db.invoices.nextId → body.row.Fits 0
  | .updateInvoice id body =>
    id = i → ∀ row ∈ db.invoices[i]?, (body.apply row).Fits (paidAmount i db)
  | .createPayment body recordedBy =>
    -- a payment that is not completed, on an invoice with nothing paid or pending
    body.recorded = .completed ∨
      ((checkPayment body db).toOption = some (some i) → ∀ row ∈ db.invoices[i]?,
        0 < row.amount →
          0 < paidAmount i db ∨ 0 < pendingCount i (insertPayment body (some i) recordedBy db))
  | .deletePayment id =>
    ∀ payment ∈ db.payments[id]?, payment.status = .completed → payment.invoiceId = some i →
      ∀ row ∈ db.invoices[i]?, row.Fits (paidAmount i db - payment.amount)
  | .createCheckout _ _ _ _ | .createInstallmentPlan _ => True
  | .settle source env reply =>
    ∀ job ∈ settles source env reply db, job.session.invoiceId = some i →
      ∀ row ∈ db.invoices[i]?,
        if job.covers i db then 0 < row.amount → row.amount ≤ paidAmount i db + job.session.amount
        else row.Fits (paidAmount i db + job.session.amount)

instance AgreesAt.decidable (i : ℕ) (db : FeeDb) : ∀ e, Decidable (AgreesAt i db e)
  | .createInvoice _ => inferInstanceAs (Decidable (_ → _))
  | .updateInvoice id body =>
    inferInstanceAs (Decidable
      (id = i → ∀ row ∈ db.invoices[i]?, (body.apply row).Fits (paidAmount i db)))
  | .createPayment _ _ => inferInstanceAs (Decidable (_ ∨ _))
  | .deletePayment id =>
    inferInstanceAs (Decidable (∀ payment ∈ db.payments[id]?, payment.status = .completed →
      payment.invoiceId = some i →
        ∀ row ∈ db.invoices[i]?, row.Fits (paidAmount i db - payment.amount)))
  | .createCheckout _ _ _ _ | .createInstallmentPlan _ => inferInstanceAs (Decidable True)
  | .settle source env reply =>
    inferInstanceAs (Decidable (∀ job ∈ settles source env reply db,
      job.session.invoiceId = some i → ∀ row ∈ db.invoices[i]?,
        if job.covers i db then 0 < row.amount → row.amount ≤ paidAmount i db + job.session.amount
        else row.Fits (paidAmount i db + job.session.amount)))

variable {db db' : FeeDb} {i : ℕ} {e : FeeEvent}

/-! ## Sums of payments -/

theorem paidAmount_congr (h : db'.payments = db.payments) (j : ℕ) :
    paidAmount j db' = paidAmount j db := by
  rw [paidAmount, paidAmount, h]

theorem paidAmount_insert {row : FeePayment} (h : db'.payments = db.payments.insert row) (j : ℕ) :
    paidAmount j db' = paidAmount j db
      + if row.invoiceId = some j ∧ row.status = .completed then row.amount else 0 := by
  rw [paidAmount, paidAmount, h, Table.total_insert]
  simp only [Bool.and_eq_true, decide_eq_true_eq]

theorem paidAmount_nonneg (h : Linked db) (j : ℕ) : 0 ≤ paidAmount j db :=
  Table.total_nonneg fun row hrow _ => h.amounts row hrow

theorem paidAmount_nextId (h : Linked db) : paidAmount db.invoices.nextId db = 0 := by
  refine Table.total_eq_zero fun row hrow => ?_
  have hne : row.invoiceId ≠ some db.invoices.nextId := by
    intro heq
    exact absurd (h.payments row hrow _ heq) (Nat.lt_irrefl _)
  simp [hne]

/-! ## One invoice -/

/-- Invoice `i`, when there is one, and what is paid on it are in the relation. -/
def AtInvoice (Q : FeeInvoice → ℤ → Prop) (i : ℕ) (db : FeeDb) : Prop :=
  ∀ row ∈ db.invoices[i]?, Q row (paidAmount i db)

/-- What is paid on invoice `i` once a payment of it is recorded. -/
def paidWith (i : ℕ) (body : PaymentBody) (db : FeeDb) : ℤ :=
  paidAmount i db + if body.recorded = .completed then body.amount else 0

/-- The row of invoice `i` once a payment of it is recorded. -/
def rowWith (i : ℕ) (body : PaymentBody) (recordedBy : String) (db : FeeDb) (row : FeeInvoice) :
    FeeInvoice :=
  { row with
    status := invoiceStatus (pendingCount i (insertPayment body (some i) recordedBy db))
      (paidWith i body db) row.amount }

/-- The row that a request writes for invoice `i`, and what is then paid on it, are in the
relation. -/
def KeepsAt (Q : FeeInvoice → ℤ → Prop) (i : ℕ) (db : FeeDb) : FeeEvent → Prop
  | .createInvoice body => i = db.invoices.nextId → Q body.row 0
  | .updateInvoice id body => id = i → ∀ row ∈ db.invoices[i]?, Q (body.apply row) (paidAmount i db)
  | .createPayment body recordedBy =>
    (checkPayment body db).toOption = some (some i) → ∀ row ∈ db.invoices[i]?,
      Q (rowWith i body recordedBy db row) (paidWith i body db)
  | .deletePayment id =>
    ∀ payment ∈ db.payments[id]?, payment.status = .completed → payment.invoiceId = some i →
      ∀ row ∈ db.invoices[i]?, Q row (paidAmount i db - payment.amount)
  | .createCheckout _ _ _ _ | .createInstallmentPlan _ => True
  | .settle source env reply =>
    ∀ job ∈ settles source env reply db, job.session.invoiceId = some i →
      ∀ row ∈ db.invoices[i]?,
        Q (if job.covers i db then { row with status := .paid } else row)
          (paidAmount i db + job.session.amount)

variable {Q : FeeInvoice → ℤ → Prop}

theorem AtInvoice.congr (h : AtInvoice Q i db) (hrow : db'.invoices[i]? = db.invoices[i]?)
    (hpaid : paidAmount i db' = paidAmount i db) : AtInvoice Q i db' := by
  rw [AtInvoice, hrow, hpaid]
  exact h

theorem AtInvoice.same (h : AtInvoice Q i db) (hsame : SameMoney db db') : AtInvoice Q i db' :=
  h.congr (by rw [hsame.2]) (paidAmount_congr hsame.1 i)

theorem atInvoice_modify {f : FeeInvoice → FeeInvoice}
    (hinvoices : db'.invoices = db.invoices.modify i f) :
    AtInvoice Q i db' ↔ ∀ row ∈ db.invoices[i]?, Q (f row) (paidAmount i db') := by
  rw [AtInvoice, hinvoices]
  simp

theorem AtInvoice.modify_ne (h : AtInvoice Q i db) {f : FeeInvoice → FeeInvoice} {j : ℕ}
    (hinvoices : db'.invoices = db.invoices.modify j f) (hj : j ≠ i)
    (hpaid : paidAmount i db' = paidAmount i db) : AtInvoice Q i db' :=
  h.congr (by rw [hinvoices, List.getElem?_modify_ne _ _ hj]) hpaid

/-! ## One request -/

theorem atInvoice_createInvoice (hl : Linked db) (h : AtInvoice Q i db) (body : InvoiceBody) :
    AtInvoice Q i (createInvoice body db) ↔ KeepsAt Q i db (.createInvoice body) := by
  have hpaid : paidAmount i (createInvoice body db) = paidAmount i db := paidAmount_congr rfl i
  have hrow : (createInvoice body db).invoices[i]?
      = if i = db.invoices.nextId then some body.row else db.invoices[i]? :=
    Table.getElem?_insert db.invoices body.row i
  by_cases hi : i = db.invoices.nextId
  · rw [if_pos hi] at hrow
    rw [AtInvoice, hrow, hpaid, hi, paidAmount_nextId hl]
    simp [KeepsAt]
  rw [if_neg hi] at hrow
  exact iff_of_true (h.congr hrow hpaid) fun heq => absurd heq hi

theorem atInvoice_updateInvoice (h : AtInvoice Q i db) (id : ℕ) (body : InvoiceUpdate) :
    AtInvoice Q i (orElse db (updateInvoice id body db))
      ↔ KeepsAt Q i db (.updateInvoice id body) := by
  simp only [updateInvoice]
  split
  · rename_i hnone
    refine iff_of_true h ?_
    rintro rfl row hrow
    rw [Option.mem_def.1 hrow] at hnone
    cases hnone
  split
  · rename_i hempty
    have hsame : ∀ row, body.apply row = row := by
      intro row
      simp only [InvoiceUpdate.isEmpty, Bool.and_eq_true, Option.isNone_iff_eq_none] at hempty
      obtain ⟨⟨⟨hstatus, hplan⟩, hamount⟩, hnotes⟩ := hempty
      simp [InvoiceUpdate.apply, hstatus, hplan, hamount, hnotes]
    refine iff_of_true h ?_
    intro _ row hrow
    rw [hsame]
    exact h row hrow
  by_cases hid : id = i
  · subst hid
    have hat : AtInvoice Q id (orElse db (.ok { db with
        invoices := db.invoices.modify id body.apply })) ↔ _ := atInvoice_modify rfl
    rw [hat]
    exact ⟨fun h _ => h, fun h => h rfl⟩
  refine iff_of_true ?_ fun h => absurd h hid
  exact h.modify_ne rfl hid rfl

theorem atInvoice_deletePayment (h : AtInvoice Q i db) (id : ℕ) :
    AtInvoice Q i (deletePayment id db) ↔ KeepsAt Q i db (.deletePayment id) := by
  cases hpayment : db.payments[id]? with
  | none =>
    have hsame : db.payments.modify id (fun row => { row with status := .archived })
        = db.payments :=
      List.modify_eq_self (List.getElem?_eq_none_iff.1 hpayment)
    refine iff_of_true (h.same ⟨hsame, rfl⟩) ?_
    simp [KeepsAt, hpayment]
  | some payment =>
    have hpaid : paidAmount i (deletePayment id db) = paidAmount i db
        - if payment.invoiceId = some i ∧ payment.status = .completed then payment.amount
          else 0 := by
      rw [paidAmount, paidAmount, deletePayment, Table.total_modify hpayment]
      simp
    by_cases hcounts : payment.invoiceId = some i ∧ payment.status = .completed
    · rw [if_pos hcounts] at hpaid
      rw [AtInvoice, hpaid]
      simp [KeepsAt, hpayment, hcounts, deletePayment]
    rw [if_neg hcounts, sub_zero] at hpaid
    refine iff_of_true (h.congr rfl hpaid) ?_
    intro payment' hpayment' hcompleted hi
    rw [hpayment] at hpayment'
    cases hpayment'
    exact absurd ⟨hi, hcompleted⟩ hcounts

variable (body : PaymentBody) (invoiceId : Option ℕ) (recordedBy : String)

theorem insertPayment_payments
    (db : FeeDb) : (insertPayment body invoiceId recordedBy db).payments
      = db.payments.insert (body.row invoiceId recordedBy) := by
  simp only [insertPayment]
  cases body.installmentId with
  | none => rfl
  | some id => rfl

theorem insertPayment_invoices
    (db : FeeDb) : (insertPayment body invoiceId recordedBy db).invoices = db.invoices := by
  simp only [insertPayment]
  cases body.installmentId with
  | none => rfl
  | some id => rfl

theorem recompute_payments (i : ℕ) (db : FeeDb) : (recompute i db).payments = db.payments := by
  simp only [recompute]
  split
  · rfl
  · rfl

theorem recompute_invoices (i : ℕ) (db : FeeDb) :
    (recompute i db).invoices = db.invoices.modify i fun row =>
      { row with status := invoiceStatus (pendingCount i db) (paidAmount i db)
                  ((db.invoices[i]?.map (·.amount)).getD 0) } := by
  simp only [recompute]
  split
  · rfl
  · rfl

theorem AtInvoice.insert_other (h : AtInvoice Q i db) {row : FeePayment}
    (hpayments : db'.payments = db.payments.insert row)
    (hinvoices : db'.invoices[i]? = db.invoices[i]?) (hother : row.invoiceId ≠ some i) :
    AtInvoice Q i db' := by
  refine h.congr hinvoices ?_
  rw [paidAmount_insert hpayments, if_neg (fun h => hother h.1), add_zero]

theorem stored_completed (status : RecordedStatus) :
    status.stored = .completed ↔ status = .completed := by
  cases status <;> simp [RecordedStatus.stored]

theorem paidAmount_insertPayment :
    paidAmount i (insertPayment body (some i) recordedBy db) = paidWith i body db := by
  rw [paidAmount_insert (insertPayment_payments body (some i) recordedBy db)]
  simp [PaymentBody.row, stored_completed, paidWith]

/-- What `createPayment` leaves of the invoice it records a payment of. -/
theorem atInvoice_recorded :
    AtInvoice Q i (recompute i (insertPayment body (some i) recordedBy db))
      ↔ ∀ row ∈ db.invoices[i]?,
        Q (rowWith i body recordedBy db row) (paidWith i body db) := by
  have hinvoices := insertPayment_invoices body (some i) recordedBy db
  have hpaid : paidAmount i (insertPayment body (some i) recordedBy db) = paidWith i body db :=
    paidAmount_insertPayment body recordedBy
  rw [atInvoice_modify ((recompute_invoices i _).trans (by rw [hinvoices])),
    paidAmount_congr (recompute_payments i _), hpaid, hinvoices]
  refine forall₂_congr fun row hrow => ?_
  rw [Option.mem_def.1 hrow, Option.map_some, Option.getD_some, rowWith]

theorem atInvoice_createPayment (h : AtInvoice Q i db) (body : PaymentBody)
    (recordedBy : String) :
    AtInvoice Q i (orElse db (createPayment body recordedBy db))
      ↔ KeepsAt Q i db (.createPayment body recordedBy) := by
  simp only [createPayment, KeepsAt]
  cases hcheck : checkPayment body db with
  | error error => exact iff_of_true h nofun
  | ok invoiceId =>
    have hpayments := insertPayment_payments body invoiceId recordedBy db
    have hinvoices := insertPayment_invoices body invoiceId recordedBy db
    by_cases hi : invoiceId = some i
    · subst hi
      simp only [Except.toOption, forall_const]
      exact atInvoice_recorded body recordedBy
    refine iff_of_true ?_ fun h => absurd (Option.some.inj h) hi
    cases invoiceId with
    | none =>
      exact h.insert_other hpayments
        (congrArg (fun t : Table FeeInvoice => t[i]?) hinvoices) hi
    | some j =>
      have hj : j ≠ i := fun h => hi (congrArg some h)
      refine h.insert_other ((recompute_payments j _).trans hpayments) ?_ hi
      change (recompute j _).invoices[i]? = _
      rw [recompute_invoices, List.getElem?_modify_ne _ _ hj, hinvoices]

theorem payInvoice_eq {job : Settlement} (hi : job.session.invoiceId = some i) :
    job.payInvoice db = db.invoices.modify i fun row =>
      if job.covers i db then { row with status := .paid } else row := by
  rw [Settlement.payInvoice, hi, Option.elim_some]
  split
  · rfl
  · exact (List.modify_id _ _).symm

theorem atInvoice_settle (h : AtInvoice Q i db) (source : Source) (env : GatewayEnv)
    (reply : Reply) :
    AtInvoice Q i (settlement source env reply db)
      ↔ KeepsAt Q i db (.settle source env reply) := by
  rcases settlement_cases source env reply db with
    ⟨hnone, hsame⟩ | ⟨job, hjob, -, hpayments, hinvoices⟩
  · refine iff_of_true (h.same hsame) ?_
    simp [KeepsAt, hnone]
  by_cases hi : job.session.invoiceId = some i
  · have hpaid : paidAmount i (settlement source env reply db)
        = paidAmount i db + job.session.amount := by
      rw [paidAmount_insert hpayments, if_pos ⟨hi, rfl⟩]
      rfl
    rw [atInvoice_modify (hinvoices.trans (payInvoice_eq hi)), hpaid]
    simp [KeepsAt, hjob, hi]
  refine iff_of_true (h.insert_other hpayments ?_ hi) ?_
  · rw [hinvoices, Settlement.payInvoice]
    cases hj : job.session.invoiceId with
    | none => rfl
    | some j =>
      have hne : j ≠ i := fun h => hi (hj.trans (congrArg some h))
      rw [Option.elim_some]
      split
      · exact List.getElem?_modify_ne _ _ hne
      · rfl
  intro job' hjob' hi'
  rw [hjob] at hjob'
  cases hjob'
  exact absurd hi' hi

/-- A checkout only opens a session. -/
theorem createCheckout_ok {flags : FeeFlags} {reference : String}
    {provider : Except FeeError String} {body : CheckoutBody}
    (h : createCheckout flags reference provider body db = .ok db') :
    ∃ row : CheckoutSession, row.kind = body.sessionKind ∧ row.invoiceId = body.named db
      ∧ db' = { db with sessions := db.sessions.insert row } := by
  simp only [createCheckout] at h
  obtain ⟨_, -, h⟩ := bind_eq_ok.1 h
  obtain ⟨_, -, h⟩ := bind_eq_ok.1 h
  obtain ⟨_, -, h⟩ := bind_eq_ok.1 h
  obtain ⟨providerId, -, h⟩ := bind_eq_ok.1 h
  cases h
  exact ⟨_, rfl, rfl, rfl⟩

/-- An installment plan leaves the money of its invoice. -/
theorem createInstallmentPlan_cases (body : PlanBody) (db : FeeDb) :
    orElse db (createInstallmentPlan body db) = db
    ∨ ∃ id, id < db.invoices.length
      ∧ (orElse db (createInstallmentPlan body db)).payments = db.payments
      ∧ (orElse db (createInstallmentPlan body db)).invoices
        = db.invoices.modify id (fun row => { row with paymentPlanType := .installment })
      ∧ (orElse db (createInstallmentPlan body db)).sessions = db.sessions
      ∧ (orElse db (createInstallmentPlan body db)).plans
        = db.plans.insert { studentId := body.studentId, invoiceId := some id } := by
  simp only [createInstallmentPlan]
  split
  · exact Or.inl rfl
  rename_i id _
  split
  · exact Or.inl rfl
  rename_i row hrow
  split
  · exact Or.inl rfl
  split
  · exact Or.inl rfl
  obtain ⟨hfound, -⟩ := Option.filter_eq_some_iff.1 hrow
  exact Or.inr ⟨id, (List.getElem?_eq_some_iff.1 hfound).1, rfl, rfl, rfl, rfl⟩

/-- **What a request makes of one invoice.**  It keeps a relation of the row and the money that
does not look at the payment plan exactly when what it writes is in the relation. -/
theorem feeStep_atInvoice (hplan : ∀ row paid plan,
      Q row paid → Q { row with paymentPlanType := plan } paid)
    (hl : Linked db) (h : AtInvoice Q i db) :
    AtInvoice Q i (feeStep e db) ↔ KeepsAt Q i db e := by
  cases e with
  | createInvoice body => exact atInvoice_createInvoice hl h body
  | updateInvoice id body => exact atInvoice_updateInvoice h id body
  | createPayment body recordedBy => exact atInvoice_createPayment h body recordedBy
  | deletePayment id => exact atInvoice_deletePayment h id
  | createCheckout flags reference provider body =>
    refine iff_of_true ?_ trivial
    simp only [feeStep]
    cases hcheckout : createCheckout flags reference provider body db with
    | error error => exact h
    | ok written =>
      obtain ⟨row, -, -, rfl⟩ := createCheckout_ok hcheckout
      exact h.same ⟨rfl, rfl⟩
  | createInstallmentPlan body =>
    refine iff_of_true ?_ trivial
    simp only [feeStep]
    rcases createInstallmentPlan_cases body db with hsame | ⟨id, -, hpayments, hinvoices, -⟩
    · rw [hsame]
      exact h
    have hpaid := paidAmount_congr hpayments i
    by_cases hid : id = i
    · subst hid
      rw [atInvoice_modify hinvoices, hpaid]
      exact fun row hrow => hplan row _ _ (h row hrow)
    · exact h.modify_ne hinvoices hid hpaid
  | settle source env reply => exact atInvoice_settle h source env reply

/-! ## The status -/

/-- The status `createPayment` computes fits, unless it calls an invoice partly paid on
which nothing is paid. -/
theorem fits_invoiceStatus (row : FeeInvoice) (count : ℕ) {paid : ℤ} (hpaid : 0 ≤ paid) :
    ({ row with status := invoiceStatus count paid row.amount } : FeeInvoice).Fits paid
      ↔ (0 < row.amount → 0 < paid ∨ 0 < count) := by
  refine forall_congr' fun hamount => ?_
  simp only at hamount ⊢
  simp only [invoiceStatus]
  split
  · rename_i hpending
    split
    · simp; omega
    · simp; omega
  rename_i hnone
  split
  · simp; omega
  · simp; omega

theorem paidWith_nonneg (hl : Linked db) (body : PaymentBody) : 0 ≤ paidWith i body db := by
  have hpaid := paidAmount_nonneg hl i
  have hpositive := body.positive
  unfold paidWith
  split
  · omega
  · omega

/-- The status fits what `createPayment` writes. -/
theorem fits_recorded_iff (hl : Linked db) (body : PaymentBody) (recordedBy : String)
    (row : FeeInvoice) :
    (rowWith i body recordedBy db row).Fits (paidWith i body db)
      ↔ body.recorded = .completed ∨ (0 < row.amount →
        0 < paidAmount i db ∨ 0 < pendingCount i (insertPayment body (some i) recordedBy db)) := by
  have hnonneg := paidAmount_nonneg hl i
  have hpositive := body.positive
  rw [rowWith, fits_invoiceStatus row _ (paidWith_nonneg hl body)]
  by_cases hcompleted : body.recorded = .completed
  · refine iff_of_true (fun _ => Or.inl ?_) (Or.inl hcompleted)
    rw [paidWith, if_pos hcompleted]
    omega
  · rw [paidWith, if_neg hcompleted, add_zero, or_iff_right hcompleted]

/-- **A request keeps the status of an invoice a function of the money exactly when it
agrees.** -/
theorem feeStep_fitsAt (hl : Linked db) (hf : FitsAt i db) :
    FitsAt i (feeStep e db) ↔ AgreesAt i db e := by
  refine (feeStep_atInvoice (Q := FeeInvoice.Fits) (fun _ _ _ h => h) hl hf).trans ?_
  cases e with
  | createPayment body recordedBy =>
    simp only [KeepsAt, AgreesAt, fits_recorded_iff hl]
    by_cases hcompleted : body.recorded = .completed
    · simp [hcompleted]
    · simp [hcompleted]
  | settle source env reply =>
    simp only [KeepsAt, AgreesAt]
    refine forall₃_congr fun job _ _ => forall₂_congr fun row _ => ?_
    split
    · refine forall_congr' fun hamount => ?_
      simp only at hamount ⊢
      simp
      omega
    · exact Iff.rfl
  | createInvoice | updateInvoice | deletePayment | createCheckout | createInstallmentPlan =>
    exact Iff.rfl

/-! ## The foreign keys -/

theorem Linked.checkPayment (hl : Linked db) {body : PaymentBody} {invoiceId : Option ℕ}
    (h : checkPayment body db = .ok invoiceId) : ∀ i ∈ invoiceId, i < db.invoices.length := by
  have hinvoice : ∀ i ∈ body.invoiceId, i < db.invoices.length := by
    intro i hi
    rw [Option.mem_def] at hi
    by_contra hge
    have hnone : db.invoices[i]? = none := List.getElem?_eq_none (Nat.not_lt.1 hge)
    simp [School.checkPayment, checkInvoice, hi, hnone] at h
    cases h
  have hinstallment : checkInstallment body.studentId body.invoiceId body.installmentId db
      = .ok invoiceId := by
    simp only [School.checkPayment] at h
    obtain ⟨_, -, h⟩ := bind_eq_ok.1 h
    exact h
  intro i hi
  simp only [checkInstallment] at hinstallment
  split at hinstallment
  · cases hinstallment
    exact hinvoice i hi
  split at hinstallment
  · cases hinstallment
  rename_i row plan hfound
  split at hinstallment
  · cases hinstallment
  cases hinstallment
  have hplan : plan ∈ db.plans := by
    obtain ⟨hfind, -⟩ := Option.filter_eq_some_iff.1 hfound
    obtain ⟨row', -, hmap⟩ := Option.bind_eq_some_iff.1 hfind
    obtain ⟨plan', hplan', heq⟩ := Option.map_eq_some_iff.1 hmap
    cases heq
    exact List.mem_of_getElem? hplan'
  rcases (Option.orElse_eq_some _ _ _).1 hi with hi | ⟨-, hi⟩
  · exact hinvoice i hi
  · exact hl.plans plan hplan i hi

/-- Keys of the invoices there were, when the invoices stay or grow in number. -/
theorem Linked.grow (hinvoices : db.invoices.length ≤ db'.invoices.length)
    (hpayments : ∀ row ∈ db'.payments,
      0 ≤ row.amount ∧ ∀ i ∈ row.invoiceId, i < db.invoices.length)
    (hplans : ∀ row ∈ db'.plans, ∀ i ∈ row.invoiceId, i < db.invoices.length)
    (hsessions : ∀ row ∈ db'.sessions, row.kind ≠ .saasSubscription →
      ∀ i ∈ row.invoiceId, i < db.invoices.length) : Linked db' where
  payments row hrow i hi := ((hpayments row hrow).2 i hi).trans_le hinvoices
  plans row hrow i hi := (hplans row hrow i hi).trans_le hinvoices
  sessions row hrow hkind i hi := (hsessions row hrow hkind i hi).trans_le hinvoices
  amounts row hrow := (hpayments row hrow).1

theorem Linked.payment (hl : Linked db) :
    ∀ row ∈ db.payments, 0 ≤ row.amount ∧ ∀ i ∈ row.invoiceId, i < db.invoices.length :=
  fun row hrow => ⟨hl.amounts row hrow, hl.payments row hrow⟩

theorem insertPayment_keys
    (db : FeeDb) : (insertPayment body invoiceId recordedBy db).plans = db.plans
      ∧ (insertPayment body invoiceId recordedBy db).sessions = db.sessions := by
  simp only [insertPayment]
  cases body.installmentId with
  | none => exact ⟨rfl, rfl⟩
  | some id => exact ⟨rfl, rfl⟩

theorem linked_recompute (hl : Linked db) (i : ℕ) : Linked (recompute i db) := by
  simp only [recompute]
  split
  · exact Linked.grow (by simp [stopReminders]) hl.payment hl.plans hl.sessions
  · exact Linked.grow (by simp) hl.payment hl.plans hl.sessions

theorem linked_createPayment (hl : Linked db) (body : PaymentBody) (recordedBy : String) :
    Linked (orElse db (createPayment body recordedBy db)) := by
  simp only [createPayment]
  cases hcheck : checkPayment body db with
  | error error => exact hl
  | ok invoiceId =>
    have hinserted : Linked (insertPayment body invoiceId recordedBy db) := by
      obtain ⟨hplans, hsessions⟩ := insertPayment_keys body invoiceId recordedBy db
      refine Linked.grow (insertPayment_invoices body invoiceId recordedBy db ▸ Nat.le_refl _)
        ?_ (hplans ▸ hl.plans) (hsessions ▸ hl.sessions)
      rw [insertPayment_payments, Table.forall_mem_insert]
      exact ⟨hl.payment, body.positive.le, hl.checkPayment hcheck⟩
    cases invoiceId with
    | none => exact hinserted
    | some i => exact linked_recompute hinserted i

theorem linked_settle (hl : Linked db) (source : Source) (env : GatewayEnv) (reply : Reply) :
    Linked (settlement source env reply db) := by
  have hkeys : SameKeys db (settlement source env reply db) :=
    sameKeys_settleFor 11 (source.start, db)
  refine Linked.grow hkeys.invoices.symm.le ?_ (hkeys.plans ▸ hl.plans) ?_
  · rcases settlement_cases source env reply db with ⟨-, hsame⟩ | ⟨job, -, hready, hinsert, -⟩
    · rw [hsame.1]
      exact hl.payment
    rw [hinsert, Table.forall_mem_insert]
    exact ⟨hl.payment, hready.positive.le, hl.sessions job.session
      (List.mem_of_getElem? hready.row) hready.schoolFee⟩
  intro row hrow hkind i hi
  have hmem : (row.kind, row.invoiceId)
      ∈ db.sessions.map fun row => (row.kind, row.invoiceId) := by
    rw [← hkeys.sessions]
    exact List.mem_map_of_mem hrow
  obtain ⟨old, hold, heq⟩ := List.mem_map.1 hmem
  rw [Prod.mk.injEq] at heq
  exact hl.sessions old hold (heq.1 ▸ hkind) i (heq.2 ▸ hi)

/-- **Foreign keys keep naming invoices that exist.** -/
theorem feeStep_linked (hl : Linked db) : Linked (feeStep e db) := by
  cases e with
  | createInvoice body =>
    exact Linked.grow (by simp [feeStep, createInvoice]) hl.payment hl.plans hl.sessions
  | updateInvoice id body =>
    simp only [feeStep, updateInvoice]
    split
    · exact hl
    split
    · exact hl
    · exact Linked.grow (by simp [orElse]) hl.payment hl.plans hl.sessions
  | createPayment body recordedBy => exact linked_createPayment hl body recordedBy
  | deletePayment id =>
    exact Linked.grow (Nat.le_refl _)
      (Table.forall_mem_modify hl.payment id fun row hrow => hrow) hl.plans hl.sessions
  | createCheckout flags reference provider body =>
    simp only [feeStep]
    cases hcheckout : createCheckout flags reference provider body db with
    | error error => exact hl
    | ok written =>
      obtain ⟨row, hkind, hinvoice, rfl⟩ := createCheckout_ok hcheckout
      refine Linked.grow (Nat.le_refl _) hl.payment hl.plans
        (Table.forall_mem_insert.2 ⟨hl.sessions, ?_⟩)
      intro hschool i hi
      rw [hinvoice, CheckoutBody.named, if_neg (hkind ▸ hschool)] at hi
      exact of_decide_eq_true (Option.mem_filter_iff.1 hi).2
  | createInstallmentPlan body =>
    simp only [feeStep]
    rcases createInstallmentPlan_cases body db with
      hsame | ⟨id, hid, hpayments, hinvoices, hsessions, hplans⟩
    · rw [hsame]
      exact hl
    refine Linked.grow (by rw [hinvoices, List.length_modify]) (hpayments ▸ hl.payment) ?_
      (hsessions ▸ hl.sessions)
    rw [hplans, Table.forall_mem_insert]
    refine ⟨hl.plans, fun i hi => ?_⟩
    cases hi
    exact hid
  | settle source env reply => exact linked_settle hl source env reply

/-! ## Runs -/

theorem linked_run (hl : Linked db) (es : List FeeEvent) : Linked (run feeStep db es) :=
  run_invariant (fun _ _ h => feeStep_linked h) hl es

theorem linked_empty : Linked {} where
  payments _ h := absurd h List.not_mem_nil
  plans _ h := absurd h List.not_mem_nil
  sessions _ h := absurd h List.not_mem_nil
  amounts _ h := absurd h List.not_mem_nil

/-- **The status fits throughout a run exactly when every request agrees.** -/
theorem fitsAt_iff (hl : Linked db) (hf : FitsAt i db) (es : List FeeEvent) :
    (∀ pre, pre <+: es → FitsAt i (run feeStep db pre)) ↔ Along feeStep (AgreesAt i) db es :=
  (along_iff_throughout_with (J := Linked) (D := fun _ _ => True)
    (fun _ _ _ _ h => feeStep_linked h) (fun _ _ _ hfits h => feeStep_fitsAt h hfits)
    (along_of_forall (D := fun _ => True) fun _ _ => trivial) hf hl).symm

/-- Whatever the status was, it fits after a completed payment, as it does at first. -/
theorem starts_fitsAt (hl : Linked db) (hs : Starts i db e) : FitsAt i (feeStep e db) := by
  cases e with
  | createInvoice body =>
    obtain ⟨rfl, hpaid, hpartly⟩ := hs
    have hzero : paidAmount db.invoices.nextId (createInvoice body db) = 0 :=
      (paidAmount_congr rfl _).trans (paidAmount_nextId hl)
    intro row hrow hamount
    have hrow' : (createInvoice body db).invoices[db.invoices.nextId]? = some body.row := by
      rw [createInvoice, Table.getElem?_insert, if_pos rfl]
    rw [feeStep, Option.mem_def, hrow'] at hrow
    cases hrow
    rw [feeStep, hzero]
    refine ⟨iff_of_false hpaid ?_, iff_of_false hpartly ?_⟩
    · omega
    · omega
  | createPayment body recordedBy =>
    obtain ⟨hcompleted, hcheck⟩ := hs
    cases hok : checkPayment body db with
    | error error => rw [hok] at hcheck; cases hcheck
    | ok invoiceId =>
      rw [hok] at hcheck
      cases hcheck
      simp only [feeStep, createPayment, hok]
      refine (atInvoice_recorded body recordedBy).2 fun row _ => ?_
      exact (fits_recorded_iff hl body recordedBy row).2 (Or.inl hcompleted)
  | updateInvoice | deletePayment | createCheckout | createInstallmentPlan | settle => cases hs

/-- **From the request that opens an invoice, or that records a completed payment of it, its
status is a function of the money for as long as the requests agree.** -/
theorem status_follows_money (before : List FeeEvent) (e : FeeEvent) (after : List FeeEvent)
    (i : ℕ) (hs : Starts i (run feeStep {} before) e)
    (hafter : Along feeStep (AgreesAt i) (run feeStep {} (before ++ [e])) after) :
    ∀ pre, pre <+: after → ∀ row, (run feeStep {} (before ++ e :: pre)).invoices[i]? = some row →
      0 < row.amount →
        (row.status = .paid ↔ row.amount ≤ paidAmount i (run feeStep {} (before ++ e :: pre)))
        ∧ (row.status = .partiallyPaid
          ↔ 0 < paidAmount i (run feeStep {} (before ++ e :: pre))
            ∧ paidAmount i (run feeStep {} (before ++ e :: pre)) < row.amount) := by
  intro pre hpre row hrow
  have hlinked : Linked (run feeStep {} before) := linked_run linked_empty before
  rw [run_append] at hafter
  have hfits := (fitsAt_iff (feeStep_linked hlinked) (starts_fitsAt hlinked hs) after).2 hafter
    pre hpre
  rw [run_append, run_cons] at hrow ⊢
  exact hfits row hrow

/-! ## An invoice and two payments of it -/

namespace Example

def fees : InvoiceBody := { studentId := "student-1", amount := 50000, positive := by decide }

def cash (amount : ℤ) (positive : 0 < amount) : PaymentBody :=
  { studentId := "student-1", invoiceId := some 0, amount, method := .cash, positive }

def firstHalf : FeeEvent := .createPayment (cash 20000 (by decide)) "bursar"
def secondHalf : FeeEvent := .createPayment (cash 30000 (by decide)) "bursar"

/-- The invoice when the first half is paid. -/
def half : FeeInvoice := { studentId := "student-1", amount := 50000, status := .partiallyPaid }

def cancel : FeeEvent := .updateInvoice 0 { status := some .cancelled, positive := by simp }

end Example

/-- The invoice after the first of the two payments. -/
theorem status_follows_money_example :
    (Example.half.status = .paid
      ↔ Example.half.amount
        ≤ paidAmount 0 (run feeStep {} ([] ++ .createInvoice Example.fees :: [Example.firstHalf])))
    ∧ (Example.half.status = .partiallyPaid
      ↔ 0 < paidAmount 0
          (run feeStep {} ([] ++ .createInvoice Example.fees :: [Example.firstHalf]))
        ∧ paidAmount 0 (run feeStep {} ([] ++ .createInvoice Example.fees :: [Example.firstHalf]))
          < Example.half.amount) :=
  status_follows_money [] (.createInvoice Example.fees) [Example.firstHalf, Example.secondHalf] 0
    ⟨rfl, by decide, by decide⟩ (by decide) [Example.firstHalf]
    (List.prefix_append [Example.firstHalf] [Example.secondHalf]) Example.half
    (by decide) (by decide)

/-- A cancelled invoice keeps its payment, and is not partly paid. -/
theorem not_status_follows_money :
    ¬ ∀ (es : List FeeEvent) (i : ℕ) (row : FeeInvoice),
      (run feeStep {} es).invoices[i]? = some row → 0 < row.amount →
        (row.status = .paid ↔ row.amount ≤ paidAmount i (run feeStep {} es))
        ∧ (row.status = .partiallyPaid
          ↔ 0 < paidAmount i (run feeStep {} es)
            ∧ paidAmount i (run feeStep {} es) < row.amount) := by
  intro h
  have hcancelled := h [.createInvoice Example.fees, Example.firstHalf, Example.cancel] 0
    { studentId := "student-1", amount := 50000, status := .cancelled } (by decide)
    (by decide)
  revert hcancelled
  decide

end MultiAcademy.School
