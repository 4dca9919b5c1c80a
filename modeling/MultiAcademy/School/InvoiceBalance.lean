import MultiAcademy.School.InvoiceStatus

/-!
# What is collected for a school invoice

A checkout is refused when it is for more than what the closed checkout sessions leave of
the invoice.  The payment that follows, and a payment recorded at the office, are not
compared with the balance again: two checkouts may both be open for all of it, and the cash
taken meanwhile is in neither.
-/

namespace MultiAcademy.School

open MultiAcademy.Lib

/-- No more is paid on invoice `i`, when there is one, than its amount. -/
def WithinAmount (i : ℕ) (db : FeeDb) : Prop :=
  ∀ row ∈ db.invoices[i]?, paidAmount i db ≤ row.amount

/-- What is left to pay of an invoice. -/
def balanceOf (i : ℕ) (row : FeeInvoice) (db : FeeDb) : ℤ := row.amount - paidAmount i db

/-- What a student's family has paid in advance. -/
def advanceCredit (studentId : String) (db : FeeDb) : ℤ :=
  db.credits.total (fun row => row.studentId = studentId) (·.amount)

/-- What a settlement pays beyond the balance of invoice `i` is credited in advance. -/
def ExcessCredited (i : ℕ) (db : FeeDb) : FeeEvent → Prop
  | .settle source env reply =>
    ∀ job ∈ settles source env reply db, job.session.invoiceId = some i →
      ∀ row ∈ db.invoices[i]?, balanceOf i row db < job.session.amount →
        advanceCredit job.session.studentId (settlement source env reply db)
          = advanceCredit job.session.studentId db
            + (job.session.amount - balanceOf i row db)
  | _ => True

/-- What the request pays of invoice `i` is no more than the balance, and an amount it
writes is no less than what is paid. -/
def FitsBalance (i : ℕ) (db : FeeDb) : FeeEvent → Prop
  | .updateInvoice id body =>
    id = i → ∀ row ∈ db.invoices[i]?, ∀ amount ∈ body.amount, paidAmount i db ≤ amount
  | .createPayment body _ =>
    body.recorded = .completed → (checkPayment body db).toOption = some (some i) →
      ∀ row ∈ db.invoices[i]?, body.amount ≤ balanceOf i row db
  | .settle source env reply =>
    ∀ job ∈ settles source env reply db, job.session.invoiceId = some i →
      ∀ row ∈ db.invoices[i]?, job.session.amount ≤ balanceOf i row db
  | .createInvoice _ | .deletePayment _ | .createCheckout _ _ _ _ | .createInstallmentPlan _ =>
    True

/-- A checkout, a payment at the office or a settlement. -/
def FeeEvent.collects : FeeEvent → Bool
  | .createCheckout _ _ _ _ | .createPayment _ _ | .settle _ _ _ => true
  | .createInvoice _ | .updateInvoice _ _ | .deletePayment _ | .createInstallmentPlan _ => false

variable {db db' : FeeDb} {i : ℕ} {e : FeeEvent}

/-! ## One invoice -/

theorem WithinAmount.mono (hw : WithinAmount i db)
    (hrow : db'.invoices[i]?.map (·.amount) = db.invoices[i]?.map (·.amount))
    (hpaid : paidAmount i db' ≤ paidAmount i db) : WithinAmount i db' := by
  intro row' hrow'
  rw [Option.mem_def.1 hrow', Option.map_some] at hrow
  obtain ⟨row, hfound, hamount⟩ := Option.map_eq_some_iff.1 hrow.symm
  calc paidAmount i db' ≤ paidAmount i db := hpaid
    _ ≤ row.amount := hw row hfound
    _ = row'.amount := hamount

theorem WithinAmount.same (hw : WithinAmount i db) (h : SameMoney db db') :
    WithinAmount i db' :=
  hw.mono (by rw [h.2]) (paidAmount_congr h.1 i).le

/-- A step that pays some of the invoice, and leaves its amount. -/
theorem withinAmount_pay {amount : ℤ}
    (hrow : db'.invoices[i]?.map (·.amount) = db.invoices[i]?.map (·.amount))
    (hpaid : paidAmount i db' = paidAmount i db + amount) :
    WithinAmount i db' ↔ ∀ row ∈ db.invoices[i]?, amount ≤ balanceOf i row db := by
  rw [WithinAmount, hpaid]
  cases hold : db.invoices[i]? with
  | none =>
    rw [hold, Option.map_none, Option.map_eq_none_iff] at hrow
    simp [hrow]
  | some row =>
    rw [hold, Option.map_some] at hrow
    obtain ⟨row', hnew, hamount⟩ := Option.map_eq_some_iff.1 hrow
    rw [hnew]
    simp only [Option.mem_def, Option.some.injEq, forall_eq', balanceOf]
    omega

/-- The rewrites that leave the amount of every invoice. -/
theorem map_amount_modify (invoices : Table FeeInvoice) (j : ℕ) {f : FeeInvoice → FeeInvoice}
    (hf : ∀ row, (f row).amount = row.amount) :
    (invoices.modify j f)[i]?.map (·.amount) = invoices[i]?.map (·.amount) := by
  rw [List.getElem?_modify]
  cases invoices[i]? with
  | none => rfl
  | some row =>
    by_cases hj : j = i
    · simp [hj, hf]
    · simp [hj]

/-! ## One request -/

theorem withinAmount_createInvoice (hl : Linked db) (hw : WithinAmount i db)
    (body : InvoiceBody) : WithinAmount i (createInvoice body db) := by
  have hpaid : paidAmount i (createInvoice body db) = paidAmount i db := paidAmount_congr rfl i
  have hrow : (createInvoice body db).invoices[i]?
      = if i = db.invoices.nextId then some body.row else db.invoices[i]? :=
    Table.getElem?_insert db.invoices body.row i
  by_cases hi : i = db.invoices.nextId
  · rw [if_pos hi] at hrow
    intro row hmem
    rw [hrow, Option.mem_def, Option.some.injEq] at hmem
    rw [hpaid, hi, paidAmount_nextId hl, ← hmem]
    exact body.positive.le
  rw [if_neg hi] at hrow
  exact hw.mono (by rw [hrow]) hpaid.le

theorem withinAmount_updateInvoice (hw : WithinAmount i db) (id : ℕ) (body : InvoiceUpdate) :
    WithinAmount i (orElse db (updateInvoice id body db))
      ↔ FitsBalance i db (.updateInvoice id body) := by
  simp only [updateInvoice]
  split
  · rename_i hnone
    refine iff_of_true hw ?_
    rintro rfl row hrow
    rw [Option.mem_def.1 hrow] at hnone
    cases hnone
  split
  · rename_i hempty
    have hamount : body.amount = none := by
      simp only [InvoiceUpdate.isEmpty, Bool.and_eq_true, Option.isNone_iff_eq_none] at hempty
      exact hempty.1.2
    refine iff_of_true hw ?_
    simp [FitsBalance, hamount]
  by_cases hid : id = i
  · subst hid
    have hpaid : ∀ invoices, paidAmount id { db with invoices } = paidAmount id db :=
      fun _ => rfl
    simp only [orElse, WithinAmount, FitsBalance, List.getElem?_modify_eq, forall_const,
      hpaid]
    cases hrow : db.invoices[id]? with
    | none => simp
    | some row =>
      have hbefore : paidAmount id db ≤ row.amount := hw row hrow
      cases hamount : body.amount with
      | none => simpa [InvoiceUpdate.apply, hamount] using hbefore
      | some amount => simp [InvoiceUpdate.apply, hamount]
  refine iff_of_true (hw.mono ?_ le_rfl) fun h => absurd h hid
  simp only [orElse, List.getElem?_modify_ne _ _ hid]

theorem withinAmount_createPayment (hw : WithinAmount i db) (body : PaymentBody)
    (recordedBy : String) :
    WithinAmount i (orElse db (createPayment body recordedBy db))
      ↔ FitsBalance i db (.createPayment body recordedBy) := by
  simp only [createPayment, FitsBalance]
  cases hcheck : checkPayment body db with
  | error error => exact iff_of_true hw (by simp [Except.toOption])
  | ok invoiceId =>
    set inserted := insertPayment body invoiceId recordedBy db with hinserted
    have hwritten : orElse db (.ok (invoiceId.elim inserted fun j => recompute j inserted))
        = invoiceId.elim inserted fun j => recompute j inserted := rfl
    have hpaid : paidAmount i (invoiceId.elim inserted fun j => recompute j inserted)
        = paidAmount i db
          + if invoiceId = some i ∧ body.recorded = .completed then body.amount else 0 := by
      have hpayments : (invoiceId.elim inserted fun j => recompute j inserted).payments
          = db.payments.insert (body.row invoiceId recordedBy) := by
        rw [← insertPayment_payments]
        cases invoiceId with
        | none => rfl
        | some j => exact recompute_payments j inserted
      rw [paidAmount_insert hpayments]
      simp only [PaymentBody.row, stored_completed]
    have hrow : (invoiceId.elim inserted fun j => recompute j inserted).invoices[i]?.map
          (·.amount) = db.invoices[i]?.map (·.amount) := by
      have hinvoices : inserted.invoices = db.invoices :=
        insertPayment_invoices body invoiceId recordedBy db
      cases invoiceId with
      | none => rw [Option.elim_none, hinvoices]
      | some j =>
        rw [Option.elim_some, recompute_invoices, hinvoices]
        exact map_amount_modify db.invoices j fun _ => rfl
    change WithinAmount i (orElse db (.ok _)) ↔ _
    rw [hwritten]
    by_cases hcounts : invoiceId = some i ∧ body.recorded = .completed
    · rw [if_pos hcounts] at hpaid
      rw [withinAmount_pay hrow hpaid]
      simp [hcounts, Except.toOption]
    rw [if_neg hcounts, add_zero] at hpaid
    refine iff_of_true (hw.mono hrow hpaid.le) ?_
    intro hcompleted hi
    exact absurd ⟨Option.some.inj hi, hcompleted⟩ hcounts

theorem paidAmount_deletePayment_le (hl : Linked db) (id : ℕ) :
    paidAmount i (deletePayment id db) ≤ paidAmount i db := by
  cases hpayment : db.payments[id]? with
  | none =>
    have hsame : db.payments.modify id (fun row => { row with status := .archived })
        = db.payments :=
      List.modify_eq_self (List.getElem?_eq_none_iff.1 hpayment)
    exact (paidAmount_congr hsame i).le
  | some payment =>
    have hamount : 0 ≤ payment.amount := hl.amounts payment (List.mem_of_getElem? hpayment)
    rw [paidAmount, paidAmount, deletePayment, Table.total_modify hpayment]
    by_cases hcounts : payment.invoiceId = some i ∧ payment.status = .completed
    · simp [hcounts, hamount]
    · simp [hcounts]

theorem withinAmount_deletePayment (hl : Linked db) (hw : WithinAmount i db) (id : ℕ) :
    WithinAmount i (deletePayment id db) :=
  hw.mono rfl (paidAmount_deletePayment_le hl id)

theorem withinAmount_settle (hw : WithinAmount i db) (source : Source) (env : GatewayEnv)
    (reply : Reply) :
    WithinAmount i (settlement source env reply db)
      ↔ FitsBalance i db (.settle source env reply) := by
  rcases settlement_cases source env reply db with
    ⟨hnone, hsame⟩ | ⟨job, hjob, -, hpayments, hinvoices⟩
  · refine iff_of_true (hw.same hsame) ?_
    simp [FitsBalance, hnone]
  have hrow : (settlement source env reply db).invoices[i]?.map (·.amount)
      = db.invoices[i]?.map (·.amount) := by
    rw [hinvoices, Settlement.payInvoice]
    cases job.session.invoiceId with
    | none => rfl
    | some j =>
      rw [Option.elim_some]
      split
      · exact map_amount_modify db.invoices j fun _ => rfl
      · rfl
  have hpaid := paidAmount_insert hpayments i
  simp only [FitsBalance, hjob, Option.mem_def, Option.some.injEq, forall_eq']
  by_cases hi : job.session.invoiceId = some i
  · rw [if_pos ⟨hi, rfl⟩] at hpaid
    rw [withinAmount_pay hrow hpaid]
    exact ⟨fun h _ row hrow => h row hrow, fun h row hrow => h hi row hrow⟩
  rw [if_neg (fun h => hi h.1), add_zero] at hpaid
  exact iff_of_true (hw.mono hrow hpaid.le) fun h => absurd h hi

/-- **A request keeps what is paid within the amount exactly when it fits the balance.** -/
theorem feeStep_withinAmount (hl : Linked db) (hw : WithinAmount i db) :
    WithinAmount i (feeStep e db) ↔ FitsBalance i db e := by
  cases e with
  | createInvoice body => exact iff_of_true (withinAmount_createInvoice hl hw body) trivial
  | updateInvoice id body => exact withinAmount_updateInvoice hw id body
  | createPayment body recordedBy => exact withinAmount_createPayment hw body recordedBy
  | deletePayment id => exact iff_of_true (withinAmount_deletePayment hl hw id) trivial
  | createCheckout flags reference provider body =>
    refine iff_of_true ?_ trivial
    simp only [feeStep]
    cases hcheckout : createCheckout flags reference provider body db with
    | error error => exact hw
    | ok written =>
      obtain ⟨row, -, -, rfl⟩ := createCheckout_ok hcheckout
      exact hw.same ⟨rfl, rfl⟩
  | createInstallmentPlan body =>
    refine iff_of_true ?_ trivial
    simp only [feeStep]
    rcases createInstallmentPlan_cases body db with hsame | ⟨id, -, hpayments, hinvoices, -⟩
    · rw [hsame]
      exact hw
    refine hw.mono ?_ (paidAmount_congr hpayments i).le
    rw [hinvoices]
    exact map_amount_modify db.invoices id fun _ => rfl
  | settle source env reply => exact withinAmount_settle hw source env reply

theorem FitsBalance.excessCredited (h : FitsBalance i db e) : ExcessCredited i db e := by
  cases e with
  | settle source env reply =>
    intro job hjob hi row hrow hexcess
    exact absurd (h job hjob hi row hrow) (not_le.2 hexcess)
  | createInvoice | updateInvoice | createPayment | deletePayment | createCheckout
  | createInstallmentPlan => trivial

/-! ## Runs -/

/-- **No more is paid on an invoice than its amount, and what a settlement pays beyond the
balance is credited in advance, exactly when every request fits the balance.** -/
theorem collected_iff (i : ℕ) (es : List FeeEvent) :
    ((∀ pre, pre <+: es → ∀ row, (run feeStep {} pre).invoices[i]? = some row →
        paidAmount i (run feeStep {} pre) ≤ row.amount)
      ∧ Along feeStep (ExcessCredited i) {} es)
      ↔ Along feeStep (FitsBalance i) {} es := by
  have hstart : WithinAmount i {} := by
    intro row hrow
    cases hrow
  have hwithin : Along feeStep (FitsBalance i) {} es
      ↔ ∀ pre, pre <+: es → WithinAmount i (run feeStep {} pre) :=
    along_iff_throughout_with (J := Linked) (D := fun _ _ => True)
      (fun _ _ _ _ h => feeStep_linked h)
      (fun _ _ _ hw h => feeStep_withinAmount h hw)
      (along_of_forall (D := fun _ => True) fun _ _ => trivial) hstart linked_empty
  constructor
  · intro h
    exact hwithin.2 h.1
  intro h
  refine ⟨hwithin.1 h, ?_⟩
  exact Along.of_invariant (I := fun _ => True) (fun _ _ _ _ => trivial)
    (fun _ _ _ hfits => hfits.excessCredited) trivial h

/-! ## Two checkouts for one invoice -/

namespace Example

/-- A family opens the checkout for all of the fees, and opens it again. -/
def checkout (reference : String) : FeeEvent :=
  .createCheckout {} reference (.ok "paystack")
    { studentId := "student-1", invoiceId := some 0, amount := 50000, positive := fees.positive }

/-- The provider reports the payment of a checkout. -/
def paidOnline (id : ℕ) (reference : String) : FeeEvent :=
  .settle
    (.webhook "paystack" "paystack" (PaystackGateway.handleWebhook "charge.success"
      { id, reference, status := "success", amount := 50000, currency := "NGN" }))
    {} { verification := .error (500, "Internal server error") }

def paidTwice : List FeeEvent :=
  [checkout "pay_1", checkout "pay_2", paidOnline 1 "pay_1", paidOnline 2 "pay_2"]

end Example

/-- The invoice is paid twice, and nothing is credited in advance. -/
theorem not_collected :
    ¬ ∀ (body : InvoiceBody) (es : List FeeEvent), (∀ e ∈ es, e.collects = true) →
      paidAmount 0 (run feeStep (createInvoice body {}) es) ≤ body.amount := by
  intro h
  have hpaid := h Example.fees Example.paidTwice (by decide)
  revert hpaid
  decide +kernel

end MultiAcademy.School
