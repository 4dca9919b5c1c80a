import MultiAcademy.School.SettlementCrash

/-!
# Invoices and the payments recorded by hand

`financial/financial.service.ts`: invoices are created and edited, and payments recorded
and archived, by the school's office.  With them stand the two requests of
`gateway-payments.service.ts` that open checkout sessions and installment plans, and its
settlements, each from its start to its end.
-/

namespace MultiAcademy.School

open MultiAcademy.Lib

/-- The status and the message of a refusal. -/
abbrev FeeError := ℕ × String

/-! ## Invoices -/

/-- `CreateInvoiceDto`. -/
structure InvoiceBody where
  studentId : String
  amount : ℤ
  status : Option InvoiceStatus := none
  paymentPlanType : Option PaymentPlanType := none
  notes : Option String := none
  /-- `@Min(0.01)`. -/
  positive : 0 < amount

/-- `UpdateInvoiceDto`. -/
structure InvoiceUpdate where
  status : Option InvoiceStatus := none
  paymentPlanType : Option PaymentPlanType := none
  amount : Option ℤ := none
  notes : Option String := none
  /-- `@Min(0.01)`. -/
  positive : ∀ a ∈ amount, 0 < a

/-- `body.notes || null`. -/
def storedNotes (notes : Option String) : Option String := notes.filter (· ≠ "")

/-- The row `createInvoice` inserts. -/
def InvoiceBody.row (body : InvoiceBody) : FeeInvoice :=
  { studentId := body.studentId
    amount := body.amount
    status := body.status.getD .unpaid
    paymentPlanType := body.paymentPlanType.getD .full
    notes := storedNotes body.notes }

def createInvoice (body : InvoiceBody) (db : FeeDb) : FeeDb :=
  { db with
    invoices := db.invoices.insert body.row
    reminders := db.reminders.insert
      { invoiceId := db.invoices.nextId, studentId := body.studentId, status := .pending } }

/-- The columns that are given, as they are given. -/
def InvoiceUpdate.apply (body : InvoiceUpdate) (row : FeeInvoice) : FeeInvoice :=
  { row with
    status := body.status.getD row.status
    paymentPlanType := body.paymentPlanType.getD row.paymentPlanType
    amount := body.amount.getD row.amount
    notes := body.notes.elim row.notes fun notes => storedNotes (some notes) }

/-- `updates.length === 0`. -/
def InvoiceUpdate.isEmpty (body : InvoiceUpdate) : Bool :=
  body.status.isNone && body.paymentPlanType.isNone && body.amount.isNone && body.notes.isNone

def updateInvoice (id : ℕ) (body : InvoiceUpdate) (db : FeeDb) : Except FeeError FeeDb :=
  if db.invoices[id]?.isNone then .error (404, "Invoice not found")
  else if body.isEmpty then .error (400, "No fields to update")
  else .ok { db with invoices := db.invoices.modify id body.apply }

/-! ## Payments -/

/-- What `CreatePaymentDto` takes for a status. -/
inductive RecordedStatus
  | completed | pending | failed
  deriving DecidableEq

def RecordedStatus.stored : RecordedStatus → FeePaymentStatus
  | .completed => .completed
  | .pending => .pending
  | .failed => .failed

/-- `CreatePaymentDto`. -/
structure PaymentBody where
  studentId : String
  invoiceId : Option ℕ := none
  installmentId : Option ℕ := none
  amount : ℤ
  method : PaymentMethod
  reference : Option String := none
  status : Option RecordedStatus := none
  /-- `@Min(0.01)`. -/
  positive : 0 < amount

variable (body : PaymentBody)

/-- `body.status || 'completed'`. -/
def PaymentBody.recorded : RecordedStatus := body.status.getD .completed

/-- An installment and its plan, as the queries join them. -/
def findInstallment (id : ℕ) (db : FeeDb) : Option (Installment × Plan) :=
  db.installments[id]?.bind fun row => db.plans[row.planId]?.map fun plan => (row, plan)

/-- The invoice of a payment is the student's, and not cancelled. -/
def checkInvoice (studentId : String) (invoiceId : Option ℕ) (db : FeeDb) :
    Except FeeError Unit :=
  match invoiceId with
  | none => .ok ()
  | some id =>
    match db.invoices[id]?.filter fun row => row.studentId = studentId with
    | none => .error (404, "Invoice not found for student")
    | some row =>
      if row.status = .cancelled then
        .error (400, "Cannot record a payment against a cancelled invoice")
      else .ok ()

/-- The installment of a payment is outstanding, and its plan is the student's and the
invoice's. -/
def checkInstallment (studentId : String) (invoiceId installmentId : Option ℕ) (db : FeeDb) :
    Except FeeError (Option ℕ) :=
  match installmentId with
  | none => .ok invoiceId
  | some id =>
    match (findInstallment id db).filter fun found =>
        found.2.studentId = studentId
          && (invoiceId.isNone || found.2.invoiceId = invoiceId) with
    | none => .error (404, "Installment not found for student and invoice")
    | some (row, plan) =>
      if row.status ≠ .pending then .error (400, "This installment is no longer outstanding")
      else .ok (invoiceId <|> plan.invoiceId)

/-- The row `createPayment` inserts. -/
def PaymentBody.row (invoiceId : Option ℕ) (recordedBy : String) :
    FeePayment :=
  { studentId := body.studentId
    invoiceId
    installmentId := body.installmentId
    amount := body.amount
    method := body.method
    reference := body.reference.filter (· ≠ "")
    status := body.recorded.stored
    recordedBy := some recordedBy }

/-- `SUM(amount) … WHERE invoice_id = ? AND status = 'completed'`. -/
def paidAmount (i : ℕ) (db : FeeDb) : ℤ :=
  db.payments.total (fun row => row.invoiceId = some i && row.status = .completed) (·.amount)

/-- The pending installments of the plans of an invoice. -/
def pendingCount (i : ℕ) (db : FeeDb) : ℕ :=
  db.installments.countP fun row =>
    row.status = .pending && db.plans[row.planId]?.any fun plan => plan.invoiceId = some i

/-- The status `createPayment` gives an invoice. -/
def invoiceStatus (pendingCount : ℕ) (paidAmount invoiceAmount : ℤ) : InvoiceStatus :=
  if 0 < pendingCount ∧ paidAmount < invoiceAmount then
    if 0 < paidAmount then .partiallyPaid else .unpaid
  else if invoiceAmount ≤ paidAmount then .paid
  else .partiallyPaid

/-- `createPayment` after its insertions, for an invoice. -/
def recompute (i : ℕ) (db : FeeDb) : FeeDb :=
  let invoiceAmount := (db.invoices[i]?.map (·.amount)).getD 0
  let status := invoiceStatus (pendingCount i db) (paidAmount i db) invoiceAmount
  let updated := { db with invoices := db.invoices.modify i fun row => { row with status } }
  if status = .paid then stopReminders i updated else updated

/-- The payment, and its installment marked paid. -/
def insertPayment (invoiceId : Option ℕ) (recordedBy : String) (db : FeeDb) :
    FeeDb :=
  let inserted := { db with payments := db.payments.insert (body.row invoiceId recordedBy) }
  body.installmentId.elim inserted fun id => markInstallmentPaid id inserted

/-- The invoice `createPayment` records the payment against, or its refusal. -/
def checkPayment (db : FeeDb) : Except FeeError (Option ℕ) := do
  checkInvoice body.studentId body.invoiceId db
  checkInstallment body.studentId body.invoiceId body.installmentId db

/-- `createPayment`, by an authenticated recorder. -/
def createPayment (recordedBy : String) (db : FeeDb) :
    Except FeeError FeeDb := do
  let invoiceId ← checkPayment body db
  let inserted := insertPayment body invoiceId recordedBy db
  return invoiceId.elim inserted fun i => recompute i inserted

def deletePayment (id : ℕ) (db : FeeDb) : FeeDb :=
  { db with payments := db.payments.modify id fun row => { row with status := .archived } }

/-! ## Checkouts and installment plans -/

structure FeeFlags where
  gateway : Bool := true
  advancePayment : Bool := true
  installments : Bool := true

/-- The body of `createCheckout`. -/
structure CheckoutBody where
  studentId : String
  invoiceId : Option ℕ := none
  installmentId : Option ℕ := none
  amount : ℤ
  currency : Option String := none
  kind : Option SessionKind := none
  term : Option String := none
  sessionLabel : Option String := none
  /-- `@Min(0.01)`. -/
  positive : 0 < amount

/-- `body.kind || 'invoice'`. -/
def CheckoutBody.sessionKind (body : CheckoutBody) : SessionKind := body.kind.getD .invoice

def checkFlags (flags : FeeFlags) (body : CheckoutBody) : Except FeeError Unit :=
  if body.sessionKind ≠ .saasSubscription ∧ flags.gateway = false then
    .error (403, "Feature disabled: fees.gateway")
  else if body.sessionKind = .advance ∧ flags.advancePayment = false then
    .error (403, "Feature disabled: fees.advance_payment")
  else if (body.sessionKind = .installment ∨ body.installmentId.isSome)
      ∧ flags.installments = false then
    .error (403, "Feature disabled: fees.installments")
  else .ok ()

/-- A checkout for an invoice is for the student's, and for no more than is left of it. -/
def checkOutstanding (body : CheckoutBody) (db : FeeDb) : Except FeeError Unit :=
  if body.sessionKind ≠ .invoice then .ok ()
  else
    match body.invoiceId with
    | none => .error (400, "Invoice id is required for invoice payments")
    | some id =>
      match db.invoices[id]?.filter fun row => row.studentId = body.studentId with
      | none => .error (404, "Invoice not found for student")
      | some row =>
        if row.status = .paid then .error (400, "Invoice is already paid")
        else if row.amount - settledAmount id db ≤ 0 then
          .error (400, "Invoice is already fully paid")
        else if row.amount - settledAmount id db < body.amount then
          .error (400, "Payment exceeds invoice balance")
        else .ok ()

def checkPayable (body : CheckoutBody) (db : FeeDb) : Except FeeError Unit :=
  match body.installmentId with
  | none => .ok ()
  | some id =>
    match (findInstallment id db).filter fun found =>
        found.2.studentId = body.studentId
          && (body.invoiceId.isNone || found.2.invoiceId = body.invoiceId) with
    | none => .error (404, "Installment not found for student")
    | some (row, _) =>
      if row.status ≠ .pending then .error (400, "Installment is no longer payable")
      else if 1 < (body.amount - row.amount).natAbs then
        .error (400, "Payment amount does not match the installment")
      else .ok ()

/-- The invoice a session names.  Only a checkout of kind `invoice` looks it up, and an id
that names no invoice now never will. -/
def CheckoutBody.named (body : CheckoutBody) (db : FeeDb) : Option ℕ :=
  if body.sessionKind = .saasSubscription then body.invoiceId
  else body.invoiceId.filter fun i => i < db.invoices.length

/-- `createCheckout`, with the new session's reference and the provider that takes the
checkout, or the provider's refusal. -/
def createCheckout (flags : FeeFlags) (reference : String) (provider : Except FeeError String)
    (body : CheckoutBody) (db : FeeDb) : Except FeeError FeeDb := do
  checkFlags flags body
  checkOutstanding body db
  checkPayable body db
  let providerId ← provider
  return { db with
    sessions := db.sessions.insert
      { studentId := body.studentId
        invoiceId := body.named db
        installmentId := body.installmentId
        amount := body.amount
        currency := (body.currency.filter (· ≠ "")).getD "NGN" |>.toUpper
        reference, providerId
        kind := body.sessionKind
        term := body.term
        sessionLabel := body.sessionLabel } }

/-- `CreateInstallmentPlanDto`. -/
structure PlanBody where
  studentId : String
  invoiceId : Option ℕ := none
  totalAmount : ℤ
  surchargePercent : ℚ := 0
  installments : List ℤ

def PlanBody.addsUp (body : PlanBody) : Bool :=
  |(body.installments.sum : ℚ) - body.totalAmount * (1 + body.surchargePercent / 100)| ≤ 5

def createInstallmentPlan (body : PlanBody) (db : FeeDb) : Except FeeError FeeDb :=
  match body.invoiceId with
  | none => .error (400, "Invoice id is required for an installment plan")
  | some id =>
    match db.invoices[id]?.filter fun row => row.studentId = body.studentId with
    | none => .error (404, "Invoice not found for student")
    | some row =>
      if row.status = .paid ∨ row.status = .cancelled then
        .error (400, "An installment plan cannot be created for this invoice")
      else if body.addsUp = false then
        .error (400, "Installment amounts must equal the total including surcharge")
      else .ok
        { db with
          plans := db.plans.insert { studentId := body.studentId, invoiceId := some id }
          invoices := db.invoices.modify id fun row =>
            { row with paymentPlanType := .installment }
          installments := db.installments ++ body.installments.map fun amount =>
            { planId := db.plans.nextId, amount, status := .pending } }

/-! ## One request after another -/

def settlement (source : Source) (env : GatewayEnv) (reply : Reply) (db : FeeDb) : FeeDb :=
  attemptStep { source, env, reply, steps := 11 } db

/-- A request. -/
inductive FeeEvent
  | createInvoice (body : InvoiceBody)
  | updateInvoice (id : ℕ) (body : InvoiceUpdate)
  | createPayment (body : PaymentBody) (recordedBy : String)
  | deletePayment (id : ℕ)
  | createCheckout (flags : FeeFlags) (reference : String) (provider : Except FeeError String)
      (body : CheckoutBody)
  | createInstallmentPlan (body : PlanBody)
  | settle (source : Source) (env : GatewayEnv) (reply : Reply)

/-- A refusal writes nothing. -/
def orElse (db : FeeDb) : Except FeeError FeeDb → FeeDb
  | .ok written => written
  | .error _ => db

/-- One request, from its start to its end. -/
def feeStep (e : FeeEvent) (db : FeeDb) : FeeDb :=
  match e with
  | .createInvoice body => createInvoice body db
  | .updateInvoice id body => orElse db (updateInvoice id body db)
  | .createPayment body recordedBy => orElse db (createPayment body recordedBy db)
  | .deletePayment id => deletePayment id db
  | .createCheckout flags reference provider body =>
    orElse db (createCheckout flags reference provider body db)
  | .createInstallmentPlan body => orElse db (createInstallmentPlan body db)
  | .settle source env reply => settlement source env reply db

end MultiAcademy.School
