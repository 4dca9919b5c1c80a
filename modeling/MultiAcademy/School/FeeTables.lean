import MultiAcademy.Lib.Table

/-!
# A school's fee tables

The rows of a tenant's database that the payment services read or write.  A row's id is
its position in its table, and a foreign key is such a position: the code draws ids at
random and never deletes a row.  Money is in minor units, as the two decimals of the
columns hold it.
-/

namespace MultiAcademy.School

open MultiAcademy.Lib

/-- `INVOICE_STATUSES`. -/
inductive InvoiceStatus
  | unpaid | partiallyPaid | paid | cancelled
  deriving DecidableEq

/-- `INVOICE_PAYMENT_PLAN_TYPES`. -/
inductive PaymentPlanType
  | full | installment
  deriving DecidableEq

/-- A row of `financial_invoices`. -/
structure FeeInvoice where
  studentId : String
  amount : ℤ
  status : InvoiceStatus
  paymentPlanType : PaymentPlanType := .full
  notes : Option String := none
  deriving DecidableEq

/-- `PAYMENT_METHODS`. -/
inductive PaymentMethod
  | cash | bankTransfer | card | other
  deriving DecidableEq

/-- `PAYMENT_STATUSES`, and what `deletePayment` leaves. -/
inductive FeePaymentStatus
  | completed | pending | failed | archived
  deriving DecidableEq

/-- A row of `financial_payments`. -/
structure FeePayment where
  studentId : String
  invoiceId : Option ℕ
  installmentId : Option ℕ
  amount : ℤ
  method : PaymentMethod
  reference : Option String
  status : FeePaymentStatus
  recordedBy : Option String := none
  providerId : Option String := none
  providerReference : Option String := none
  deriving DecidableEq

/-- A row of `financial_installment_plans`. -/
structure Plan where
  studentId : String
  invoiceId : Option ℕ
  deriving DecidableEq

inductive InstallmentStatus
  | pending | paid
  deriving DecidableEq

/-- A row of `financial_installments`. -/
structure Installment where
  planId : ℕ
  amount : ℤ
  status : InstallmentStatus
  deriving DecidableEq

/-- A row of `financial_advance_credits`. -/
structure AdvanceCredit where
  studentId : String
  amount : ℤ
  currency : String
  term : Option String
  sessionLabel : Option String
  paymentId : ℕ
  reference : String
  deriving DecidableEq

inductive ReminderStatus
  | pending | stopped
  deriving DecidableEq

/-- A row of `financial_fee_reminders`. -/
structure FeeReminder where
  invoiceId : ℕ
  studentId : String
  status : ReminderStatus
  deriving DecidableEq

inductive SessionStatus
  | pending | settled | success
  deriving DecidableEq

inductive SessionKind
  | invoice | advance | installment | saasSubscription
  deriving DecidableEq

/-- A row of `financial_checkout_sessions`; `term` and `sessionLabel` are in its metadata. -/
structure CheckoutSession where
  studentId : String
  invoiceId : Option ℕ
  installmentId : Option ℕ
  amount : ℤ
  currency : String
  reference : String
  providerId : String
  providerReference : Option String := none
  status : SessionStatus := .pending
  kind : SessionKind
  term : Option String := none
  sessionLabel : Option String := none
  deriving DecidableEq

/-- The tables. -/
structure FeeDb where
  invoices : Table FeeInvoice := []
  payments : Table FeePayment := []
  plans : Table Plan := []
  installments : Table Installment := []
  credits : Table AdvanceCredit := []
  reminders : Table FeeReminder := []
  sessions : Table CheckoutSession := []
  deriving DecidableEq

/-- `status IN ('settled', 'success')`. -/
def SessionStatus.closed (status : SessionStatus) : Bool := status = .settled || status = .success

/-- What the closed checkout sessions of an invoice add up to. -/
def settledAmount (i : ℕ) (db : FeeDb) : ℤ :=
  db.sessions.total (fun row => row.invoiceId = some i && row.status.closed) (·.amount)

end MultiAcademy.School
