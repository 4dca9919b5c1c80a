import MultiAcademy.Lib.Run
import MultiAcademy.School.FeeTables
import MultiAcademy.School.PaymentGateways

/-!
# Settlement of online payments

`financial/gateway-payments.service.ts`: `verify`, `settleFromWebhook` and the
`settleSuccess` both end in, as the steps between two awaits.  Nothing wraps the steps in a
transaction, and a call that fails or whose process dies stops where it is.  The payments'
provider references are unique (`uq_financial_payments_provider_reference`).
-/

namespace MultiAcademy.School

open MultiAcademy.Lib

/-- The input of `settleSuccess`. -/
structure SettleInput where
  reference : String
  amountMinor : ℤ
  currency : String
  providerId : String
  providerReference : String
  deriving DecidableEq

structure Settlement where
  input : SettleInput
  sessionId : ℕ
  session : CheckoutSession
  deriving DecidableEq

/-- What `settleTenantInvoice` sends to the control plane for a session. -/
structure SaasSettlement where
  sessionId : ℕ
  invoiceId : ℕ
  amountMinor : ℤ
  providerReference : String
  providerId : String
  deriving DecidableEq

/-- What a settlement returns. -/
inductive Receipt
  | session (id : ℕ)
  | payment (id : ℕ)
  | saasInvoice (id : ℕ)
  deriving DecidableEq

/-- What is next after the payment row was inserted. -/
inductive Stage
  | session | balance | invoice | reminders | installment | credit
  deriving DecidableEq

/-- Where a call of `verify` or `settleFromWebhook` is; a webhook's answer leaves the
receipt out. -/
inductive SettlePhase
  | lookup (reference : String)
  | verifying (reference : String) (session : Option (ℕ × CheckoutSession))
  | reading (input : SettleInput)
  | charging (saas : SaasSettlement)
  /-- The session is to be marked settled, and nothing else. -/
  | closing (sessionId : ℕ) (providerReference : String) (receipt : Receipt)
  | checking (job : Settlement)
  | inserting (job : Settlement)
  | paid (stage : Stage) (job : Settlement) (paymentId : ℕ)
  | answered (status : ProviderStatus) (receipt : Option Receipt)
  | failed (status : ℕ) (message : String)
  deriving DecidableEq

/-- What an external call comes to, where the step awaits one. -/
structure Reply where
  verification : Except (ℕ × String) PaymentVerification
  /-- The control plane accepted the settlement. -/
  controlOk : Bool := true

/-- What the calls of a tenant read besides its tables. -/
structure GatewayEnv where
  /-- The flag `fees.gateway`. -/
  feesGateway : Bool := true

/-! ## The queries -/

/-- `SELECT * FROM financial_checkout_sessions WHERE reference = ?`. -/
def findSession (reference : String) (db : FeeDb) : Option (ℕ × CheckoutSession) :=
  (db.sessions.first? fun row => row.reference = reference).bind fun id =>
    db.sessions[id]?.map fun row => (id, row)

/-- `SELECT id FROM financial_payments WHERE provider_reference = ?`. -/
def findPayment (providerReference : String) (db : FeeDb) : Option ℕ :=
  db.payments.first? fun row => row.providerReference = some providerReference

/-- `SET status = 'settled', provider_reference = ?`. -/
def CheckoutSession.settle (providerReference : String) (row : CheckoutSession) :
    CheckoutSession :=
  { row with status := .settled, providerReference := some providerReference }

def markSettled (sessionId : ℕ) (providerReference : String) (db : FeeDb) : FeeDb :=
  { db with sessions := db.sessions.modify sessionId (CheckoutSession.settle providerReference) }

variable (job : Settlement) (paymentId : ℕ)

/-- The row `settleSuccess` inserts. -/
def Settlement.payment : FeePayment :=
  { studentId := job.session.studentId
    invoiceId := job.session.invoiceId
    installmentId := job.session.installmentId
    amount := job.session.amount
    method := .card
    reference := some job.input.reference
    status := .completed
    providerId := some job.input.providerId
    providerReference := some job.input.providerReference }

def invoiceCovered (invoiceId : ℕ) (db : FeeDb) : Bool :=
  db.invoices[invoiceId]?.any fun inv => inv.amount ≤ settledAmount invoiceId db

def markInvoicePaid (invoiceId : ℕ) (db : FeeDb) : FeeDb :=
  { db with invoices := db.invoices.modify invoiceId fun row => { row with status := .paid } }

def stopReminders (invoiceId : ℕ) (db : FeeDb) : FeeDb :=
  { db with
    reminders := db.reminders.updateWhere
      (fun row => row.invoiceId = invoiceId && row.status = .pending)
      fun row => { row with status := .stopped } }

def markInstallmentPaid (installmentId : ℕ) (db : FeeDb) : FeeDb :=
  { db with
    installments := db.installments.modify installmentId fun row => { row with status := .paid } }

def Settlement.credit : AdvanceCredit :=
  { studentId := job.session.studentId
    amount := job.session.amount
    currency := if job.input.currency = "" then "NGN" else job.input.currency
    term := job.session.term
    sessionLabel := job.session.sessionLabel
    paymentId
    reference := job.input.reference }

/-! ## `settleSuccess` -/

/-- The SaaS branch, before the control plane is called. -/
def chargeSaas (sessionId : ℕ) (session : CheckoutSession) (amountMinor : ℤ)
    (providerId providerReference : String) : SettlePhase :=
  match session.invoiceId with
  | none => .failed 400 "SaaS invoice reference is invalid"
  | some invoiceId =>
    .charging { sessionId, invoiceId, amountMinor, providerReference, providerId }

def CheckoutSession.expectedCurrency (session : CheckoutSession) : String :=
  (if session.currency = "" then "NGN" else session.currency).toUpper

/-- `settleSuccess` from the session it read to the next await. -/
def readSession (input : SettleInput) (db : FeeDb) : SettlePhase :=
  match findSession input.reference db with
  | none => .failed 404 "Checkout session not found"
  | some (sessionId, session) =>
    if session.status.closed then .answered .success (some (.session sessionId))
    else if input.amountMinor ≤ 0 ∨ input.amountMinor ≠ session.amount then
      .failed 400 "Payment amount does not match checkout session"
    else if input.currency.toUpper ≠ session.expectedCurrency then
      .failed 400 "Payment currency does not match checkout session"
    else if session.kind = .saasSubscription then
      chargeSaas sessionId session input.amountMinor input.providerId input.providerReference
    else .checking { input, sessionId, session }

def afterInstallment : SettlePhase :=
  if job.session.kind = .advance then .paid .credit job paymentId
  else .answered .success (some (.payment paymentId))

def afterInvoice : SettlePhase :=
  if job.session.installmentId.isSome then .paid .installment job paymentId
  else afterInstallment job paymentId

def afterSession : SettlePhase :=
  if job.session.invoiceId.isSome then .paid .balance job paymentId
  else afterInvoice job paymentId

/-- The writes after the payment row. -/
def paidStep (stage : Stage) (job : Settlement) (paymentId : ℕ) (db : FeeDb) :
    SettlePhase × FeeDb :=
  match stage with
  | .session =>
    (afterSession job paymentId, markSettled job.sessionId job.input.providerReference db)
  | .balance =>
    if job.session.invoiceId.any fun i => invoiceCovered i db then
      (.paid .invoice job paymentId, db)
    else (.paid .reminders job paymentId, db)
  | .invoice =>
    (.paid .reminders job paymentId,
      job.session.invoiceId.elim db fun i => markInvoicePaid i db)
  | .reminders =>
    (afterInvoice job paymentId, job.session.invoiceId.elim db fun i => stopReminders i db)
  | .installment =>
    (afterInstallment job paymentId,
      job.session.installmentId.elim db fun i => markInstallmentPaid i db)
  | .credit =>
    (.answered .success (some (.payment paymentId)),
      { db with credits := db.credits.insert (job.credit paymentId) })

/-! ## A call -/

/-- `verify` from the provider's answer to the next await. -/
def verified (reference : String) (session : Option (ℕ × CheckoutSession))
    (verification : PaymentVerification) : SettlePhase :=
  if verification.status ≠ .success then .answered verification.status none
  else
    let providerReference :=
      if verification.providerReference = "" then reference else verification.providerReference
    let providerId :=
      if verification.providerId = "" then session.elim "" fun found => found.2.providerId
      else verification.providerId
    match session.filter fun found => found.2.kind = .saasSubscription with
    | some (sessionId, row) =>
      chargeSaas sessionId row verification.amountMinor providerId providerReference
    | none =>
      .reading
        { reference
          amountMinor := verification.amountMinor
          currency := verification.currency
          providerId, providerReference }

/-- `settleFromWebhook` from the gateway's result, for a webhook that was authenticated. -/
def webhookPhase (providerId gatewayId : String) (result : WebhookResult) : SettlePhase :=
  if gatewayId ≠ providerId then .answered .ignored none
  else if result.status ≠ .success ∨ result.reference = "" then .answered result.status none
  else
    .reading
      { reference := result.reference
        amountMinor := result.amountMinor.getD 0
        currency := (result.currency.filter (· ≠ "")).getD "NGN"
        providerId
        providerReference := result.reference }

def settleStep (env : GatewayEnv) (reply : Reply) (phase : SettlePhase) (db : FeeDb) :
    SettlePhase × FeeDb :=
  match phase with
  | .lookup reference =>
    let session := findSession reference db
    if !(session.any fun found => found.2.kind = .saasSubscription) && !env.feesGateway then
      (.failed 403 "Feature disabled: fees.gateway", db)
    else (.verifying reference session, db)
  | .verifying reference session =>
    match reply.verification with
    | .error (status, message) => (.failed status message, db)
    | .ok verification => (verified reference session verification, db)
  | .reading input => (readSession input db, db)
  | .charging saas =>
    if reply.controlOk then
      (.closing saas.sessionId saas.providerReference (.saasInvoice saas.invoiceId), db)
    else (.failed 500 "Internal server error", db)
  | .closing sessionId providerReference receipt =>
    (.answered .success (some receipt), markSettled sessionId providerReference db)
  | .checking job =>
    match findPayment job.input.providerReference db with
    | some paymentId =>
      (.closing job.sessionId job.input.providerReference (.payment paymentId), db)
    | none => (.inserting job, db)
  | .inserting job =>
    -- the unique index refuses a second row
    if (findPayment job.input.providerReference db).isSome then
      (.failed 500 "Internal server error", db)
    else
      (.paid .session job db.payments.nextId,
        { db with payments := db.payments.insert job.payment })
  | .paid stage job paymentId => paidStep stage job paymentId db
  | .answered status receipt => (.answered status receipt, db)
  | .failed status message => (.failed status message, db)

/-! ## All calls -/

/-- The tables, and where each call is. -/
structure GatewayState where
  db : FeeDb
  calls : List SettlePhase := []

/-- What can happen. -/
inductive GatewayEvent
  | verify (reference : String)
  | webhook (providerId gatewayId : String) (result : WebhookResult)
  | advance (i : ℕ) (reply : Reply)
  /-- The call fails, or its process dies. -/
  | stop (i : ℕ)

def gatewayStep (env : GatewayEnv) (e : GatewayEvent) (s : GatewayState) : GatewayState :=
  match e with
  | .verify reference => { s with calls := s.calls ++ [.lookup reference] }
  | .webhook providerId gatewayId result =>
    { s with calls := s.calls ++ [webhookPhase providerId gatewayId result] }
  | .advance i reply =>
    match s.calls[i]? with
    | some phase =>
      let next := settleStep env reply phase s.db
      { db := next.2, calls := s.calls.set i next.1 }
    | none => s
  | .stop i => { s with calls := s.calls.set i (.failed 500 "Internal server error") }

end MultiAcademy.School
