import Mathlib

/-!
# Payment gateways

What the school server makes of a provider's answers: `verifyTransaction` and
`handleWebhook` of the gateways that report payments.  A verification names the
transaction by the provider's own id, and a webhook by the merchant's reference.
-/

namespace MultiAcademy.School

inductive ProviderStatus
  | success | failed | pending | ignored
  deriving DecidableEq

/-- What `verifyTransaction` returns; an empty text is a field that is not there. -/
structure PaymentVerification where
  status : ProviderStatus
  amountMinor : ℤ
  currency : String
  providerReference : String
  providerId : String
  deriving DecidableEq

/-- What `handleWebhook` returns. -/
structure WebhookResult where
  reference : String
  status : ProviderStatus
  amountMinor : Option ℤ := none
  currency : Option String := none
  deriving DecidableEq

/-- A transaction as the provider reports it, amounts in minor units. -/
structure Transaction where
  id : ℕ
  reference : String
  status : String
  amount : ℤ
  currency : String

variable (data : Transaction)

/-- `String(data.id || otherwise)`. -/
def Transaction.idOr (otherwise : String) : String :=
  if data.id = 0 then otherwise else toString data.id

/-- `verifyTransaction`, for a transaction the provider knows. -/
def PaystackGateway.verifyTransaction : PaymentVerification :=
  { status :=
      if data.status = "success" then .success
      else if data.status = "failed" then .failed
      else .pending
    amountMinor := data.amount
    currency := (if data.currency = "" then "NGN" else data.currency).toUpper
    providerReference := data.idOr data.reference
    providerId := "paystack" }

def PaystackGateway.handleWebhook (event : String) (data : Transaction) : WebhookResult :=
  let result (status : ProviderStatus) : WebhookResult :=
    { reference := data.reference
      status
      amountMinor := some data.amount
      currency := some (if data.currency = "" then "NGN" else data.currency).toUpper }
  if data.reference = "" then { reference := "", status := .ignored }
  else if event = "charge.success" ∨ data.status = "success" then result .success
  else if data.status = "failed" then result .failed
  else { reference := data.reference, status := .ignored }

/-- `verifyTransaction`, for the reference it was asked about. -/
def FlutterwaveGateway.verifyTransaction : PaymentVerification :=
  { status :=
      if data.status = "successful" then .success
      else if data.status = "failed" then .failed
      else .pending
    amountMinor := data.amount
    currency := if data.currency = "" then "NGN" else data.currency
    providerReference := data.idOr ""
    providerId := "flutterwave" }

/-- `handleWebhook`, once the signature has been checked. -/
def FlutterwaveGateway.handleWebhook : WebhookResult :=
  { reference := data.reference
    status := if data.status.toLower = "successful" then .success else .failed
    amountMinor := some data.amount
    currency := some (if data.currency = "" then "NGN" else data.currency) }

end MultiAcademy.School
