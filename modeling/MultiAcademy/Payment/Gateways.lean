import MultiAcademy.Lib.Table

/-!
# Gateways of the payment service

`payment-service/app/providers`, with `context_registry.py` and `gateway_resolver.py`: what
an adapter makes of a provider's answer and of a webhook's body, and which gateway takes a
checkout.  A text is empty where the provider leaves it out.
-/

namespace MultiAcademy.Payment

/-- The status and the detail of a refusal. -/
abbrev PaymentError := ℕ × String

/-- The secrets of a vault, and the headers of a request. -/
abbrev Fields := List (String × String)

/-- `fields.get(key) or …`: the first value that is not empty. -/
def Fields.pick (fields : Fields) (keys : List String) : String :=
  ((keys.filterMap fun key => List.lookup key fields).find? (· ≠ "")).getD ""

/-- `value or otherwise`. -/
def either (value otherwise : String) : String := if value = "" then otherwise else value

/-- The digests of `hashlib` and `hmac`. -/
structure Crypto where
  sha256 : String → String
  hmacSha512 : String → String → String

structure VerificationResult where
  providerId : String
  reference : String
  status : String
  amountMinor : ℤ
  currency : String
  providerReference : String := ""
  deriving DecidableEq

structure WebhookParseResult where
  reference : String
  status : String
  amountMinor : ℤ := 0
  currency : String := "NGN"
  deriving DecidableEq

structure ProviderTransaction where
  id : String := ""
  flwRef : String := ""
  reference : String := ""
  status : String := ""
  amount : ℤ := 0
  currency : String := ""
  deriving DecidableEq

/-- The `data` of a webhook, its amount in minor units. -/
structure WebhookData where
  reference : String := ""
  tx_ref : String := ""
  txRef : String := ""
  status : String := ""
  amount : ℤ := 0
  currency : String := ""
  deriving DecidableEq

/-- The object in a webhook's body. -/
structure WebhookPayload where
  event : String := ""
  reference : String := ""
  status : String := ""
  data : WebhookData := {}
  deriving DecidableEq

/-! ## The adapters -/

/-- The adapters of `gateway_registry`. -/
inductive Adapter
  | paystack
  | flutterwave
  | stub (id : String)
  deriving DecidableEq

def Adapter.id : Adapter → String
  | .paystack => "paystack"
  | .flutterwave => "flutterwave"
  | .stub id => id

/-- `STUB_GATEWAY_IDS`. -/
def isStubGateway (gatewayId : String) : Bool :=
  gatewayId ∈ ["opay", "palmpay", "momo", "monnify"]

/-- `gateway_registry.get`. -/
def gatewayRegistry (gatewayId : String) : Option Adapter :=
  if gatewayId = "paystack" then some .paystack
  else if gatewayId = "flutterwave" then some .flutterwave
  else if isStubGateway gatewayId then some (.stub gatewayId)
  else none

/-- `verify_transaction` of Paystack, on the transaction its answer holds. -/
def PaystackAdapter.verifyTransaction (reference : String) :
    Option ProviderTransaction → VerificationResult
  | none =>
    { providerId := "paystack", reference, status := "failed", amountMinor := 0
      currency := "NGN" }
  | some tx =>
    { providerId := "paystack"
      reference := either tx.reference reference
      status :=
        if tx.status = "success" then "success"
        else if tx.status = "failed" then "failed"
        else "pending"
      amountMinor := tx.amount
      currency := (either tx.currency "NGN").toUpper
      providerReference := either tx.id tx.reference }

/-- `verify_transaction` of Flutterwave, on the transaction its answer holds. -/
def FlutterwaveAdapter.verifyTransaction (reference : String) :
    Option ProviderTransaction → VerificationResult
  | none =>
    { providerId := "flutterwave", reference, status := "failed", amountMinor := 0
      currency := "NGN" }
  | some tx =>
    { providerId := "flutterwave"
      reference
      status :=
        if tx.status.toLower = "successful" then "success"
        else if tx.status.toLower = "failed" then "failed"
        else "pending"
      amountMinor := tx.amount
      currency := (either tx.currency "NGN").toUpper
      providerReference := either tx.id tx.flwRef }

/-- `verify_transaction` of a stub, which asks nobody. -/
def StubMobileMoneyAdapter.verifyTransaction (id : String) (secrets : Fields)
    (reference : String) : VerificationResult :=
  if reference.startsWith "demo_paid_" then
    { providerId := id, reference, status := "success", amountMinor := 0, currency := "NGN"
      providerReference := id ++ "-" ++ (List.lookup "merchant_id" secrets).getD "demo" }
  else { providerId := id, reference, status := "pending", amountMinor := 0, currency := "NGN" }

/-- `verify_transaction`, given the transaction the provider answers with. -/
def Adapter.verifyTransaction (secrets : Fields) (reference : String)
    (answer : Option ProviderTransaction) : Adapter → Except PaymentError VerificationResult
  | .paystack =>
    if secrets.pick ["secret_key", "secretKey", "SECRET_KEY"] = "" then
      .error (404, "Paystack secret_key missing from control vault")
    else .ok (PaystackAdapter.verifyTransaction reference answer)
  | .flutterwave =>
    if secrets.pick ["secret_key", "secretKey"] = "" then
      .error (404, "Flutterwave secret_key missing from control vault")
    else .ok (FlutterwaveAdapter.verifyTransaction reference answer)
  | .stub id => .ok (StubMobileMoneyAdapter.verifyTransaction id secrets reference)

variable (payload : WebhookPayload) (settings : PaymentSettings)

/-- `parse_webhook` of Paystack. -/
def PaystackAdapter.parseWebhook : WebhookParseResult :=
  let data := payload.data
  if data.reference = "" then { reference := "", status := "ignored" }
  else if payload.event = "charge.success" ∨ data.status = "success" then
    { reference := data.reference
      status := "success"
      amountMinor := data.amount
      currency := (either data.currency "NGN").toUpper }
  else if data.status = "failed" then { reference := data.reference, status := "failed" }
  else { reference := data.reference, status := "ignored" }

/-- `parse_webhook` of Flutterwave. -/
def FlutterwaveAdapter.parseWebhook : WebhookParseResult :=
  let data := payload.data
  let reference := either data.tx_ref data.txRef
  if reference = "" then { reference := "", status := "ignored" }
  else if data.status.toLower = "successful" then
    { reference
      status := "success"
      amountMinor := data.amount
      currency := (either data.currency "NGN").toUpper }
  else if data.status.toLower = "failed" then { reference, status := "failed" }
  else { reference, status := "ignored" }

/-- `parse_webhook` of a stub. -/
def StubMobileMoneyAdapter.parseWebhook : WebhookParseResult :=
  { reference := payload.reference, status := either payload.status "ignored" }

def Adapter.parseWebhook : Adapter → WebhookParseResult
  | .paystack => PaystackAdapter.parseWebhook payload
  | .flutterwave => FlutterwaveAdapter.parseWebhook payload
  | .stub _ => StubMobileMoneyAdapter.parseWebhook payload

def Adapter.verifyWebhookSignature (crypto : Crypto) (secrets headers : Fields)
    (rawBody : String) : Adapter → Except PaymentError Bool
  | .paystack =>
    let secret := secrets.pick ["secret_key", "secretKey", "SECRET_KEY"]
    if secret = "" then .error (400, "Paystack secret_key missing from control vault")
    else .ok (crypto.hmacSha512 secret rawBody
      = headers.pick ["x-paystack-signature", "X-Paystack-Signature"])
  | .flutterwave =>
    let secret := secrets.pick ["secret_hash", "secretHash", "webhook_secret", "secret_key"]
    let signature := headers.pick ["verif-hash", "Verif-Hash"]
    .ok (secret ≠ "" && signature ≠ "" && signature = secret)
  | .stub _ =>
    let expected := secrets.pick ["webhook_secret", "secret_key"]
    .ok (expected ≠ "" && List.lookup "x-webhook-secret" headers = some expected)

/-! ## The gateway of a checkout -/

structure PaymentContextDef where
  key : String
  requiredFeatures : List String
  allowedGateways : List String
  defaultEnabled : Bool := true

def paymentContexts : List PaymentContextDef :=
  let school := ["paystack", "flutterwave", "opay", "palmpay", "momo", "monnify"]
  [{ key := "school_invoice", requiredFeatures := ["fees.gateway"], allowedGateways := school },
    { key := "school_installment"
      requiredFeatures := ["fees.gateway", "fees.installments"], allowedGateways := school },
    { key := "school_advance"
      requiredFeatures := ["fees.gateway", "fees.advance_payment"], allowedGateways := school },
    { key := "tutoring_session", requiredFeatures := ["tutoring.payments"]
      allowedGateways := ["paystack", "flutterwave", "opay", "palmpay", "momo"] },
    { key := "saas_subscription", requiredFeatures := []
      allowedGateways := ["paystack", "flutterwave"] }]

def getContext (key : String) : Option PaymentContextDef :=
  paymentContexts.find? fun context => context.key = key

structure ContextSettings where
  contextKey : String
  enabled : Bool
  gatewayId : Option String

/-- What the control plane configures for a tenant. -/
structure PaymentSettings where
  contexts : List ContextSettings := []
  gateways : List (String × Bool) := []
  /-- `default_gateway_id`, by the scope of the secrets. -/
  defaultGateway : String → String := fun _ => "paystack"

/-- `context_binding`: whether the button is on, and its gateway. -/
def PaymentSettings.contextBinding (context : PaymentContextDef) :
    Bool × String :=
  match settings.contexts.find? fun row => row.contextKey = context.key with
  | none => (context.defaultEnabled, "paystack")
  | some row => (row.enabled, either (row.gatewayId.getD "") "paystack")

def PaymentSettings.gatewayEnabled (gatewayId : String) : Bool :=
  (List.lookup gatewayId settings.gateways).getD true

def GatewayResolver.secretScope (tenantId contextKey : String) : String :=
  if contextKey = "saas_subscription" then "__platform__" else tenantId

def GatewayResolver.resolve (tenantId contextKey : String)
    (requestedGateway : Option String) : Except PaymentError (String × PaymentContextDef) :=
  match getContext contextKey with
  | none => .error (403, "Unknown payment context: " ++ contextKey)
  | some context =>
    let binding := settings.contextBinding context
    if binding.1 = false then
      .error (403, "Payment button '" ++ contextKey ++ "' is disabled for this school")
    else
      let chosen := either (requestedGateway.getD "") binding.2
      let gatewayId :=
        either chosen (settings.defaultGateway (secretScope tenantId contextKey))
      if gatewayId = "disabled" then
        .error (403, "Payment gateway is disabled in control plane")
      else if gatewayId ∉ context.allowedGateways then
        .error (403, "Gateway '" ++ gatewayId ++ "' is not allowed for payment context '"
          ++ contextKey ++ "'")
      else if (gatewayRegistry gatewayId).isNone then
        .error (403, "Gateway adapter '" ++ gatewayId ++ "' is not registered")
      else if settings.gatewayEnabled gatewayId = false then
        .error (403, "Gateway '" ++ gatewayId ++ "' is disabled for this school")
      else .ok (gatewayId, context)

end MultiAcademy.Payment
