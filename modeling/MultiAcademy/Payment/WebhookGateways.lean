import MultiAcademy.Payment.CheckoutSessions

/-!
# Webhooks and the gateway of a session

A webhook is checked by the adapter of the gateway in its URL, with the secrets of the
session that this adapter reads out of the body.  The gateway the session was created with is
asked by `CheckoutService.verify`, and not by `WebhookService.handle`.
-/

namespace MultiAcademy.Payment

open MultiAcademy.Lib

/-- What the delivery names under `adapter` is, for the first time, the success of session `k`,
and it passes the adapter's check with the secrets of that session. -/
structure Delivers (crypto : Crypto) (vault : Vault) (request : WebhookRequest) (db : PaymentDb)
    (adapter : Adapter) (k : ℕ) (session : PaymentCheckoutSession) : Prop where
  registered : gatewayRegistry request.gatewayId = some adapter
  names : ∃ payload ∈ request.payload,
    (adapter.parseWebhook payload).reference ≠ ""
      ∧ (adapter.parseWebhook payload).status = "success"
      ∧ findSession (fun row => row.reference = (adapter.parseWebhook payload).reference) db
        = some (k, session)
  passes : ∃ secrets ∈ vault (GatewayResolver.secretScope session.tenantId session.contextKey),
    adapter.verifyWebhookSignature crypto secrets request.headers request.rawBody = .ok true
  first : isDuplicate (crypto.sha256 request.rawBody) db = false

/-- The delivery was checked by the adapter of the gateway the session was created with, with
the secrets of the session. -/
def ThroughOwnGateway (crypto : Crypto) (vault : Vault) (request : WebhookRequest)
    (session : PaymentCheckoutSession) : Prop :=
  ∃ adapter ∈ gatewayRegistry session.gatewayId,
    gatewayRegistry request.gatewayId = some adapter
      ∧ ∃ secrets ∈ vault (GatewayResolver.secretScope session.tenantId session.contextKey),
        adapter.verifyWebhookSignature crypto secrets request.headers request.rawBody = .ok true

section
variable {crypto : Crypto} {vault : Vault} {request : WebhookRequest} {db : PaymentDb}
  {adapter : Adapter} {k : ℕ} {session : PaymentCheckoutSession}

/-- An adapter is registered under its own id. -/
theorem gatewayRegistry_id {gatewayId : String} (h : gatewayRegistry gatewayId = some adapter) :
    adapter.id = gatewayId := by
  unfold gatewayRegistry at h
  split at h
  · rename_i hid
    cases h
    exact hid.symm
  split at h
  · rename_i hid
    cases h
    exact hid.symm
  split at h
  · cases h
    rfl
  · cases h

theorem secrets_eq_ok {scope : String} {secrets : Fields} :
    vault.secrets scope = .ok secrets ↔ vault scope = some secrets := by
  unfold Vault.secrets
  cases vault scope <;> simp

/-- What `handle` has checked by the time it reads the body for good. -/
theorem authenticate_eq_ok {tenantId : Option String} {parsed : WebhookParseResult} :
    WebhookService.authenticate crypto vault request db = .ok (tenantId, parsed)
      ↔ ∃ adapter payload secrets, gatewayRegistry request.gatewayId = some adapter
        ∧ request.payload = some payload ∧ adapter.parseWebhook payload = parsed
        ∧ (previewTenant parsed db).1 = tenantId
        ∧ vault (previewTenant parsed db).2 = some secrets
        ∧ adapter.verifyWebhookSignature crypto secrets request.headers request.rawBody
          = .ok true := by
  unfold WebhookService.authenticate
  cases hadapter : gatewayRegistry request.gatewayId with
  | none => simp
  | some adapter =>
    cases hpayload : request.payload with
    | none => simp
    | some payload =>
      constructor
      · intro h
        obtain ⟨secrets, hsecrets, h⟩ := bind_eq_ok.1 h
        obtain ⟨valid, hvalid, h⟩ := bind_eq_ok.1 h
        obtain ⟨hpass, h⟩ := check_eq_ok.1 h
        cases h
        obtain rfl : valid = true := by simpa using hpass
        exact ⟨adapter, payload, secrets, rfl, rfl, rfl, rfl, secrets_eq_ok.1 hsecrets,
          hvalid⟩
      rintro ⟨_, _, secrets, ⟨⟩, ⟨⟩, rfl, rfl, hsecrets, hvalid⟩
      exact bind_eq_ok.2 ⟨secrets, secrets_eq_ok.2 hsecrets,
        bind_eq_ok.2 ⟨true, hvalid, rfl⟩⟩

theorem acceptedWebhook_eq_some {parsed : WebhookParseResult} :
    acceptedWebhook crypto vault request db = some parsed
      ↔ (∃ tenantId, WebhookService.authenticate crypto vault request db = .ok (tenantId, parsed))
        ∧ parsed.reference ≠ "" ∧ isDuplicate (crypto.sha256 request.rawBody) db = false := by
  unfold acceptedWebhook
  cases WebhookService.authenticate crypto vault request db with
  | error error => simp [Except.toOption]
  | ok found =>
    obtain ⟨tenantId, said⟩ := found
    simp only [Except.toOption, Option.map_some, Option.filter_eq_some_iff, Option.some.injEq,
      Bool.and_eq_true, decide_eq_true_eq, Bool.not_eq_true', Except.ok.injEq, Prod.mk.injEq,
      exists_eq_left']

theorem previewTenant_of_found {parsed : WebhookParseResult} (hnamed : parsed.reference ≠ "")
    (hfound : findSession (fun row => row.reference = parsed.reference) db = some (k, session)) :
    previewTenant parsed db
      = (some session.tenantId,
        GatewayResolver.secretScope session.tenantId session.contextKey) := by
  simp [previewTenant, hnamed, hfound]

/-- **When a delivery settles a pending session.** -/
theorem settled_webhook_iff (hrow : db.sessions[k]? = some session)
    (hpending : session.status = .pending) :
    Settled k (paymentStep crypto (.webhook vault request) db)
      ↔ ∃ adapter, Delivers crypto vault request db adapter k session := by
  have hopen : ¬ Settled k db := by
    rintro ⟨row, hrow', hsettled⟩
    cases hrow.symm.trans hrow'
    rw [hpending] at hsettled
    cases hsettled
  rw [settled_webhook, or_iff_right hopen]
  constructor
  · rintro ⟨r, hreport⟩
    simp only [reported] at hreport
    obtain ⟨parsed, haccepted, hreport⟩ := Option.bind_eq_some_iff.1 hreport
    split at hreport
    · rename_i hsuccess
      obtain ⟨⟨id, row⟩, hfound, heq⟩ := Option.map_eq_some_iff.1 hreport
      cases heq
      cases hrow.symm.trans (findSession_eq_some hfound)
      obtain ⟨⟨tenantId, hauth⟩, hnamed, hfirst⟩ := acceptedWebhook_eq_some.1 haccepted
      obtain ⟨adapter, payload, secrets, hadapter, hpayload, rfl, -, hsecrets, hpass⟩ :=
        authenticate_eq_ok.1 hauth
      rw [previewTenant_of_found hnamed hfound] at hsecrets
      exact ⟨adapter, hadapter, ⟨payload, hpayload, hnamed, hsuccess, hfound⟩,
        ⟨secrets, hsecrets, hpass⟩, hfirst⟩
    · cases hreport
  rintro ⟨adapter, hadapter, ⟨payload, hpayload, hnamed, hsuccess, hfound⟩,
    ⟨secrets, hsecrets, hpass⟩, hfirst⟩
  have hvault : vault (previewTenant (adapter.parseWebhook payload) db).2 = some secrets := by
    rw [previewTenant_of_found hnamed hfound]
    exact hsecrets
  have hauth := authenticate_eq_ok.2
    ⟨adapter, payload, secrets, hadapter, hpayload, rfl, rfl, hvault, hpass⟩
  have haccepted := acceptedWebhook_eq_some.2 ⟨⟨_, hauth⟩, hnamed, hfirst⟩
  simp [reported, haccepted, hsuccess, hfound]

end

/-- **A session is settled through its own gateway, unless another gateway vouches for it.**
Every pending session that a delivery settles was authenticated by the adapter of the gateway
the session was created with, exactly when the delivery does not name a pending session of
another gateway than the one in its URL, as a success, and pass that one's check. -/
theorem settles_through_own_gateway_iff (crypto : Crypto) (vault : Vault)
    (request : WebhookRequest) (db : PaymentDb) :
    (∀ k session, db.sessions[k]? = some session → session.status = .pending →
        Settled k (paymentStep crypto (.webhook vault request) db) →
          ThroughOwnGateway crypto vault request session)
      ↔ ∀ adapter k session, db.sessions[k]? = some session → session.status = .pending →
        Delivers crypto vault request db adapter k session →
          session.gatewayId = request.gatewayId := by
  constructor
  · intro h adapter k session hrow hpending hdeliver
    have hsettled := (settled_webhook_iff hrow hpending).2 ⟨adapter, hdeliver⟩
    obtain ⟨own, hown, hsent, -⟩ := h k session hrow hpending hsettled
    exact (gatewayRegistry_id hown).symm.trans (gatewayRegistry_id hsent)
  intro h k session hrow hpending hsettled
  obtain ⟨adapter, hdeliver⟩ := (settled_webhook_iff hrow hpending).1 hsettled
  have hgateway := h adapter k session hrow hpending hdeliver
  have hown : gatewayRegistry session.gatewayId = some adapter :=
    hgateway ▸ hdeliver.registered
  exact ⟨adapter, hown, hdeliver.registered, hdeliver.passes⟩

namespace Example

def paystackOrder : PaymentDb :=
  { sessions :=
      [{ tenantId := "school", contextKey := "school_invoice", gatewayId := "paystack"
         reference := "pay_1", amountMinor := 50000, currency := "NGN" }] }

/-- A delivery to the stub of another gateway, with the secret in a header. -/
def stubDelivery : WebhookRequest :=
  { gatewayId := "opay"
    headers := [("x-webhook-secret", "sk_live")]
    rawBody := "paid"
    payload := some { reference := "pay_1", status := "success" } }

end Example

/-- A session is not always settled through its own gateway: a stub vouches for one of
Paystack, which never signed anything. -/
theorem not_settles_through_own_gateway :
    ¬ ∀ k session, Example.paystackOrder.sessions[k]? = some session →
      session.status = .pending →
      Settled k (paymentStep Example.digests (.webhook Example.vault Example.stubDelivery)
        Example.paystackOrder) →
      ThroughOwnGateway Example.digests Example.vault Example.stubDelivery session := by
  intro h
  obtain ⟨adapter, hown, hsent, -⟩ := h 0 _ rfl rfl ⟨_, rfl, by decide⟩
  have hpaystack := gatewayRegistry_id hown
  rw [gatewayRegistry_id hsent] at hpaystack
  exact absurd hpaystack (by decide)

end MultiAcademy.Payment
