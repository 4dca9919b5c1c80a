import MultiAcademy.Lib.Fallible
import MultiAcademy.Lib.Run
import MultiAcademy.Payment.Gateways

/-!
# Checkout sessions of the payment service

`checkout_service.py` and `webhook_service.py`.  A session is settled by `verify`, which asks
the session's gateway, or by a webhook that passes the signature check of the gateway it was
sent to.  Both read the status that is reported and nothing else of the report.
-/

namespace MultiAcademy.Payment

open MultiAcademy.Lib

/-! ## The tables -/

inductive SessionStatus
  | pending | settled
  deriving DecidableEq

/-- A row of `payment_checkout_sessions`. -/
structure PaymentCheckoutSession where
  tenantId : String
  contextKey : String
  gatewayId : String
  reference : String
  amountMinor : ℤ
  currency : String
  status : SessionStatus := .pending
  providerReference : Option String := none
  deriving DecidableEq

/-- A row of `payment_webhook_events`. -/
structure PaymentWebhookEvent where
  tenantId : Option String
  gatewayId : String
  eventKey : String
  reference : String
  status : String
  deriving DecidableEq

structure PaymentDb where
  sessions : Table PaymentCheckoutSession := []
  events : Table PaymentWebhookEvent := []
  deriving DecidableEq

/-- `filter(…).one_or_none()`; references are unique. -/
def findSession (p : PaymentCheckoutSession → Bool) (db : PaymentDb) :
    Option (ℕ × PaymentCheckoutSession) :=
  (db.sessions.first? p).bind fun id => db.sessions[id]?.map fun row => (id, row)

/-- `session.status = "settled"`, with the provider's reference. -/
def PaymentCheckoutSession.settle (providerReference : String) (row : PaymentCheckoutSession) :
    PaymentCheckoutSession :=
  { row with status := .settled, providerReference := some providerReference }

/-- A session that is not settled yet is settled on the status `success`. -/
def settleOn (status : String) (id : ℕ) (session : PaymentCheckoutSession)
    (providerReference : String) (sessions : Table PaymentCheckoutSession) :
    Table PaymentCheckoutSession :=
  if status = "success" ∧ session.status ≠ .settled then
    sessions.modify id (PaymentCheckoutSession.settle providerReference)
  else sessions

/-! ## `checkout_service.py` -/

structure RequestContext where
  tenantId : String
  features : List String

structure ServiceSettings where
  appEnv : String := "development"
  defaultCurrency : String := "NGN"

/-- The secrets the control plane answers with for a scope, when it answers. -/
abbrev Vault := String → Option Fields

/-- `get_provider_secrets`. -/
def Vault.secrets (vault : Vault) (scope : String) : Except PaymentError Fields :=
  match vault scope with
  | some secrets => .ok secrets
  | none => .error (500, "Internal Server Error")

/-- The request of `create_checkout`. -/
structure CheckoutRequest where
  contextKey : String
  amountMinor : ℤ
  currency : Option String := none
  reference : Option String := none
  gatewayId : Option String := none

variable (ctx : RequestContext)

def CheckoutService.assertFeatures (required : List String) :
    Except PaymentError Unit :=
  let missing := required.filter fun feature => feature ∉ ctx.features
  if missing ≠ [] then
    .error (400, "Required features not enabled: " ++ String.intercalate ", " missing)
  else .ok ()

/-- What `create_checkout` returns. -/
structure CheckoutResponse where
  sessionId : ℕ
  reference : String
  contextKey : String
  gatewayId : String
  checkoutUrl : String
  status : SessionStatus

def CheckoutService.adapterFor (settings : ServiceSettings) (gatewayId : String) :
    Except PaymentError Adapter :=
  match gatewayRegistry gatewayId with
  | none => .error (403, "Gateway '" ++ gatewayId ++ "' unavailable")
  | some adapter =>
    if settings.appEnv = "production" ∧ isStubGateway gatewayId = true then
      .error (403, "Gateway '" ++ gatewayId ++ "' is not available in production")
    else .ok adapter

/-- `db.add(session)` and `db.flush()`: the unique index refuses a second row of a
reference. -/
def insertSession (row : PaymentCheckoutSession) (db : PaymentDb) : Except PaymentError PaymentDb :=
  if db.sessions.existsRow fun other => other.reference = row.reference then
    .error (500, "Internal Server Error")
  else .ok { db with sessions := db.sessions.insert row }

/-- `create_checkout`, with the reference that is drawn for it and what the gateway answers. -/
def CheckoutService.createCheckout (settings : ServiceSettings) (payment : PaymentSettings)
    (ctx : RequestContext) (request : CheckoutRequest) (drawn : String) (vault : Vault)
    (answer : Except PaymentError String) (db : PaymentDb) :
    Except PaymentError (CheckoutResponse × PaymentDb) := do
  if request.amountMinor ≤ 0 then throw (400, "Invalid amount")
  let (gatewayId, context) ←
    GatewayResolver.resolve payment ctx.tenantId request.contextKey request.gatewayId
  assertFeatures ctx context.requiredFeatures
  let _ ← adapterFor settings gatewayId
  let _ ← vault.secrets (GatewayResolver.secretScope ctx.tenantId request.contextKey)
  let reference := either (request.reference.getD "") drawn
  let session : PaymentCheckoutSession :=
    { tenantId := ctx.tenantId
      contextKey := request.contextKey
      gatewayId, reference
      amountMinor := request.amountMinor
      currency := (either (request.currency.getD "") settings.defaultCurrency).toUpper }
  let written ← insertSession session db
  let checkoutUrl ← answer
  return ({ sessionId := db.sessions.nextId, reference, contextKey := request.contextKey
            gatewayId, checkoutUrl, status := .pending }, written)

/-- What `verify` returns. -/
structure VerifyResponse where
  result : VerificationResult
  contextKey : String
  sessionId : ℕ

/-- `verify` up to the gateway's result. -/
def CheckoutService.verification (reference : String) (vault : Vault)
    (answer : Option ProviderTransaction) (db : PaymentDb) :
    Except PaymentError (ℕ × PaymentCheckoutSession × VerificationResult) :=
  match findSession (fun row => row.tenantId = ctx.tenantId && row.reference = reference) db with
  | none => .error (404, "Checkout session not found")
  | some (id, session) =>
    match gatewayRegistry session.gatewayId with
    | none => .error (403, "Gateway '" ++ session.gatewayId ++ "' unavailable")
    | some adapter => do
      let secrets ← vault.secrets (GatewayResolver.secretScope ctx.tenantId session.contextKey)
      let result ← adapter.verifyTransaction secrets reference answer
      return (id, session, result)

/-- `verify`, given the transaction the provider answers with. -/
def CheckoutService.verify (reference : String) (vault : Vault)
    (answer : Option ProviderTransaction) (db : PaymentDb) :
    Except PaymentError (VerifyResponse × PaymentDb) := do
  let (id, session, result) ← verification ctx reference vault answer db
  let sessions :=
    settleOn result.status id session (either result.providerReference reference) db.sessions
  return ({ result, contextKey := session.contextKey, sessionId := id }, { db with sessions })

/-! ## `webhook_service.py` -/

/-- A webhook: its body, and what `json.loads` makes of it. -/
structure WebhookRequest where
  gatewayId : String
  headers : Fields
  rawBody : String
  payload : Option WebhookPayload

/-- What `handle` returns. -/
structure WebhookReply where
  status : String
  reference : Option String := none
  tenantId : Option String := none

/-- The session a webhook's preview names: the tenant's, or no one's. -/
def previewTenant (parsed : WebhookParseResult) (db : PaymentDb) : Option String × String :=
  if parsed.reference = "" then (none, "__platform__")
  else
    match findSession (fun row => row.reference = parsed.reference) db with
    | none => (none, "__platform__")
    | some (_, session) =>
      (some session.tenantId, GatewayResolver.secretScope session.tenantId session.contextKey)

/-- `handle` up to the signature: the tenant, and what the webhook says. -/
def WebhookService.authenticate (crypto : Crypto) (vault : Vault) (request : WebhookRequest)
    (db : PaymentDb) : Except PaymentError (Option String × WebhookParseResult) :=
  match gatewayRegistry request.gatewayId with
  | none => .error (400, "Unknown gateway: " ++ request.gatewayId)
  | some adapter =>
    match request.payload with
    | none => .error (400, "Expecting value")
    | some payload => do
      let parsed := adapter.parseWebhook payload
      let (tenantId, scope) := previewTenant parsed db
      let secrets ← vault.secrets scope
      let valid ←
        adapter.verifyWebhookSignature crypto secrets request.headers request.rawBody
      if valid = false then throw (403, "Invalid webhook signature")
      return (tenantId, parsed)

/-- The webhook was accepted before. -/
def isDuplicate (eventKey : String) (db : PaymentDb) : Bool :=
  db.events.existsRow fun row => row.eventKey = eventKey

def WebhookService.handle (crypto : Crypto) (vault : Vault) (request : WebhookRequest)
    (db : PaymentDb) : Except PaymentError (WebhookReply × PaymentDb) := do
  let (tenantId, parsed) ← authenticate crypto vault request db
  if parsed.reference = "" then return ({ status := "ignored" }, db)
  let eventKey := crypto.sha256 request.rawBody
  if isDuplicate eventKey db then
    return ({ status := "duplicate", reference := some parsed.reference }, db)
  let events := db.events.insert
    { tenantId, gatewayId := request.gatewayId, eventKey
      reference := parsed.reference, status := parsed.status }
  let sessions :=
    match findSession (fun row => row.reference = parsed.reference) db with
    | none => db.sessions
    | some (id, session) => settleOn parsed.status id session parsed.reference db.sessions
  return ({ status := parsed.status, reference := some parsed.reference
            tenantId := some (tenantId.getD "") }, { sessions, events })

/-! ## One request after another -/

/-- A request. -/
inductive PaymentEvent
  | createCheckout (settings : ServiceSettings) (payment : PaymentSettings) (ctx : RequestContext)
      (request : CheckoutRequest) (drawn : String) (vault : Vault)
      (answer : Except PaymentError String)
  | verify (ctx : RequestContext) (reference : String) (vault : Vault)
      (answer : Option ProviderTransaction)
  | webhook (vault : Vault) (request : WebhookRequest)

/-- What a request leaves; a refusal is rolled back. -/
def written {ρ : Type} (db : PaymentDb) : Except PaymentError (ρ × PaymentDb) → PaymentDb
  | .ok (_, db') => db'
  | .error _ => db

def paymentStep (crypto : Crypto) (e : PaymentEvent) (db : PaymentDb) : PaymentDb :=
  match e with
  | .createCheckout settings payment ctx request drawn vault answer =>
    written db
      (CheckoutService.createCheckout settings payment ctx request drawn vault answer db)
  | .verify ctx reference vault answer =>
    written db (CheckoutService.verify ctx reference vault answer db)
  | .webhook vault request => written db (WebhookService.handle crypto vault request db)

/-! ## What is reported, and what was ordered -/

structure ProviderReport where
  gatewayId : String
  reference : String
  amountMinor : ℤ
  currency : String
  deriving DecidableEq

def PaymentCheckoutSession.ordered (row : PaymentCheckoutSession) : ProviderReport :=
  { gatewayId := row.gatewayId, reference := row.reference
    amountMinor := row.amountMinor, currency := row.currency }

/-- A webhook that passes the signature check, for the first time. -/
def acceptedWebhook (crypto : Crypto) (vault : Vault) (request : WebhookRequest)
    (db : PaymentDb) : Option WebhookParseResult :=
  ((WebhookService.authenticate crypto vault request db).toOption.map Prod.snd).filter
    fun parsed => parsed.reference ≠ "" && !isDuplicate (crypto.sha256 request.rawBody) db

/-- The success that a request reports, with the session it is for. -/
def reported (crypto : Crypto) (db : PaymentDb) : PaymentEvent → Option (ℕ × ProviderReport)
  | .createCheckout .. => none
  | .verify ctx reference vault answer =>
    ((CheckoutService.verification ctx reference vault answer db).toOption.filter
      fun found => found.2.2.status = "success").map fun (id, session, result) =>
        (id, { gatewayId := session.gatewayId, reference := result.reference
               amountMinor := result.amountMinor, currency := result.currency })
  | .webhook vault request =>
    (acceptedWebhook crypto vault request db).bind fun parsed =>
      if parsed.status = "success" then
        (findSession (fun row => row.reference = parsed.reference) db).map fun (id, _) =>
          (id, { gatewayId := request.gatewayId, reference := parsed.reference
                 amountMinor := parsed.amountMinor, currency := parsed.currency })
      else none

/-- Session `k` is settled. -/
def Settled (k : ℕ) (db : PaymentDb) : Prop := ∃ row ∈ db.sessions[k]?, row.status = .settled

/-- The request reports of session `k` what it was opened for. -/
def ReportsOrdered (crypto : Crypto) (k : ℕ) (db : PaymentDb) (e : PaymentEvent) : Prop :=
  ∃ row ∈ db.sessions[k]?, reported crypto db e = some (k, row.ordered)

/-- A success that is reported of a pending session is of what it was opened for. -/
def TrueReport (crypto : Crypto) (db : PaymentDb) (e : PaymentEvent) : Prop :=
  ∀ found ∈ reported crypto db e, ∀ row ∈ db.sessions[found.1]?,
    row.status = .pending → found.2 = row.ordered

instance (crypto : Crypto) (db : PaymentDb) (e : PaymentEvent) :
    Decidable (TrueReport crypto db e) :=
  inferInstanceAs (Decidable (∀ found ∈ reported crypto db e, _))

variable {crypto : Crypto} {db db' : PaymentDb} {e : PaymentEvent} {k : ℕ}

/-! ## One request -/

theorem findSession_eq_some {p : PaymentCheckoutSession → Bool} {id : ℕ}
    {row : PaymentCheckoutSession} (h : findSession p db = some (id, row)) :
    db.sessions[id]? = some row := by
  simp only [findSession] at h
  obtain ⟨id', -, hmap⟩ := Option.bind_eq_some_iff.1 h
  obtain ⟨row', hrow, heq⟩ := Option.map_eq_some_iff.1 hmap
  cases heq
  exact hrow

/-- Settling one session settles no other. -/
theorem settled_settleOn {status q : String} {id : ℕ} {session : PaymentCheckoutSession}
    (hrow : db.sessions[id]? = some session)
    (hsessions : db'.sessions = settleOn status id session q db.sessions) :
    Settled k db' ↔ Settled k db ∨ (status = "success" ∧ id = k) := by
  simp only [Settled, hsessions, settleOn]
  by_cases hk : id = k
  · subst hk
    by_cases hpending : status = "success" ∧ session.status ≠ .settled
    · rw [if_pos hpending]
      simp [hrow, hpending.1, PaymentCheckoutSession.settle]
    rw [if_neg hpending]
    simp only [hrow, Option.mem_def, Option.some.injEq, exists_eq_left', and_true]
    refine (or_iff_left_of_imp ?_).symm
    intro hsuccess
    by_contra hopen
    exact hpending ⟨hsuccess, hopen⟩
  simp only [hk, and_false, or_false]
  split
  · rw [List.getElem?_modify_ne _ _ hk]
  · exact Iff.rfl

/-- A checkout opens a pending session. -/
theorem settled_createCheckout {settings : ServiceSettings} {payment : PaymentSettings}
    {ctx : RequestContext} {request : CheckoutRequest} {drawn : String} {vault : Vault}
    {answer : Except PaymentError String} {response : CheckoutResponse}
    (h : CheckoutService.createCheckout settings payment ctx request drawn vault answer db
      = .ok (response, db')) : Settled k db' ↔ Settled k db := by
  simp only [CheckoutService.createCheckout] at h
  split at h
  · cases h
  obtain ⟨⟨gatewayId, context⟩, -, h⟩ := bind_eq_ok.1 h
  obtain ⟨_, -, h⟩ := bind_eq_ok.1 h
  obtain ⟨_, -, h⟩ := bind_eq_ok.1 h
  obtain ⟨_, -, h⟩ := bind_eq_ok.1 h
  obtain ⟨inserted, hinsert, h⟩ := bind_eq_ok.1 h
  obtain ⟨_, -, h⟩ := bind_eq_ok.1 h
  cases h
  simp only [insertSession] at hinsert
  split at hinsert
  · cases hinsert
  cases hinsert
  simp only [Settled, Table.getElem?_insert]
  split
  · rename_i hk
    subst hk
    simp [Table.nextId]
  · exact Iff.rfl

theorem verification_row {ctx : RequestContext} {reference : String} {vault : Vault}
    {answer : Option ProviderTransaction} {id : ℕ} {session : PaymentCheckoutSession}
    {result : VerificationResult}
    (h : CheckoutService.verification ctx reference vault answer db = .ok (id, session, result)) :
    db.sessions[id]? = some session := by
  simp only [CheckoutService.verification] at h
  split at h
  · cases h
  rename_i hfound
  split at h
  · cases h
  obtain ⟨_, -, h⟩ := bind_eq_ok.1 h
  obtain ⟨_, -, h⟩ := bind_eq_ok.1 h
  cases h
  exact findSession_eq_some hfound

/-- What is reported is reported of a session. -/
theorem reported_row {r : ProviderReport} (h : reported crypto db e = some (k, r)) :
    ∃ row, db.sessions[k]? = some row := by
  cases e with
  | createCheckout => cases h
  | verify ctx reference vault answer =>
    simp only [reported] at h
    obtain ⟨⟨id, session, result⟩, hfound, heq⟩ := Option.map_eq_some_iff.1 h
    cases heq
    cases hresult : CheckoutService.verification ctx reference vault answer db with
    | error error => rw [hresult] at hfound; cases hfound
    | ok found =>
      rw [hresult] at hfound
      obtain ⟨heq, -⟩ := Option.filter_eq_some_iff.1 hfound
      cases heq
      exact ⟨session, verification_row hresult⟩
  | webhook vault request =>
    simp only [reported] at h
    obtain ⟨parsed, -, h⟩ := Option.bind_eq_some_iff.1 h
    split at h
    · obtain ⟨⟨id, session⟩, hfound, heq⟩ := Option.map_eq_some_iff.1 h
      cases heq
      exact ⟨session, findSession_eq_some hfound⟩
    · cases h

/-- `verify` settles the session of which its gateway reports a success. -/
theorem settled_verify (reference : String) (vault : Vault)
    (answer : Option ProviderTransaction) :
    Settled k (paymentStep crypto (.verify ctx reference vault answer) db)
      ↔ Settled k db
        ∨ ∃ r, reported crypto db (.verify ctx reference vault answer) = some (k, r) := by
  simp only [paymentStep, CheckoutService.verify, reported]
  cases hresult : CheckoutService.verification ctx reference vault answer db with
  | error error => simp [written, bind, Except.bind, Except.toOption]
  | ok found =>
    obtain ⟨id, session, result⟩ := found
    refine (settled_settleOn (verification_row hresult) rfl).trans (or_congr Iff.rfl ?_)
    by_cases hsuccess : result.status = "success"
    · simp [Except.toOption, hsuccess]
    · simp [Except.toOption, hsuccess]

/-- A webhook settles the session of which it reports a success. -/
theorem settled_webhook (vault : Vault) (request : WebhookRequest) :
    Settled k (paymentStep crypto (.webhook vault request) db)
      ↔ Settled k db ∨ ∃ r, reported crypto db (.webhook vault request) = some (k, r) := by
  simp only [paymentStep, WebhookService.handle, reported, acceptedWebhook]
  cases WebhookService.authenticate crypto vault request db with
  | error error => simp [written, bind, Except.bind, Except.toOption]
  | ok found =>
    obtain ⟨tenantId, parsed⟩ := found
    by_cases hempty : parsed.reference = ""
    · simp [written, bind, Except.bind, Except.toOption, hempty, pure, Except.pure,
        Option.filter_some]
    by_cases hduplicate : isDuplicate (crypto.sha256 request.rawBody) db = true
    · simp [written, bind, Except.bind, Except.toOption, hempty, hduplicate, pure,
        Except.pure, Option.filter_some]
    simp only [bind, Except.bind, Except.toOption, hempty, hduplicate, if_false, pure,
      Except.pure, written, Option.map_some, Option.filter_some]
    simp only [ne_eq, hempty, not_false_eq_true, decide_true, Bool.true_and,
      Bool.not_eq_true', if_true, Option.bind_some]
    cases hfound : findSession (fun row => row.reference = parsed.reference) db with
    | none => simp [Settled]
    | some found =>
      obtain ⟨id, session⟩ := found
      refine (settled_settleOn (findSession_eq_some hfound) rfl).trans
        (or_congr Iff.rfl ?_)
      by_cases hsuccess : parsed.status = "success"
      · simp [hsuccess]
      · simp [hsuccess]

/-- **A request settles the session of which it reports a success, and no other.** -/
theorem settled_paymentStep :
    Settled k (paymentStep crypto e db)
      ↔ Settled k db ∨ ∃ r, reported crypto db e = some (k, r) := by
  cases e with
  | createCheckout settings payment ctx request drawn vault answer =>
    simp only [reported, reduceCtorEq, exists_false, or_false, paymentStep]
    cases hcheckout : CheckoutService.createCheckout settings payment ctx request drawn vault
        answer db with
    | error error => exact Iff.rfl
    | ok result => exact settled_createCheckout hcheckout
  | verify ctx reference vault answer => exact settled_verify ctx reference vault answer
  | webhook vault request => exact settled_webhook vault request

/-- A request settles sessions as they were ordered exactly when its report is true. -/
theorem trueReport_iff :
    (∀ k, ¬ Settled k db → Settled k (paymentStep crypto e db) → ReportsOrdered crypto k db e)
      ↔ TrueReport crypto db e := by
  constructor
  · rintro h ⟨k, r⟩ hreport row hrow hpending
    have hopen : ¬ Settled k db := by
      rintro ⟨row', hrow', hsettled⟩
      cases hrow.symm.trans hrow'
      rw [hpending] at hsettled
      cases hsettled
    obtain ⟨row', hrow', hordered⟩ := h k hopen (settled_paymentStep.2 (Or.inr ⟨r, hreport⟩))
    cases hrow.symm.trans hrow'
    cases hreport.symm.trans hordered
    rfl
  intro h k hopen hsettled
  rcases settled_paymentStep.1 hsettled with hbefore | ⟨r, hreport⟩
  · exact absurd hbefore hopen
  obtain ⟨row, hrow⟩ := reported_row hreport
  have hpending : row.status = .pending := by
    cases hstatus : row.status with
    | pending => rfl
    | settled => exact absurd ⟨row, hrow, hstatus⟩ hopen
  have hordered : r = row.ordered := h (k, r) hreport row hrow hpending
  exact ⟨row, hrow, by rw [hreport, hordered]⟩

/-! ## Runs -/

/-- **Every session that is settled was reported, by its gateway and for its reference, with
its amount and its currency, exactly when every success that is reported of a pending session
is so.** -/
theorem settled_only_as_ordered_iff (crypto : Crypto) (es : List PaymentEvent) :
    (∀ pre, pre <+: es → ∀ k, Settled k (run (paymentStep crypto) {} pre) →
        ∃ before e after, pre = before ++ e :: after
          ∧ ReportsOrdered crypto k (run (paymentStep crypto) {} before) e)
      ↔ Along (paymentStep crypto) (TrueReport crypto) {} es := by
  have hstart : ∀ k, ¬ Settled k {} := by
    rintro k ⟨row, hrow, -⟩
    cases hrow
  have hmake : ∀ k db e, ReportsOrdered crypto k db e → Settled k (paymentStep crypto e db) := by
    rintro k db e ⟨row, -, hreport⟩
    exact settled_paymentStep.2 (Or.inr ⟨row.ordered, hreport⟩)
  have hkeep : ∀ k db e, Settled k db → Settled k (paymentStep crypto e db) :=
    fun k db e h => settled_paymentStep.2 (Or.inl h)
  have htraced : Along (paymentStep crypto) (fun db e => ∀ k, ¬ Settled k db →
        Settled k (paymentStep crypto e db) → ReportsOrdered crypto k db e) {} es
      ↔ ∀ pre, pre <+: es → ∀ k, Settled k (run (paymentStep crypto) {} pre) →
        Traced (paymentStep crypto) (ReportsOrdered crypto k) {} pre :=
    along_iff_traced hkeep hmake hstart
  refine htraced.symm.trans ?_
  exact along_congr (I := fun _ => True) (D := fun _ => True) (fun _ _ _ _ => trivial)
    (fun _ _ _ _ => trueReport_iff) (fun _ _ => trivial) trivial

/-! ## A payment of less than the fees -/

namespace Example

/-- Digests that tell texts apart. -/
def digests : Crypto := { sha256 := fun text => text, hmacSha512 := fun key text => key ++ text }

def school : RequestContext := { tenantId := "school", features := ["fees.gateway"] }

def vault : Vault := fun _ => some [("secret_key", "sk_live")]

/-- School fees of 500.00. -/
def order : PaymentEvent :=
  .createCheckout {} {} school { contextKey := "school_invoice", amountMinor := 50000 } "pay_1"
    vault (.ok "https://checkout.paystack.com/1")

def feeSession : PaymentCheckoutSession :=
  { tenantId := "school", contextKey := "school_invoice", gatewayId := "paystack"
    reference := "pay_1", amountMinor := 50000, currency := "NGN" }

/-- The provider knows the reference by a payment of 1.00. -/
def verifyLess : PaymentEvent :=
  .verify school "pay_1" vault
    (some { id := "4099", reference := "pay_1", status := "success", amount := 100
            currency := "NGN" })

end Example

/-- The session is settled, and its amount was never reported. -/
theorem not_settled_only_as_ordered :
    ¬ ∀ (crypto : Crypto) (es : List PaymentEvent) (k : ℕ),
      Settled k (run (paymentStep crypto) {} es) →
        ∃ before e after, es = before ++ e :: after
          ∧ ReportsOrdered crypto k (run (paymentStep crypto) {} before) e := by
  intro h
  obtain ⟨before, e, after, hsplit, row, hrow, hreport⟩ :=
    h Example.digests [Example.order, Example.verifyLess] 0
      ⟨Example.feeSession.settle "4099", by decide +kernel, rfl⟩
  rcases before with _ | ⟨first, _ | ⟨second, before⟩⟩
  · obtain ⟨rfl, -⟩ := List.cons.inj hsplit
    cases hreport
  · obtain ⟨rfl, htail⟩ := List.cons.inj hsplit
    obtain ⟨rfl, -⟩ := List.cons.inj htail
    have hopened : (run (paymentStep Example.digests) {} [Example.order]).sessions[0]?
        = some Example.feeSession := by decide +kernel
    obtain rfl : row = Example.feeSession := Option.some.inj (hrow.symm.trans hopened)
    revert hreport
    decide +kernel
  · simp at hsplit

end MultiAcademy.Payment
