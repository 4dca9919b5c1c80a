import MultiAcademy.Control.BookSteps
import MultiAcademy.School.ProviderSecrets
import MultiAcademy.School.RuntimeConfig

/-!
# The webhook that receives the control plane's events

`platform-config/control-webhook.controller.ts`: one rule takes the tenant out of every
event, whoever enqueued it, and the caches of that tenant are dropped.  The caches are
keyed by external ids, so the rule is right about a row only where its producer has put the
external id in the place the rule looks at.
-/

namespace MultiAcademy.School

open MultiAcademy.Lib
open MultiAcademy.Control (Json OutboxEvent TenantEvent SystemEvent externalIdOf plainPayload
  publicId)

universe u

/-! ## The tenant of an event -/

/-- A value that counts as true in JavaScript. -/
def truthy : Json → Bool
  | .text s => s ≠ ""
  | .number n => n ≠ 0
  | .bool b => b
  | .null => false

/-- `a || b`, where `none` is `undefined`. -/
def jsOr (a b : Option Json) : Option Json := if a.any truthy then a else b

/-- The value in a template literal. -/
def jsText : Json → String
  | .text s => s
  | .number n => toString n
  | .bool b => toString b
  | .null => "null"

/-- `tenantId` of `configChanged`. -/
def webhookTenantId (event : OutboxEvent) : Option Json :=
  jsOr (event.payload.lookup "tenantId")
    (jsOr (event.payload.lookup "tenant_id")
      (if event.aggregateType = "tenant" then some (.text event.aggregateId) else none))

/-- `invalidateAll` of `configChanged`. -/
def flushesAll (event : OutboxEvent) : Bool :=
  (event.payload.lookup "invalidateAll").any truthy || !(webhookTenantId event).any truthy

/-- The invalidations of `configChanged`.  The maps in memory are keyed by strings, so any
other value is no key of theirs; Redis is asked to delete its text. -/
def configChanged {π : Type u} (env : ConfigEnv) (event : OutboxEvent) (config : ConfigState)
    (secrets : SecretState π) : ConfigState × SecretState π :=
  if flushesAll event then (invalidateAll config, invalidateSecrets .all secrets)
  else
    match webhookTenantId event with
    | some (.text tenantId) =>
      (invalidateTenant env tenantId config, invalidateSecrets (.tenant tenantId) secrets)
    | some value =>
      ({ config with
        redis := if env.redisEnabled then config.redis.send (.del (jsText value))
          else config.redis }, secrets)
    | none => (config, secrets)

/-- Delivery of the event leaves nothing of the tenant in the two caches. -/
def DropsCaches (event : OutboxEvent) (x : String) : Prop :=
  ∀ (env : ConfigEnv) (config : ConfigState) (secrets : SecretState Unit),
    (configChanged env event config secrets).1.cache.get? x = none
      ∧ (configChanged env event config secrets).2.cache.get? x = none

theorem dropsCaches_of_tenantId {event : OutboxEvent} {x : String}
    (h : webhookTenantId event = some (.text x)) : DropsCaches event x := by
  intro env config secrets
  simp only [configChanged]
  split
  · exact ⟨rfl, rfl⟩
  rw [h]
  simp [invalidateTenant, invalidateSecrets, Flush.drop, OrderedMap.get?_erase]

/-! ## The rows of the producers -/

variable {t : ℕ} {x : String} {row : OutboxEvent}

/-- The events of `offboarding.py`. -/
def offboardingEvents : List String :=
  ["tenant.offboard.export_requested", "tenant.offboard.cancelled",
    "tenant.offboard.wipe_requested"]

/-- A row that is about tenant `t` says so with its external id `x`: it is not one of
offboarding; with no tenant in the payload, the id of the tenant's row happens to read the
same; and an aggregate that is no tenant leaves the webhook nothing to fall back on. -/
def identifies (t : ℕ) (x : String) (row : OutboxEvent) : Prop :=
  row.eventType ∉ offboardingEvents
    ∧ (row.payload.lookup "tenantId" = none → x = toString (publicId t))
    ∧ (row.aggregateType ≠ "tenant" → x ≠ "")

theorem lookup_plainPayload {rest : List (String × Json)} (h : plainPayload rest = true) :
    rest.lookup "tenantId" = none ∧ rest.lookup "tenant_id" = none
      ∧ rest.lookup "invalidateAll" = none := by
  induction rest with
  | nil => exact ⟨rfl, rfl, rfl⟩
  | cons entry rest ih =>
    obtain ⟨key, value⟩ := entry
    simp only [plainPayload, List.all_cons, Bool.and_eq_true, decide_eq_true_eq, ne_eq] at h
    obtain ⟨⟨⟨h1, h2⟩, h3⟩, hrest⟩ := h
    have hmiss : ∀ name : String, key ≠ name → (name == key) = false := by
      intro name hne
      simpa using Ne.symm hne
    simp only [List.lookup_cons, hmiss _ h1, hmiss _ h2, hmiss _ h3]
    exact ih hrest

/-- **Whose event the webhook takes a row for.** -/
theorem webhookTenantId_eq_iff (h : TenantEvent t x row) :
    webhookTenantId row = some (.text x) ↔ identifies t x row := by
  cases h with
  | named rest htype haggregate hid hpayload hplain =>
    obtain ⟨-, hold, -⟩ := lookup_plainPayload hplain
    refine iff_of_true ?_ ⟨?_, ?_, ?_⟩
    · rw [webhookTenantId, hpayload, haggregate, hid]
      by_cases hx : x = ""
      · simp [jsOr, truthy, hx, hold, List.lookup_cons]
      · simp [jsOr, truthy, hx]
    · intro hoffboarding
      simp only [List.mem_cons, List.not_mem_nil, or_false] at htype
      rcases htype with h | h | h | h <;> rw [h] at hoffboarding <;>
        exact absurd hoffboarding (by decide)
    · rw [hpayload]
      simp
    · exact fun hne => absurd haggregate hne
  | initialization jobId slug htype haggregate hid hpayload =>
    have hlookup : row.payload.lookup "tenantId" = some (.text x) := by
      rw [hpayload]
      rfl
    have hold : row.payload.lookup "tenant_id" = none := by
      rw [hpayload]
      rfl
    rw [webhookTenantId, hlookup, hold, haggregate, identifies, htype, hlookup, haggregate]
    by_cases hx : x = ""
    · simp [jsOr, truthy, hx]
    · simp [jsOr, truthy, hx, offboardingEvents]
  | billing reason rest htype haggregate hid hreason hpayload hplain =>
    obtain ⟨hnone, hold, -⟩ := lookup_plainPayload hplain
    have hlookup : row.payload.lookup "tenantId" = none := by
      rw [hpayload]
      simpa [List.lookup_cons] using hnone
    have hlookup' : row.payload.lookup "tenant_id" = none := by
      rw [hpayload]
      simpa [List.lookup_cons] using hold
    rw [webhookTenantId, hlookup, hlookup', haggregate, hid, identifies, htype, hlookup,
      haggregate]
    simp [jsOr, offboardingEvents, eq_comm]
  | offboarding rest htype haggregate hid hpayload hplain =>
    refine iff_of_false ?_ fun h => h.1 htype
    have hpositive : publicId t ≠ 0 := Nat.succ_ne_zero t
    rw [webhookTenantId, hpayload]
    simp [jsOr, truthy, hpositive]

/-- **Producer and consumer agree on exactly the rows that identify their tenant.** -/
theorem identity_agrees_iff (cfg : Control.Settings) (db : Control.Db) (e : Control.Event)
    (hreach : Control.Reach cfg db) :
    ∃ rows, (Control.step cfg e db).outbox = db.outbox ++ rows ∧ ∀ row ∈ rows,
      SystemEvent row ∨ ∃ t x, externalIdOf (Control.step cfg e db) t = some x
        ∧ TenantEvent t x row
        ∧ ((webhookTenantId row = some (.text x) ∧ DropsCaches row x) ↔ identifies t x row) := by
  obtain ⟨rows, hrows, hqueued⟩ := (Control.step_continues hreach.books.wellFormed e).outbox
  refine ⟨rows, hrows, fun row hrow => ?_⟩
  rcases hqueued row hrow with hsystem | ⟨t, x, hx, hevent⟩
  · exact Or.inl hsystem
  refine Or.inr ⟨t, x, hx, hevent, ?_⟩
  rw [← webhookTenantId_eq_iff hevent, and_iff_left_iff_imp]
  exact dropsCaches_of_tenantId

def Example.unlock : Control.Event :=
  .staff (Control.Example.day 5) Control.Example.operator
    (.courtesyUnlock Control.Example.goodwill)

/-- The equivalence for the rows of the unlock. -/
theorem identity_agrees_iff_example : ∃ rows,
    (Control.step Control.Example.settings Example.unlock
      (run (Control.step Control.Example.settings) {} Control.Example.opened)).outbox
      = (run (Control.step Control.Example.settings) {} Control.Example.opened).outbox ++ rows
    ∧ ∀ row ∈ rows, SystemEvent row ∨ ∃ t x,
      externalIdOf (Control.step Control.Example.settings Example.unlock
        (run (Control.step Control.Example.settings) {} Control.Example.opened)) t = some x
      ∧ TenantEvent t x row
      ∧ ((webhookTenantId row = some (.text x) ∧ DropsCaches row x) ↔ identifies t x row) :=
  identity_agrees_iff Control.Example.settings _ Example.unlock ⟨Control.Example.opened, rfl⟩

/-- The webhook takes the notice of the unlock for one of a tenant "1". -/
theorem not_identity_agrees :
    ¬ ∀ (cfg : Control.Settings) (db : Control.Db) (e : Control.Event), Control.Reach cfg db →
      ∀ row ∈ (Control.step cfg e db).outbox.drop db.outbox.length, ∀ t x,
        externalIdOf (Control.step cfg e db) t = some x → TenantEvent t x row →
        webhookTenantId row = some (.text x) ∧ DropsCaches row x := by
  intro h
  have hrow : (((Control.step Control.Example.settings Example.unlock
        (run (Control.step Control.Example.settings) {} Control.Example.opened)).outbox.drop
        (run (Control.step Control.Example.settings) {}
          Control.Example.opened).outbox.length)[1]?).any
      (fun row => row.eventType = "config.invalidate" && row.aggregateType = "tenant"
        && row.aggregateId = toString (publicId 0)
        && row.payload = ("reason", Json.text "courtesy_unlock") :: row.payload.tail
        && plainPayload row.payload.tail && webhookTenantId row = some (.text "1")) = true := by
    decide
  obtain ⟨row, hrow, hread⟩ := (Option.any_eq_true _ _).1 hrow
  simp only [Bool.and_eq_true, decide_eq_true_eq] at hread
  obtain ⟨⟨⟨⟨⟨htype, haggregate⟩, hid⟩, hpayload⟩, hplain⟩, hread⟩ := hread
  obtain ⟨hagrees, -⟩ := h Control.Example.settings _ Example.unlock ⟨Control.Example.opened, rfl⟩
    row (List.mem_of_getElem? hrow) 0 "s" (by decide)
    (.billing "courtesy_unlock" _ htype haggregate hid (by decide) hpayload hplain)
  rw [hread] at hagrees
  exact absurd hagrees (by decide)

end MultiAcademy.School
