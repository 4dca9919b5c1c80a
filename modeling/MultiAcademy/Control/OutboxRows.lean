import MultiAcademy.Control.Books

/-!
# What the control plane queues

Every event of the control plane appends rows to its outbox, never rewrites one, and each
new row is the system's notice of a new config version or is about one tenant.  The rows
about a tenant come in four shapes, because each producer builds its own payload
(`TenantEvent`).  On the way the tenants keep their external ids and a tenant its one trial.
-/

namespace MultiAcademy.Control

open MultiAcademy.Lib

variable {cfg : Settings} {now : Time}

/-! ## Rows about a tenant -/

def externalIdOf (db : Db) (t : ℕ) : Option String := (db.tenants[t]?).map (·.externalId)

/-- The row `bump_config_version` enqueues. -/
structure SystemEvent (row : OutboxEvent) : Prop where
  aggregate : row.aggregateType = "system"
  payload : ∃ version,
    row.payload = [("configVersion", .number version), ("invalidateAll", .bool true)]

/-- No key of the payload decides whose caches its consumer drops. -/
def plainPayload (payload : List (String × Json)) : Bool :=
  payload.all fun entry =>
    entry.1 ≠ "tenantId" && entry.1 ≠ "tenant_id" && entry.1 ≠ "invalidateAll"

def billingEventReasons : List String :=
  ["subscription_payment", "invoice_paid", "dunning_suspend", "courtesy_unlock",
    "courtesy_unlock_resolved", "courtesy_unlock_expired"]

/-- The row is about tenant `t`, whose external id is `x`; one case per way in which the
producers say so. -/
inductive TenantEvent (t : ℕ) (x : String) (row : OutboxEvent) : Prop
  /-- Trials and the unsubscribed pass: the external id, twice. -/
  | named (rest : List (String × Json)) :
      row.eventType ∈ ["tenant.trial.started", "trial.notification", "billing.notification",
        "config.invalidate"] →
      row.aggregateType = "tenant" → row.aggregateId = x →
      row.payload = ("tenantId", .text x) :: rest → plainPayload rest = true →
      TenantEvent t x row
  /-- Provisioning: the aggregate is the job. -/
  | initialization (jobId : ℕ) (slug : String) :
      row.eventType = "tenant.initialization.requested" →
      row.aggregateType = "tenant_provisioning_job" →
      row.aggregateId = toString (publicId jobId) →
      row.payload = [("schemaVersion", Json.number 1),
        ("event", .text "tenant.initialization.requested"), ("jobId", .number (publicId jobId)),
        ("tenantId", .text x), ("tenantSlug", .text slug), ("defaultsVersion", .text "v1")] →
      TenantEvent t x row
  /-- Billing: the id of the tenant's row, and nothing in the payload. -/
  | billing (reason : String) (rest : List (String × Json)) :
      row.eventType = "config.invalidate" → row.aggregateType = "tenant" →
      row.aggregateId = toString (publicId t) → reason ∈ billingEventReasons →
      row.payload = ("reason", .text reason) :: rest → plainPayload rest = true →
      TenantEvent t x row
  /-- Offboarding: the id of the tenant's row, as a number in the payload. -/
  | offboarding (rest : List (String × Json)) :
      row.eventType ∈ ["tenant.offboard.export_requested", "tenant.offboard.cancelled",
        "tenant.offboard.wipe_requested"] →
      row.aggregateType = "tenant" → row.aggregateId = toString (publicId t) →
      row.payload = ("tenantId", .number (publicId t)) :: rest → plainPayload rest = true →
      TenantEvent t x row

/-- The row is the system's, or about a tenant there is. -/
def Queued (db : Db) (row : OutboxEvent) : Prop :=
  SystemEvent row ∨ ∃ t x, externalIdOf db t = some x ∧ TenantEvent t x row

/-! ## What every event keeps -/

/-- The tenants stay, with their external ids. -/
def KeepsIds (tenants tenants' : Table Tenant) : Prop :=
  ∀ (t : ℕ) x, (tenants[t]?).map (·.externalId) = some x →
    (tenants'[t]?).map (·.externalId) = some x

def OneTrial (trials : Table TenantTrial) : Prop := (trials.map (·.tenantId)).Nodup

/-- What every event of the control plane keeps. -/
structure Continues (db db' : Db) : Prop where
  ids : KeepsIds db.tenants db'.tenants
  outbox : ∃ rows, db'.outbox = db.outbox ++ rows ∧ ∀ row ∈ rows, Queued db' row
  trials : OneTrial db.trials → OneTrial db'.trials

theorem lt_length {α : Type} {l : List α} {i : ℕ} {a : α} (h : l[i]? = some a) : i < l.length :=
  (List.getElem?_eq_some_iff.1 h).1

theorem KeepsIds.length_le {tenants tenants' : Table Tenant} (h : KeepsIds tenants tenants') :
    tenants.length ≤ tenants'.length := by
  by_contra hlt
  have hrow := List.getElem?_eq_getElem (not_le.1 hlt)
  have hnew := h _ _ (congrArg (Option.map (·.externalId)) hrow)
  rw [List.getElem?_eq_none le_rfl] at hnew
  cases hnew

theorem KeepsIds.refl (tenants : Table Tenant) : KeepsIds tenants tenants := fun _ _ h => h

theorem KeepsIds.modify {f : Tenant → Tenant} (hf : ∀ r, (f r).externalId = r.externalId)
    (t : ℕ) (tenants : Table Tenant) : KeepsIds tenants (tenants.modify t f) := by
  intro k x h
  obtain ⟨row, hrow, hx⟩ := Option.map_eq_some_iff.1 h
  rw [List.getElem?_modify, hrow]
  by_cases hk : t = k <;> simp [hk, hf, hx]

theorem KeepsIds.insert (tenant : Tenant) (tenants : Table Tenant) :
    KeepsIds tenants (tenants.insert tenant) := by
  intro k x h
  obtain ⟨row, hrow, hx⟩ := Option.map_eq_some_iff.1 h
  have hk : k ≠ tenants.nextId := by
    have hlt := lt_length hrow
    rw [Table.nextId]
    omega
  rw [Table.getElem?_insert, if_neg hk]
  exact h

theorem Queued.mono {db db' : Db} (h : KeepsIds db.tenants db'.tenants) {row : OutboxEvent}
    (hrow : Queued db row) : Queued db' row :=
  hrow.imp_right fun ⟨t, x, hx, hevent⟩ => ⟨t, x, h t x hx, hevent⟩

namespace Continues
variable {db db' db'' : Db}

theorem refl (db : Db) : Continues db db := ⟨.refl _, ⟨[], by simp, by simp⟩, id⟩

theorem trans (h : Continues db db') (h' : Continues db' db'') : Continues db db'' := by
  obtain ⟨rows, hrows, hqueued⟩ := h.outbox
  obtain ⟨rows', hrows', hqueued'⟩ := h'.outbox
  refine ⟨fun t x hx => h'.ids t x (h.ids t x hx), ⟨rows ++ rows', ?_, ?_⟩, h'.trials ∘ h.trials⟩
  · rw [hrows', hrows, List.append_assoc]
  intro row hrow
  rcases List.mem_append.1 hrow with hold | hnew
  · exact (hqueued row hold).mono h'.ids
  · exact hqueued' row hnew

end Continues

theorem externalIdOf_of_row {db : Db} {t : ℕ} {tenant : Tenant} (h : db.tenants[t]? = some tenant) :
    externalIdOf db t = some tenant.externalId := by
  rw [externalIdOf, h]
  rfl

theorem externalIdOf_of_mem_select {db : Db} {t : ℕ} {p : Tenant → Bool}
    (h : t ∈ db.tenants.select p) : ∃ x, externalIdOf db t = some x := by
  obtain ⟨tenant, htenant, -⟩ := Table.mem_select.1 h
  exact ⟨_, externalIdOf_of_row htenant⟩

theorem WellFormed.externalIdOf {db : Db} (hw : WellFormed db) {inv : SaasInvoice}
    (hinv : inv ∈ db.invoices) : ∃ x, externalIdOf db inv.tenantId = some x := by
  obtain ⟨s, sub, -, hsub, ht⟩ := hw.linked inv hinv
  have hlt : inv.tenantId < db.tenants.length := ht ▸ hw.tenant s sub hsub
  exact ⟨_, externalIdOf_of_row (List.getElem?_eq_getElem hlt)⟩

/-! ## Trials -/

theorem OneTrial.insert {trials : Table TenantTrial} {trial : TenantTrial}
    (hnew : trials.existsRow (fun row => row.tenantId = trial.tenantId) = false)
    (h : OneTrial trials) : OneTrial (trials.insert trial) := by
  rw [OneTrial, Table.insert, List.map_append, List.map_singleton]
  refine List.nodup_append.2 ⟨h, List.nodup_singleton _, ?_⟩
  rintro _ hold _ hsame rfl
  obtain ⟨row, hrow, heq⟩ := List.mem_map.1 hold
  rw [List.mem_singleton.1 hsame] at heq
  rw [Table.existsRow, List.any_eq_false] at hnew
  exact hnew row hrow (by simpa using heq)

/-- A trial keeps its tenant. -/
theorem OneTrial.modify {f : TenantTrial → TenantTrial} (hf : ∀ r, (f r).tenantId = r.tenantId)
    (k : ℕ) {trials : Table TenantTrial} (h : OneTrial trials) : OneTrial (trials.modify k f) := by
  have hsame : List.map (·.tenantId) (trials.modify k f) = trials.map (·.tenantId) := by
    apply List.ext_getElem?
    intro i
    rw [List.getElem?_map, List.getElem?_map, List.getElem?_modify]
    cases trials[i]? with
    | none => rfl
    | some row => by_cases hk : k = i <;> simp [hk, hf]
  rw [OneTrial, hsame]
  exact h

end MultiAcademy.Control
