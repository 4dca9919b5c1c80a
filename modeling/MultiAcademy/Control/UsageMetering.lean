import MultiAcademy.Control.Features
import MultiAcademy.Control.ProviderAgreement
import MultiAcademy.Lib.Tally

/-!
# Usage metering

`services/usage_metering.py` and the two endpoints that ingest usage.  An event is stored
under its tenant and meter and added to the rollup of its month; an event whose id is
already stored is taken for a retry and answered with the stored one, whoever sent it and
for whichever meter.

School servers choose the ids: a checkout and its settlement are reported under the same
payment reference, for two meters.
-/

namespace MultiAcademy.Control

open MultiAcademy.Lib

/-! ## Tables -/

structure UsageMeter where
  key : String
  /-- The feature whose quota the meter counts against. -/
  featureKey : String

/-- An ingested event; its properties are stored and never read. -/
structure UsageEvent where
  tenantId : Option ℕ
  meterKey : String
  quantity : ℤ
  eventId : String
  occurredAt : Time

structure RollupKey where
  tenantId : ℕ
  meterKey : String
  periodKey : String
  deriving DecidableEq

/-- What the cap check looks a signal up by. -/
structure SignalKey where
  tenantId : ℕ
  signalType : String
  value : String
  deriving DecidableEq

structure CapSignal where
  score : ℤ
  evidence : String

/-- The control plane with its usage tables. -/
structure UsageDb where
  control : Db := {}
  meters : Table UsageMeter := []
  events : Table UsageEvent := []
  rollups : OrderedMap RollupKey ℤ := .empty
  signals : OrderedMap SignalKey CapSignal := .empty

def defaultMeters : List UsageMeter :=
  [{ key := "sms_segments", featureKey := "comms.sms" },
   { key := "email_sends", featureKey := "comms.email" },
   { key := "gateway_checkouts", featureKey := "fees.gateway" },
   { key := "ai_tokens", featureKey := "ai.assistant" }]

def ensureDefaultMeters (u : UsageDb) : UsageDb :=
  { u with
    meters := u.meters ++ defaultMeters.filter fun meter =>
      !u.meters.existsRow fun existing => existing.key = meter.key }

/-- `period_key`. -/
def usagePeriod (when_ : Time) : String :=
  let c := Civil.ofTime when_
  padded 4 c.year ++ "-" ++ padded 2 c.month

/-! ## Caps -/

def meterOf (meters : Table UsageMeter) (meterKey : String) : Option UsageMeter :=
  (meters.first? fun meter => meter.key = meterKey).bind (meters[·]?)

def resolveQuota (u : UsageDb) (tenantId : ℕ) (meterKey : String) : Option ℤ :=
  match meterOf u.meters meterKey with
  | none => none
  | some meter =>
    if meter.featureKey = "" then none
    else
      match currentSubscription u.control tenantId with
      | none => none
      | some sub =>
        let quotas := sub.customQuotas.getD []
        (quotas.lookup meter.featureKey).or (quotas.lookup meterKey)

/-- The signal type and the score of a quantity against a positive quota; `int(quota * 0.8)`
rounds down to this for every quota below 2^50. -/
def capReached (quota quantity : ℤ) : Option (String × ℤ) :=
  if quota ≤ quantity then some ("usage_hard_cap", 10)
  else if quota * 4 / 5 ≤ quantity then some ("usage_soft_cap", 5)
  else none

/-- The signal of a kind after one more of a score. -/
def raiseSignal (signals : OrderedMap SignalKey CapSignal) (key : SignalKey) (score : ℤ)
    (evidence : String) : OrderedMap SignalKey CapSignal :=
  signals.set key
    { score := match signals.get? key with
        | some existing => max existing.score score
        | none => score
      evidence }

/-- `_check_usage_caps`: one signal per tenant, meter, type and month. -/
def checkUsageCaps (now : Time) (tenantId : ℕ) (meterKey : String) (quantity : ℤ)
    (u : UsageDb) : UsageDb :=
  match resolveQuota u tenantId meterKey with
  | none => u
  | some quota =>
    if quota ≤ 0 then u
    else
      match capReached quota quantity with
      | none => u
      | some (signalType, score) =>
        let period := usagePeriod now
        { u with
          signals := raiseSignal u.signals
            ⟨tenantId, signalType, meterKey ++ ":" ++ period⟩ score
            s!"quantity={quantity}, quota={quota}, period={period}" }

/-! ## Ingestion -/

/-- The arguments of `ingest_usage_event`. -/
structure UsageCall where
  tenantRef : Option String
  meterKey : String
  quantity : ℤ := 1
  eventId : String := ""
  occurredAt : Option Time := none

/-- The tenant of a reference: by external id or slug, none for an unknown one, an error
for one that fits several. -/
def usageTenant (db : Db) (tenantRef : Option String) : Except (ℕ × String) (Option ℕ) :=
  match tenantRef with
  | none => .ok none
  | some ref => scalarOneOrNone (db.tenants.select fun t => t.externalId = ref ∨ t.slug = ref)

/-- The stored event of an id; a row without an id is none. -/
def storedEvent (events : Table UsageEvent) (eventId : String) : Option ℕ :=
  if eventId = "" then none else events.first? fun e => e.eventId = eventId

def UsageCall.toRow (call : UsageCall) (now : Time) (tenantId : Option ℕ) : UsageEvent :=
  { tenantId, meterKey := call.meterKey, quantity := max 0 call.quantity
    eventId := call.eventId, occurredAt := call.occurredAt.getD now }

/-- `ingest_usage_event`: the event's id and the tables after it. -/
def ingestUsageEvent (now : Time) (call : UsageCall) (u : UsageDb) :
    Except (ℕ × String) (ℕ × UsageDb) :=
  match usageTenant u.control call.tenantRef with
  | .error e => .error e
  | .ok tenantId =>
    match storedEvent u.events call.eventId with
    | some existing => .ok (existing, u)
    | none =>
      let event := call.toRow now tenantId
      let stored := { u with events := u.events.insert event }
      match tenantId with
      | none => .ok (u.events.nextId, stored)
      | some t =>
        let key := ⟨t, call.meterKey, usagePeriod event.occurredAt⟩
        let rollups := u.rollups.add key event.quantity
        .ok (u.events.nextId,
          checkUsageCaps now t call.meterKey ((rollups.get? key).getD 0)
            { stored with rollups })

/-- The body of `POST /internal/v1/usage`; `quantity` is `none` when the key is missing. -/
structure UsageBody where
  tenantRef : String
  meterKey : String
  quantity : Option ℤ := none
  eventId : String := ""

/-- The call the endpoint makes: a missing meter is `unknown`, a missing or zero quantity
is one. -/
def UsageBody.toCall (body : UsageBody) : UsageCall :=
  { tenantRef := if body.tenantRef = "" then none else some body.tenantRef
    meterKey := if body.meterKey = "" then "unknown" else body.meterKey
    quantity := if body.quantity.getD 0 = 0 then 1 else body.quantity.getD 0
    eventId := body.eventId }

/-- The usage a school's payments service reports when a checkout starts. -/
def checkoutUsage (tenantId reference : String) : UsageBody :=
  { tenantRef := tenantId, meterKey := "gateway_checkouts", quantity := some 1
    eventId := reference }

def settlementUsage (tenantId reference : String) : UsageBody :=
  { tenantRef := tenantId, meterKey := "gateway_settlements", quantity := some 1
    eventId := reference }

/-! ## Counting once -/

/-- An event as a tenant of the control plane reported it. -/
structure Reported where
  tenantId : ℕ
  meterKey : String
  quantity : ℤ
  eventId : String
  at_ : Time

/-- A report of the same tenant for the same meter under the same id is a retry. -/
def Reported.again (old new : Reported) : Bool :=
  new.eventId ≠ "" && old.eventId = new.eventId && old.tenantId = new.tenantId
    && old.meterKey = new.meterKey

def Reported.rollup (r : Reported) : RollupKey := ⟨r.tenantId, r.meterKey, usagePeriod r.at_⟩

def UsageEvent.reported (e : UsageEvent) : Option Reported :=
  e.tenantId.map fun t => ⟨t, e.meterKey, e.quantity, e.eventId, e.occurredAt⟩

/-- The usage tables, with what the tenants have reported. -/
structure Metering where
  usage : UsageDb
  reported : List Reported := []

/-- A usage report, or anything else that happens to the control plane. -/
inductive UsageStep
  | report (now : Time) (call : UsageCall)
  | control (e : Event)

def UsageCall.report (call : UsageCall) (now : Time) (u : UsageDb) : List Reported :=
  match usageTenant u.control call.tenantRef with
  | .ok (some t) => ((call.toRow now (some t)).reported).toList
  | _ => []

/-- A refused report leaves nothing behind; an accepted one is committed with the default
meters. -/
def meteringStep (cfg : Settings) (s : UsageStep) (m : Metering) : Metering :=
  match s with
  | .report now call =>
    match ingestUsageEvent now call (ensureDefaultMeters m.usage) with
    | .error _ => m
    | .ok (_, usage) => { usage, reported := m.reported ++ call.report now m.usage }
  | .control e => { m with usage := { m.usage with control := step cfg e m.usage.control } }

/-- The events of known tenants that are stored. -/
def counted (u : UsageDb) : List Reported := u.events.filterMap (·.reported)

/-- **Usage is counted once**: the stored events are the distinct ones each tenant reported
for each meter, and every rollup is the sum of those of its month. -/
structure CountedOnce (m : Metering) : Prop where
  events : counted m.usage = firsts Reported.again m.reported
  rollups : Tallies Reported.rollup (·.quantity) (firsts Reported.again m.reported)
    m.usage.rollups

/-- The step reports an event of a known tenant under an id that is stored, and not for this
tenant and this meter. -/
def UsageStep.clashes (u : UsageDb) : UsageStep → Bool
  | .report _ call =>
    match usageTenant u.control call.tenantRef with
    | .ok (some t) =>
      call.eventId ≠ "" && u.events.existsRow (fun e => e.eventId = call.eventId)
        && !u.events.existsRow fun e =>
          e.eventId = call.eventId && e.tenantId = some t && e.meterKey = call.meterKey
    | _ => false
  | .control _ => false

section Count
variable {cfg : Settings} {now : Time} {call : UsageCall} {u : UsageDb} {m : Metering}

@[simp] theorem ensureDefaultMeters_control (u : UsageDb) :
    (ensureDefaultMeters u).control = u.control := rfl
@[simp] theorem ensureDefaultMeters_events (u : UsageDb) :
    (ensureDefaultMeters u).events = u.events := rfl
@[simp] theorem ensureDefaultMeters_rollups (u : UsageDb) :
    (ensureDefaultMeters u).rollups = u.rollups := rfl

/-- The cap check writes signals only. -/
theorem checkUsageCaps_frame (now : Time) (t : ℕ) (meterKey : String) (quantity : ℤ)
    (u : UsageDb) :
    (checkUsageCaps now t meterKey quantity u).events = u.events
      ∧ (checkUsageCaps now t meterKey quantity u).rollups = u.rollups := by
  simp only [checkUsageCaps]
  split
  · exact ⟨rfl, rfl⟩
  split
  · exact ⟨rfl, rfl⟩
  · split <;> exact ⟨rfl, rfl⟩

/-- **What a usage report can do**: be refused, be taken for a retry of a stored event, or
be stored; then it is added to the rollup of its month, when its tenant is known. -/
theorem report_cases (cfg : Settings) (now : Time) (call : UsageCall) (m : Metering) :
    ((∃ e, usageTenant m.usage.control call.tenantRef = .error e)
      ∧ meteringStep cfg (.report now call) m = m)
    ∨ ∃ tenantId, usageTenant m.usage.control call.tenantRef = .ok tenantId
      ∧ (meteringStep cfg (.report now call) m).reported
          = m.reported ++ (call.toRow now tenantId).reported.toList
      ∧ ((∃ existing, storedEvent m.usage.events call.eventId = some existing)
            ∧ (meteringStep cfg (.report now call) m).usage.events = m.usage.events
            ∧ (meteringStep cfg (.report now call) m).usage.rollups = m.usage.rollups
          ∨ storedEvent m.usage.events call.eventId = none
            ∧ (meteringStep cfg (.report now call) m).usage.events
              = m.usage.events.insert (call.toRow now tenantId)
            ∧ (meteringStep cfg (.report now call) m).usage.rollups
              = match (call.toRow now tenantId).reported with
                | some r => m.usage.rollups.add r.rollup r.quantity
                | none => m.usage.rollups) := by
  simp only [meteringStep, ingestUsageEvent, ensureDefaultMeters_control,
    ensureDefaultMeters_events, UsageCall.report]
  cases htenant : usageTenant m.usage.control call.tenantRef with
  | error e => exact Or.inl ⟨⟨e, rfl⟩, rfl⟩
  | ok tenantId =>
    refine Or.inr ⟨tenantId, rfl, ?_⟩
    cases hstored : storedEvent m.usage.events call.eventId with
    | some existing =>
      refine ⟨?_, Or.inl ⟨⟨existing, rfl⟩, rfl, rfl⟩⟩
      cases tenantId <;> rfl
    | none =>
      cases tenantId with
      | none => exact ⟨rfl, Or.inr ⟨rfl, rfl, rfl⟩⟩
      | some t =>
        refine ⟨rfl, Or.inr ⟨rfl, ?_, ?_⟩⟩
        · simp only [checkUsageCaps_frame]
        simp only [checkUsageCaps_frame]
        rfl

theorem storedEvent_eq_none {events : Table UsageEvent} {eventId : String} :
    storedEvent events eventId = none
      ↔ eventId = "" ∨ ∀ e ∈ events, e.eventId ≠ eventId := by
  by_cases hid : eventId = ""
  · simp [storedEvent, hid]
  rw [storedEvent, if_neg hid, Table.first?_eq_none]
  simp [hid]

variable {r : Reported} {m' : Metering}

/-- The report is a retry of a counted event exactly when its tenant has stored its id for
its meter. -/
theorem again_counted_iff :
    (counted u).any (fun old => old.again r) = true
      ↔ r.eventId ≠ "" ∧ ∃ e ∈ u.events, e.eventId = r.eventId ∧ e.tenantId = some r.tenantId
        ∧ e.meterKey = r.meterKey := by
  simp only [counted, List.any_eq_true, List.mem_filterMap, Reported.again, Bool.and_eq_true,
    decide_eq_true_eq]
  constructor
  · rintro ⟨old, ⟨e, he, hold⟩, ⟨⟨hne, hid⟩, ht⟩, hmeter⟩
    obtain ⟨t, ht', rfl⟩ := Option.map_eq_some_iff.1 hold
    exact ⟨hne, e, he, hid, by rw [ht', ← ht], hmeter⟩
  rintro ⟨hne, e, he, hid, ht, hmeter⟩
  refine ⟨⟨r.tenantId, e.meterKey, e.quantity, e.eventId, e.occurredAt⟩, ⟨e, he, ?_⟩,
    ⟨⟨hne, hid⟩, rfl⟩, hmeter⟩
  rw [UsageEvent.reported, ht]
  rfl

/-- The report of a known tenant clashes exactly when its id is stored and it repeats none
of the counted ones. -/
theorem clashes_iff
    (htenant : usageTenant m.usage.control call.tenantRef = .ok (some r.tenantId))
    (hid : r.eventId = call.eventId) (hmeter : r.meterKey = call.meterKey) :
    (UsageStep.report now call).clashes m.usage = false
      ↔ storedEvent m.usage.events call.eventId = none
        ∨ (counted m.usage).any (fun old => old.again r) = true := by
  rw [again_counted_iff, storedEvent_eq_none, hid, hmeter]
  simp only [UsageStep.clashes, htenant, Table.existsRow]
  by_cases hempty : call.eventId = ""
  · simp [hempty]
  by_cases hstored : ∃ e ∈ m.usage.events, e.eventId = call.eventId
  · simp [hempty, hstored, and_assoc]
  have hnone : ∀ e ∈ m.usage.events, e.eventId ≠ call.eventId := by simpa using hstored
  refine iff_of_true ?_ (Or.inl (Or.inr hnone))
  simp only [Bool.and_eq_false_iff, decide_eq_false_iff_not]
  exact Or.inl (Or.inr (by simpa using hnone))

theorem not_again_of_free (hfree : storedEvent u.events r.eventId = none) :
    (counted u).any (fun old => old.again r) = false := by
  apply Bool.eq_false_iff.2
  intro hagain
  obtain ⟨hne, e, he, hid, -⟩ := again_counted_iff.1 hagain
  rcases storedEvent_eq_none.1 hfree with hempty | hnone
  · exact hne hempty
  · exact hnone e he hid

theorem counted_insert (events : Table UsageEvent) (e : UsageEvent) :
    (events.insert e).filterMap (·.reported)
      = events.filterMap (·.reported) ++ e.reported.toList := by
  cases h : e.reported <;> simp [Table.insert, List.filterMap_append, h]

theorem CountedOnce.of_same (h : CountedOnce m)
    (hevents : counted m'.usage = counted m.usage)
    (hrollups : m'.usage.rollups = m.usage.rollups)
    (hreported : firsts Reported.again m'.reported = firsts Reported.again m.reported) :
    CountedOnce m' where
  events := by rw [hevents, hreported, h.events]
  rollups := by rw [hrollups, hreported]; exact h.rollups

theorem CountedOnce.add (h : CountedOnce m)
    (hevents : counted m'.usage = counted m.usage ++ [r])
    (hrollups : m'.usage.rollups = m.usage.rollups.add r.rollup r.quantity)
    (hreported : firsts Reported.again m'.reported = firsts Reported.again m.reported ++ [r]) :
    CountedOnce m' where
  events := by rw [hevents, hreported, h.events]
  rollups := by rw [hrollups, hreported]; exact h.rollups.add r

theorem CountedOnce.not_lost (h : CountedOnce m)
    (hevents : counted m'.usage = counted m.usage)
    (hreported : firsts Reported.again m'.reported = firsts Reported.again m.reported ++ [r]) :
    ¬ CountedOnce m' := by
  intro h'
  have hlists := h'.events
  rw [hevents, hreported, h.events] at hlists
  simp at hlists

/-- An event of nobody is stored, and counted for nobody. -/
theorem countedOnce_unknown (cfg : Settings) (h : CountedOnce m)
    (htenant : usageTenant m.usage.control call.tenantRef = .ok none) :
    CountedOnce (meteringStep cfg (.report now call) m) := by
  have hreported : (call.toRow now none).reported = none := rfl
  obtain ⟨tenantId, ht, hrep, hstore⟩ := (report_cases cfg now call m).resolve_left (by
    simp [htenant])
  obtain rfl : tenantId = none := by simpa [htenant] using ht.symm
  apply h.of_same
  · rcases hstore with ⟨-, hevents, -⟩ | ⟨-, hevents, -⟩
    · simp only [counted, hevents]
    · simp [counted, hevents, counted_insert, hreported]
  · rcases hstore with ⟨-, -, hrollups⟩ | ⟨-, -, hrollups⟩
    · exact hrollups
    · simpa [hreported] using hrollups
  · simp [hrep, hreported]

/-- The event of a known tenant is counted unless it clashes. -/
theorem countedOnce_known {t : ℕ} (cfg : Settings) (h : CountedOnce m)
    (htenant : usageTenant m.usage.control call.tenantRef = .ok (some t)) :
    CountedOnce (meteringStep cfg (.report now call) m)
      ↔ (UsageStep.report now call).clashes m.usage = false := by
  obtain ⟨tenantId, ht, hrep, hstore⟩ := (report_cases cfg now call m).resolve_left (by
    simp [htenant])
  obtain rfl : tenantId = some t := by simpa [htenant] using ht.symm
  obtain ⟨r, hr, ht, hid, hmeter⟩ : ∃ r, (call.toRow now (some t)).reported = some r
      ∧ r.tenantId = t ∧ r.eventId = call.eventId ∧ r.meterKey = call.meterKey :=
    ⟨_, rfl, rfl, rfl, rfl⟩
  rw [clashes_iff (by rw [htenant, ht]) hid hmeter]
  have hfirsts : firsts Reported.again (meteringStep cfg (.report now call) m).reported
      = if (counted m.usage).any fun old => old.again r
        then firsts Reported.again m.reported
        else firsts Reported.again m.reported ++ [r] := by
    rw [hrep, hr, Option.toList_some, firsts_concat, appendNew, h.events]
  rcases hstore with ⟨⟨existing, hex⟩, hevents, hrollups⟩ | ⟨hfree, hevents, hrollups⟩
  · have hcounted : counted (meteringStep cfg (.report now call) m).usage = counted m.usage := by
      simp only [counted, hevents]
    cases hagain : (counted m.usage).any fun old => old.again r with
    | true =>
      rw [hagain, if_pos rfl] at hfirsts
      exact iff_of_true (h.of_same hcounted hrollups hfirsts) (Or.inr rfl)
    | false =>
      rw [hagain] at hfirsts
      exact iff_of_false (h.not_lost hcounted hfirsts) (by simp [hex])
  rw [not_again_of_free (hid ▸ hfree)] at hfirsts
  refine iff_of_true (h.add ?_ ?_ hfirsts) (Or.inl hfree)
  · rw [counted, hevents, counted_insert, hr]
    rfl
  · rw [hrollups, hr]

/-- **Which steps keep the usage counted once**: all that do not clash. -/
theorem countedOnce_step (cfg : Settings) (s : UsageStep) (h : CountedOnce m) :
    CountedOnce (meteringStep cfg s m) ↔ s.clashes m.usage = false := by
  cases s with
  | control e => exact iff_of_true ⟨h.events, h.rollups⟩ rfl
  | report now call =>
    cases htenant : usageTenant m.usage.control call.tenantRef with
    | error e =>
      have hsame : meteringStep cfg (.report now call) m = m := by
        simp [meteringStep, ingestUsageEvent, htenant]
      rw [hsame]
      exact iff_of_true h (by simp [UsageStep.clashes, htenant])
    | ok tenantId =>
      cases tenantId with
      | none =>
        exact iff_of_true (countedOnce_unknown cfg h htenant)
          (by simp [UsageStep.clashes, htenant])
      | some t => exact countedOnce_known cfg h htenant

end Count

/-- A control plane with no usage yet. -/
def Metering.fresh (control : Db) : Metering := { usage := { control } }

theorem countedOnce_fresh (control : Db) : CountedOnce (Metering.fresh control) where
  events := rfl
  rollups := tallies_empty

/-- **When usage is counted once**: throughout a run from a control plane with no usage,
every tenant's rollups are the sums of the distinct events it reported for the meter in the
month exactly when no report carries an id that is stored for another tenant or meter. -/
theorem usage_counted_iff (cfg : Settings) (control : Db) (steps : List UsageStep) :
    Along (meteringStep cfg) (fun m s => s.clashes m.usage = false) (.fresh control) steps
      ↔ ∀ pre, pre <+: steps → CountedOnce (run (meteringStep cfg) (.fresh control) pre) :=
  along_iff_throughout (D := fun _ _ => True) (fun _ s _ h => countedOnce_step cfg s h)
    (along_of_forall (D := fun _ => True) fun _ _ => trivial) (countedOnce_fresh control)

namespace Example

/-- A payment is checked out and settled under one reference. -/
def paymentUsage : List UsageStep :=
  [.control (.staff (day 0) operator (.createTenant
      { externalId := "s", slug := "s", name := "School", planKey := none })),
   .report (day 0) (checkoutUsage "s" "PAY-1").toCall,
   .report (day 0) (settlementUsage "s" "PAY-1").toCall]

end Example

/-- Usage is not always counted once: the settlement is taken for a retry of the checkout,
and the meter of settlements stays empty. -/
theorem not_counted_once :
    ¬ ∀ (cfg : Settings) (control : Db) (steps : List UsageStep),
      CountedOnce (run (meteringStep cfg) (.fresh control) steps) := by
  intro h
  have hcounted := (h Example.settings {} Example.paymentUsage).rollups
    ⟨0, "gateway_settlements", usagePeriod (Example.day 0)⟩
  revert hcounted
  decide

end MultiAcademy.Control
