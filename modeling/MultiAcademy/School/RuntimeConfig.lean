import MultiAcademy.Lib.Calendar
import MultiAcademy.Lib.Pipeline
import MultiAcademy.Lib.Run

/-!
# The school server's runtime-config service

`platform-config/runtime-config.service.ts` and its Redis store, as the steps one process
takes between two awaits: a call of `getConfig`, its continuation after the Redis lookup,
the end of a fetch and of its `finally`, the resumption of the callers that wait for it,
`invalidate`, and the commands Redis executes in the order they were sent.

An entry remembers how many invalidations had covered its tenant when its fetch started,
and a call how many had when it started.  The bookkeeping of the change audit is not
modelled: nothing that is returned or cached reads it.
-/

namespace MultiAcademy.School

open MultiAcademy.Lib

/-! ## Configs -/

/-- `enforcement` of a config; its blocked devices are not read. -/
structure ConfigEnforcement where
  schoolBlacklisted : Bool := false
  blockedUserIds : List String := []
  blockedEmails : List String := []
  blockedIpCidrs : List String := []
  capabilityFreezes : List String := []
  denyLogin : Bool := false
  message : Option String := none
  deriving DecidableEq

/-- What the service and the policy guards read and write of `TenantRuntimeConfig`. -/
structure RuntimeConfig where
  tenantId : String
  status : String := "active"
  features : List (String × Bool) := []
  killSwitches : List String := []
  enforcement : ConfigEnforcement := {}
  providers : List (String × String) := []
  ttlSeconds : Option ℤ := none
  updatedAt : Time := 0
  configVersion : ℕ := 0

/-- `CacheEntry`; `epoch` counts the invalidations that had covered the tenant when the
fetch of the config started. -/
structure Entry where
  config : RuntimeConfig
  fetchedAt : Time
  epoch : ℕ

/-- The deployment: the settings the service reads, and which clients are there. -/
structure ConfigEnv where
  ttlSeconds : ℤ := 60
  staleCeilingSeconds : ℤ := 300
  isConfigured : Bool := true
  redisEnabled : Bool := true

variable (env : ConfigEnv) (now : Time) (tenantId : String)

/-- `defaultTtlMs`. -/
def ConfigEnv.defaultTtl : Time := Time.seconds (max 5 (min env.ttlSeconds 60))

/-- `staleCeilingMs`. -/
def ConfigEnv.staleCeiling : Time :=
  Time.seconds (max 30 (min env.staleCeilingSeconds 900))

def ConfigEnv.ttl (config : RuntimeConfig) : Time :=
  match config.ttlSeconds with
  | some seconds => if seconds ≠ 0 then Time.seconds (min seconds 60) else env.defaultTtl
  | none => env.defaultTtl

def localFallback : RuntimeConfig := { tenantId, updatedAt := now }

def failClosedFeatures : List String :=
  ["fees.gateway", "fees.advance_payment", "comms.sms", "comms.email", "comms.push",
    "ai.assistant", "ai.support_chatbot", "ai.performance_detection",
    "ai.performance_recommendations", "ai.risk_analytics", "ai.essay_grading", "ai.tutor",
    "ai.teacher_copilot", "ai.report_comments", "ai.timetable_solver", "tutoring.marketplace",
    "tutoring.payments", "tutoring.ai_hybrid", "comms.meetings"]

/-- `failClosedConfig` on a config. -/
def failClosedConfig (base : RuntimeConfig) : RuntimeConfig :=
  { base with
    features := failClosedFeatures.foldl (fun features key =>
      OrderedMap.setEntries key false features) base.features
    providers := []
    updatedAt := now }

/-! ## Fetches and calls -/

/-- Where a refresh is. -/
inductive FetchPhase
  | pending
  /-- Its body has ended, with a config or an error, and its `finally` has not run. -/
  | resolved (result : Option RuntimeConfig)
  | settled (result : Option RuntimeConfig)

/-- A refresh, with the generations it started in. -/
structure Fetch where
  tenantId : String
  gen : ℕ
  globalGen : ℕ
  phase : FetchPhase := .pending

/-- The invalidations that had covered the tenant when the fetch started. -/
def Fetch.epoch (f : Fetch) : ℕ := f.gen + f.globalGen

/-- What a call returns; `epoch` is that of the fetched config it comes from. -/
structure Answer where
  config : RuntimeConfig
  epoch : Option ℕ

/-- Where a call of `getConfig` is. -/
inductive CallPhase
  /-- It waits for Redis. -/
  | reading
  /-- Redis has answered, and the call has not gone on. -/
  | replied (fromRedis : Option Entry)
  /-- It waits for a fetch; `cached` is what it falls back on. -/
  | awaiting (fetch : ℕ) (cached : Option Entry)
  | answered (answer : Answer)

/-- A call; `started` counts the invalidations that had covered its tenant when it
started. -/
structure Call where
  tenantId : String
  force : Bool
  started : ℕ
  phase : CallPhase

/-- The service, Redis behind its connection, and the calls. -/
structure ConfigState where
  cache : OrderedMap String Entry := .empty
  inFlight : OrderedMap String ℕ := .empty
  generation : String → ℕ := fun _ => 0
  globalGeneration : ℕ := 0
  fetches : List Fetch := []
  redis : Pipeline ℕ String Entry := { server := .empty }
  calls : ℕ → Option Call := fun _ => none

/-- The invalidations that have covered a tenant. -/
def ConfigState.epoch (s : ConfigState) (tenantId : String) : ℕ :=
  s.generation tenantId + s.globalGeneration

/-! ## The code between two awaits -/

/-- `refresh`: join the fetch in flight, or start one. -/
def refresh (s : ConfigState) : ℕ × ConfigState :=
  match s.inFlight.get? tenantId with
  | some existing => (existing, s)
  | none =>
    let task := s.fetches.length
    (task,
      { s with
        fetches := s.fetches ++
          [{ tenantId, gen := s.generation tenantId, globalGen := s.globalGeneration }]
        inFlight := s.inFlight.set tenantId task })

def Entry.answer (entry : Entry) : Answer := ⟨entry.config, some entry.epoch⟩

/-- The rest of `getConfig`, once the caches have been looked up. -/
def serve (force : Bool)
    (cached : Option Entry) (s : ConfigState) : CallPhase × ConfigState :=
  let await : CallPhase × ConfigState :=
    if !env.isConfigured then (.answered ⟨localFallback now tenantId, none⟩, s)
    else
      let (task, s) := refresh tenantId s
      (.awaiting task cached, s)
  match cached with
  | none => await
  | some entry =>
    let age := now - entry.fetchedAt
    if !force && age < env.ttl entry.config then (.answered entry.answer, s)
    else if env.isConfigured && !force && age < env.staleCeiling then
      -- stale, and refreshed behind the request
      (.answered entry.answer, (refresh tenantId s).2)
    else await

def ConfigState.setCall (s : ConfigState) (i : ℕ) (call : Call) : ConfigState :=
  { s with calls := Function.update s.calls i (some call) }

/-- `getConfig` up to its first await. -/
def getConfig (i : ℕ) (tenantId : String) (force : Bool)
    (s : ConfigState) : ConfigState :=
  let call (phase : CallPhase) : Call := { tenantId, force, started := s.epoch tenantId, phase }
  if tenantId = "" then s.setCall i (call (.answered ⟨localFallback now "unknown", none⟩))
  else
    let cached := s.cache.get? tenantId
    if cached.isNone && !force && env.redisEnabled then
      { s with redis := s.redis.send (.get i tenantId) }.setCall i (call .reading)
    else
      let (phase, s) := serve env now tenantId force cached s
      s.setCall i (call phase)

/-- What Redis had goes into memory. -/
def ConfigState.remember (s : ConfigState) (tenantId : String) (fromRedis : Option Entry) :
    ConfigState :=
  match fromRedis with
  | some entry => { s with cache := s.cache.set tenantId entry }
  | none => s

/-- `getConfig` after the Redis lookup. -/
def resume (i : ℕ) (call : Call) (fromRedis : Option Entry)
    (s : ConfigState) : ConfigState :=
  let (phase, s) := serve env now call.tenantId call.force fromRedis
    (s.remember call.tenantId fromRedis)
  s.setCall i { call with phase }

/-- The entry that was fetched first. -/
def oldest (cache : OrderedMap String Entry) : Option String :=
  (cache.entries.foldl (fun (kept : Option (String × Entry)) e =>
    match kept with
    | none => some e
    | some k => if e.2.fetchedAt < k.2.fetchedAt then some e else some k) none).map Prod.fst

def evictIfFull (cache : OrderedMap String Entry) : OrderedMap String Entry :=
  if cache.size < 500 then cache
  else
    match oldest cache with
    | some oldestId => cache.erase oldestId
    | none => cache

/-- The end of a refresh: the config is stored unless `invalidate` ran meanwhile. -/
def completeFetch (task : ℕ) (f : Fetch)
    (result : Option RuntimeConfig) (s : ConfigState) : ConfigState :=
  let ended := { s with fetches := s.fetches.set task { f with phase := .resolved result } }
  match result with
  | none => ended
  | some config =>
    if s.generation f.tenantId ≠ f.gen ∨ s.globalGeneration ≠ f.globalGen then ended
    else
      let entry : Entry := { config, fetchedAt := now, epoch := f.epoch }
      { ended with
        cache := (evictIfFull s.cache).set f.tenantId entry
        redis := if env.redisEnabled then s.redis.send (.set f.tenantId entry) else s.redis }

/-- The `finally` of a refresh: clear its own slot. -/
def settleFetch (task : ℕ) (f : Fetch) (result : Option RuntimeConfig) (s : ConfigState) :
    ConfigState :=
  { s with
    fetches := s.fetches.set task { f with phase := .settled result }
    inFlight := if s.inFlight.get? f.tenantId = some task then s.inFlight.erase f.tenantId
      else s.inFlight }

/-- A call goes on once the fetch it waits for has settled. -/
def deliver (i : ℕ) (call : Call) (f : Fetch) (result : Option RuntimeConfig)
    (cached : Option Entry) (s : ConfigState) : ConfigState :=
  let answer : Answer := match result, cached with
    | some config, _ => ⟨config, some f.epoch⟩
    | none, some entry => ⟨failClosedConfig now entry.config, some entry.epoch⟩
    | none, none => ⟨failClosedConfig now (localFallback now call.tenantId), none⟩
  s.setCall i { call with phase := .answered answer }

/-- `invalidate` of one tenant. -/
def invalidateTenant (s : ConfigState) : ConfigState :=
  { s with
    cache := s.cache.erase tenantId
    inFlight := s.inFlight.erase tenantId
    generation := Function.update s.generation tenantId (s.generation tenantId + 1)
    redis := if env.redisEnabled then s.redis.send (.del tenantId) else s.redis }

/-- `invalidate` without a tenant; Redis is not told. -/
def invalidateAll (s : ConfigState) : ConfigState :=
  { s with
    cache := .empty
    inFlight := .empty
    globalGeneration := s.globalGeneration + 1 }

/-- `RuntimeConfigRedisStore.read` of what Redis returned. -/
def fromRedis (reply : Option Entry) : Option Entry :=
  reply.filter fun entry => entry.config.tenantId ≠ ""

def execRedis (arrives : Bool) (s : ConfigState) : ConfigState :=
  let (reply, redis) := Pipeline.exec arrives s.redis
  let executed := { s with redis }
  match reply with
  | none => executed
  | some (i, value) =>
    match s.calls i with
    | some call => executed.setCall i { call with phase := .replied (fromRedis value) }
    | none => executed

/-! ## The system -/

/-- What can happen; a caller's number is used once. -/
inductive ConfigEvent
  | getConfig (i : ℕ) (tenantId : String) (force : Bool) (now : Time)
  | resume (i : ℕ) (now : Time)
  | complete (task : ℕ) (result : Option RuntimeConfig) (now : Time)
  | settle (task : ℕ)
  | deliver (i : ℕ) (now : Time)
  | invalidate (tenantId : Option String)
  | redis (arrives : Bool)
  | redisExpire (tenantId : String)

def configStep (e : ConfigEvent) (s : ConfigState) : ConfigState :=
  match e with
  | .getConfig i tenantId force now =>
    match s.calls i with
    | some _ => s
    | none => getConfig env now i tenantId force s
  | .resume i now =>
    match s.calls i with
    | some call =>
      match call.phase with
      | .replied reply => resume env now i call reply s
      | _ => s
    | none => s
  | .complete task result now =>
    match s.fetches[task]? with
    | some f =>
      match f.phase with
      | .pending => completeFetch env now task f result s
      | _ => s
    | none => s
  | .settle task =>
    match s.fetches[task]? with
    | some f =>
      match f.phase with
      | .resolved result => settleFetch task f result s
      | _ => s
    | none => s
  | .deliver i now =>
    match s.calls i with
    | some call =>
      match call.phase with
      | .awaiting task cached =>
        match s.fetches[task]? with
        | some f =>
          match f.phase with
          | .settled result => deliver now i call f result cached s
          | _ => s
        | none => s
      | _ => s
    | none => s
  | .invalidate (some tenantId) =>
    if tenantId ≠ "" then invalidateTenant env tenantId s else invalidateAll s
  | .invalidate none => invalidateAll s
  | .redis arrives => execRedis arrives s
  | .redisExpire tenantId => { s with redis := s.redis.expire tenantId }

/-- A fresh process, and what Redis holds. -/
def ConfigState.start (server : OrderedMap String Entry) : ConfigState :=
  { redis := { server := if env.redisEnabled then server else .empty } }

end MultiAcademy.School
