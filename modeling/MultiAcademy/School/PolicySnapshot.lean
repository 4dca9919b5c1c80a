import MultiAcademy.School.ConfigFreshness

/-!
# The policy snapshot of a token

`platform-config/policy-snapshot.util.ts`, and the two services that decide by it:
`FeatureFlagService` and `EnforcementService`.  A token carries the version of the config
it was issued under and a digest of its features.  A request whose snapshot matches the
cached config is decided by that config, without `getConfig`.
-/

namespace MultiAcademy.School

open MultiAcademy.Lib

structure Platform where
  /-- `Number(text)`, when it is an integer. -/
  number : String → Option ℤ
  /-- The first 16 hexadecimal digits of the SHA-256 of `JSON.stringify` of a config version
  and a list of features. -/
  featuresDigest : ℕ → List String → String

/-! ## Snapshots -/

structure PolicySnapshot where
  configVersion : ℕ
  tenantStatus : String
  featuresDigest : String

def enabledFeatures (config : RuntimeConfig) : List String :=
  ((config.features.filter (·.2)).map (·.1)).mergeSort

def buildPolicySnapshot (platform : Platform) (config : RuntimeConfig) : PolicySnapshot :=
  { configVersion := config.configVersion
    tenantStatus := config.status
    featuresDigest := platform.featuresDigest config.configVersion (enabledFeatures config) }

/-- The claims of a token that the services pick. -/
structure PolicyClaims where
  configVersion : Option ℤ := none
  featuresDigest : Option String := none
  tenantStatus : Option String := none

/-- The claims `issueSession` puts into a token. -/
def PolicySnapshot.claims (snapshot : PolicySnapshot) : PolicyClaims :=
  { configVersion := if 0 < snapshot.configVersion then some snapshot.configVersion else none
    featuresDigest := if snapshot.featuresDigest = "" then none else some snapshot.featuresDigest
    tenantStatus := if snapshot.tenantStatus = "" then none else some snapshot.tenantStatus }

/-- `policySnapshotMatches`, as the services call it: a missing version is `NaN`. -/
def policySnapshotMatches (platform : Platform) (peek : RuntimeConfig) (claims : PolicyClaims) :
    Bool :=
  match claims.configVersion with
  | none => false
  | some tokenVersion =>
    if tokenVersion ≤ 0 then false
    else
      match claims.featuresDigest.filter (· ≠ "") with
      | none => peek.configVersion = tokenVersion
      | some digest =>
        let expected := buildPolicySnapshot platform peek
        expected.configVersion = tokenVersion && expected.featuresDigest = digest

/-- The cache entry that `peekCached` reads, whatever its age. -/
def peekEntry (s : ConfigState) (tenantId : String) : Option Entry :=
  if tenantId = "" then none else s.cache.get? tenantId

def peekCached (s : ConfigState) (tenantId : String) : Option RuntimeConfig :=
  (peekEntry s tenantId).map (·.config)

/-- The config a service decides by without a call of `getConfig`. -/
def fastConfig (platform : Platform) (claims : PolicyClaims) (s : ConfigState)
    (tenantId : String) : Option RuntimeConfig :=
  (peekCached s tenantId).filter fun peek => policySnapshotMatches platform peek claims

/-! ## Enforcement -/

/-- The four octets of an address as one number. -/
def toInt (platform : Platform) (value : String) : Option (BitVec 32) :=
  match (value.toList.splitOn '.').map fun part => platform.number (String.ofList part) with
  | [some a, some b, some c, some d] =>
    if [a, b, c, d].any fun part => part < 0 ∨ 255 < part then none
    else some (BitVec.ofInt 32 (((a * 256 + b) * 256 + c) * 256 + d))
  | _ => none

def ipv4InCidr (platform : Platform) (ip cidr : String) : Bool :=
  match cidr.toList.splitOn '/' with
  | range :: bitsRaw :: _ =>
    match toInt platform ip, toInt platform (String.ofList range),
      platform.number (String.ofList bitsRaw) with
    | some ipInt, some rangeInt, some bits =>
      if bits < 0 ∨ 32 < bits then false
      else
        let mask : BitVec 32 :=
          if bits = 0 then 0 else BitVec.allOnes 32 <<< (32 - bits.toNat)
        (ipInt &&& mask) = (rangeInt &&& mask)
    | _, _, _ => false
  | _ => false

def ipBlocked (platform : Platform) (ip : String) (cidrs : List String) : Bool :=
  cidrs.contains ip || cidrs.any fun cidr => ipv4InCidr platform ip cidr

/-- Whom a request is from; what is missing or empty is not checked. -/
structure EnforcementOpts where
  userId : Option String := none
  email : Option String := none
  ip : Option String := none

/-- `text || fallback`. -/
def messageOr (text : Option String) (fallback : String) : String :=
  (text.filter (· ≠ "")).getD fallback

/-- `assertFromConfig`: nothing, or the error. -/
def assertFromConfig (platform : Platform) (opts : EnforcementOpts) (config : RuntimeConfig) :
    Except (ℕ × String) Unit :=
  let enf := config.enforcement
  let given (value : Option String) : Option String := value.filter (· ≠ "")
  if config.status = "blacklisted" ∨ enf.schoolBlacklisted then
    .error (403, messageOr enf.message
      "This school has been blocked from the platform. Contact support.")
  else if config.status = "suspended" ∨ config.status = "restricted" ∨ enf.denyLogin then
    .error (403, messageOr enf.message
      (if config.status = "restricted" then "This school is restricted. Contact support."
        else "This school is suspended. Contact support."))
  else if (given opts.userId).any fun id => enf.blockedUserIds.contains id then
    .error (403, "Your account has been blocked.")
  else if (given opts.email).any fun email =>
      (enf.blockedEmails.map String.toLower).contains email.toLower then
    .error (403, "Your account has been blocked.")
  else if (given opts.ip).any fun ip => ipBlocked platform ip enf.blockedIpCidrs then
    .error (403, "Access denied from this network.")
  else .ok ()

/-- `assertTenantAllowed`; `fetched` is what `getConfig` returns when it is called. -/
def assertTenantAllowed (platform : Platform) (claims : PolicyClaims) (opts : EnforcementOpts)
    (s : ConfigState) (tenantId : String) (fetched : RuntimeConfig) : Except (ℕ × String) Unit :=
  match fastConfig platform claims s tenantId with
  | some peek => assertFromConfig platform opts peek
  | none => assertFromConfig platform opts fetched

/-! ## Features -/

def foundationDefaultsOn : List String :=
  ["auth.login", "auth.register", "auth.password_reset", "auth.biometric_webauthn",
    "auth.remember_me", "users.management", "users.passport_photo", "org.profile", "org.branding",
    "org.subscription_view", "audit.logs", "rbac.permissions", "academic.sessions_terms",
    "academic.classes", "academic.subjects", "academic.enrollments", "academic.assignments",
    "academic.results", "academic.results_approve", "academic.scheme_of_work",
    "academic.grading_matrix", "attendance.students", "attendance.staff",
    "attendance.manual_codes", "attendance.geo_verification", "attendance.auto_absent_eod",
    "fees.structures", "fees.invoices", "fees.payments_manual", "fees.scholarships",
    "fees.refunds", "comms.announcements", "comms.in_app_notifications", "reports.view",
    "users.parent_activation", "ops.safeguarding", "comms.inbox", "comms.messaging", "comms.pta",
    "portal.parent"]

def resolveFromConfig (featureKey : String) (config : RuntimeConfig) : Bool :=
  if config.killSwitches.contains featureKey then false
  else if config.enforcement.capabilityFreezes.contains featureKey then false
  else if config.enforcement.capabilityFreezes.any fun freeze =>
      freeze.toList.getLast? = some '*' && freeze.toList.dropLast.isPrefixOf featureKey.toList then
    false
  else
    match config.features.lookup featureKey with
    | some on => on
    | none => foundationDefaultsOn.contains featureKey

/-- `resolve` of `FeatureFlagService`. -/
def resolveFeature (platform : Platform) (production : Bool) (claims : PolicyClaims)
    (featureKey : String) (s : ConfigState) (tenantId : String) (fetched : RuntimeConfig) : Bool :=
  if tenantId = "__registration__" ∧ !production ∧ foundationDefaultsOn.contains featureKey then
    true
  else
    match fastConfig platform claims s tenantId with
    | some peek => resolveFromConfig featureKey peek
    | none => resolveFromConfig featureKey fetched

/-! ## The slow path -/

/-- An entry that `getConfig` returns as it is: within its TTL, or stale below the ceiling. -/
def served (env : ConfigEnv) (now : Time) (entry : Entry) : Bool :=
  now - entry.fetchedAt < env.ttl entry.config
    || env.isConfigured && now - entry.fetchedAt < env.staleCeiling

/-- What a call of `getConfig` ends with that starts now and finds the entry in the cache;
a fetch it waits for ends with `pull`. -/
def configNow (env : ConfigEnv) (now : Time) (tenantId : String) (entry : Entry)
    (pull : Option RuntimeConfig) : RuntimeConfig :=
  if served env now entry then entry.config
  else if env.isConfigured then
    match pull with
    | some config => config
    | none => failClosedConfig now entry.config
  else localFallback now tenantId

def DecideAlike (platform : Platform) (config config' : RuntimeConfig) : Prop :=
  (∀ opts, assertFromConfig platform opts config = assertFromConfig platform opts config')
    ∧ ∀ featureKey, resolveFromConfig featureKey config = resolveFromConfig featureKey config'

/-- **The fast path is bounded**: a cached config that the snapshot matches is not older
than the stale ceiling and has the status and the enforcement the token was issued under,
and every request is decided as it is without a snapshot, whatever the control plane
answers now. -/
structure FastPathBounded (platform : Platform) (env : ConfigEnv) (now : Time)
    (claims : PolicyClaims) (issued : RuntimeConfig) (s : ConfigState) (tenantId : String)
    (entry : Entry) : Prop where
  fresh : (fastConfig platform claims s tenantId).isSome →
    now - entry.fetchedAt ≤ env.staleCeiling
  enforcement : ∀ peek ∈ fastConfig platform claims s tenantId,
    peek.status = issued.status ∧ peek.enforcement = issued.enforcement
  allowed : ∀ pull opts,
    assertTenantAllowed platform claims opts s tenantId (configNow env now tenantId entry pull)
      = assertTenantAllowed platform {} opts s tenantId (configNow env now tenantId entry pull)
  features : ∀ pull production featureKey,
    resolveFeature platform production claims featureKey s tenantId
        (configNow env now tenantId entry pull)
      = resolveFeature platform production {} featureKey s tenantId
        (configNow env now tenantId entry pull)

section FastPath
variable {platform : Platform} {env : ConfigEnv} {now : Time} {claims : PolicyClaims}
  {issued : RuntimeConfig} {s : ConfigState} {tenantId : String} {entry : Entry}

/-- Without a snapshot the services decide by what `getConfig` returns. -/
@[simp] theorem fastConfig_none : fastConfig platform {} s tenantId = none := by
  simp only [fastConfig, policySnapshotMatches]
  cases peekCached s tenantId <;> rfl

theorem fastConfig_eq (hentry : peekEntry s tenantId = some entry) :
    fastConfig platform claims s tenantId
      = if policySnapshotMatches platform entry.config claims then some entry.config
        else none := by
  simp [fastConfig, peekCached, hentry, Option.filter]

/-- The decisions of the services are the same with and without a snapshot exactly when the
configs decide alike. -/
theorem decideAlike_iff {peek fetched : RuntimeConfig}
    (hfast : fastConfig platform claims s tenantId = some peek) :
    ((∀ opts, assertTenantAllowed platform claims opts s tenantId fetched
          = assertTenantAllowed platform {} opts s tenantId fetched)
        ∧ ∀ production featureKey,
          resolveFeature platform production claims featureKey s tenantId fetched
            = resolveFeature platform production {} featureKey s tenantId fetched)
      ↔ DecideAlike platform peek fetched := by
  simp only [assertTenantAllowed, resolveFeature, hfast, fastConfig_none, DecideAlike]
  refine and_congr_right fun _ => ⟨fun h featureKey => ?_, fun h production featureKey => ?_⟩
  · simpa using h true featureKey
  · rw [h featureKey]

/-- Some answer of the control plane decides otherwise than a given config. -/
theorem exists_not_alike (platform : Platform) (config : RuntimeConfig) :
    ∃ pull, ¬ DecideAlike platform config pull := by
  cases h : assertFromConfig platform {} config with
  | error e =>
    refine ⟨{ tenantId := "" }, fun halike => ?_⟩
    have hsame := halike.1 {}
    rw [h] at hsame
    cases hsame
  | ok u =>
    refine ⟨{ tenantId := "", status := "blacklisted" }, fun halike => ?_⟩
    have hsame := halike.1 {}
    rw [h] at hsame
    cases hsame

/-- The entry decides like every config `getConfig` may return now exactly when it is the
one that is returned, or, where no control plane is configured, when it decides like the
fallback. -/
theorem alike_configNow_iff :
    (∀ pull, DecideAlike platform entry.config (configNow env now tenantId entry pull))
      ↔ served env now entry = true
        ∨ env.isConfigured = false
          ∧ DecideAlike platform entry.config (localFallback now tenantId) := by
  cases hserved : served env now entry with
  | true => simp [configNow, hserved, DecideAlike]
  | false =>
    cases hconf : env.isConfigured with
    | false => simp [configNow, hserved, hconf]
    | true =>
      obtain ⟨pull, hpull⟩ := exists_not_alike platform entry.config
      simp only [configNow, hserved, hconf, Bool.false_eq_true, if_false, if_true, false_or,
        Bool.true_eq_false, false_and, iff_false, not_forall]
      exact ⟨some pull, hpull⟩

/-- The fast path with an entry in the cache. -/
theorem fastPathBounded_iff (hentry : peekEntry s tenantId = some entry) :
    FastPathBounded platform env now claims issued s tenantId entry
      ↔ policySnapshotMatches platform entry.config claims = false
        ∨ now - entry.fetchedAt ≤ env.staleCeiling
          ∧ (entry.config.status = issued.status
            ∧ entry.config.enforcement = issued.enforcement)
          ∧ (served env now entry = true
            ∨ env.isConfigured = false
              ∧ DecideAlike platform entry.config (localFallback now tenantId)) := by
  have hfast : fastConfig platform claims s tenantId
      = if policySnapshotMatches platform entry.config claims then some entry.config else none :=
    fastConfig_eq hentry
  cases hmatch : policySnapshotMatches platform entry.config claims with
  | false =>
    rw [hmatch] at hfast
    refine iff_of_true ⟨?_, ?_, ?_, ?_⟩ (Or.inl rfl) <;>
      simp [assertTenantAllowed, resolveFeature, hfast]
  | true =>
    rw [hmatch, if_pos rfl] at hfast
    rw [← alike_configNow_iff]
    simp only [Bool.true_eq_false, false_or]
    constructor
    · intro h
      refine ⟨h.fresh (by simp [hfast]), h.enforcement _ hfast, fun pull => ?_⟩
      exact (decideAlike_iff hfast).1 ⟨h.allowed pull, h.features pull⟩
    intro h
    have halike := fun pull => (decideAlike_iff hfast).2 (h.2.2 pull)
    exact ⟨fun _ => h.1, fun peek hpeek => by
      rw [hfast] at hpeek
      cases hpeek
      exact h.2.1, fun pull => (halike pull).1, fun pull => (halike pull).2⟩

end FastPath

/-- **When the fast path is bounded**: for every state of the cache and every token, the
decisions by the snapshot are those of `getConfig` exactly when the snapshot does not match,
or the cached entry is one that `getConfig` returns now and has the enforcement the token
was issued under. -/
theorem fast_path_iff (platform : Platform) (env : ConfigEnv) (now : Time)
    (claims : PolicyClaims) (issued : RuntimeConfig) (s : ConfigState) (tenantId : String) :
    (∀ entry ∈ peekEntry s tenantId,
        FastPathBounded platform env now claims issued s tenantId entry)
      ↔ ∀ entry ∈ peekEntry s tenantId,
        policySnapshotMatches platform entry.config claims = false
        ∨ now - entry.fetchedAt ≤ env.staleCeiling
          ∧ (entry.config.status = issued.status
            ∧ entry.config.enforcement = issued.enforcement)
          ∧ (served env now entry = true
            ∨ env.isConfigured = false
              ∧ DecideAlike platform entry.config (localFallback now tenantId)) :=
  forall₂_congr fun _ hentry => fastPathBounded_iff hentry

namespace Example

/-- The digest of the first config of a school that has no features yet. -/
def platform : Platform :=
  { number := fun _ => none
    featuresDigest := fun v f => if v = 1 ∧ f = [] then "2a0b9d89d08ffd23" else "" }

/-- The school's server, after it has fetched the config once. -/
def server : ConfigState := run (configStep {}) (.start {} .empty) fetched

/-- The config it has fetched, under which a token was issued. -/
def school : RuntimeConfig := { tenantId := "school", configVersion := 1 }

end Example

/-- The fast path is not bounded: an hour after the last fetch, a token of the same version
is let in by the cached config, while `getConfig` would fetch that the school is
suspended. -/
theorem not_fast_path_bounded :
    ¬ ∀ (platform : Platform) (env : ConfigEnv) (now : Time) (issued : RuntimeConfig)
      (s : ConfigState) (tenantId : String), Reachable (configStep env) (.start env .empty) s →
      ∀ entry ∈ peekEntry s tenantId, FastPathBounded platform env now
        (buildPolicySnapshot platform issued).claims issued s tenantId entry := by
  intro h
  have hbounded := h Example.platform {} (Time.seconds 3600) Example.school Example.server
    "school" ⟨fetched, rfl⟩ ⟨Example.school, 0, 0⟩ rfl
  have hallowed := hbounded.allowed (some { Example.school with status := "suspended" }) {}
  revert hallowed
  decide +kernel

end MultiAcademy.School
