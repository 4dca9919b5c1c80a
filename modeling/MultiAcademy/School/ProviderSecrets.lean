import MultiAcademy.Lib.Calendar
import MultiAcademy.Lib.OrderedMap
import MultiAcademy.Lib.Run

/-!
# The school server's provider-secrets service

`platform-config/provider-secrets.service.ts`, as the steps the process takes between two
awaits.  A tenant's bucket holds its cached payloads, its fetches in flight and the
generation that tells a fetch whether it was overtaken; an invalidation of the tenant
deletes the bucket, and the next call opens another one whose generation starts again.

A payload remembers how many invalidations had covered its tenant and capability when its
fetch started, and a call how many had when it started.
-/

namespace MultiAcademy.School

open MultiAcademy.Lib

universe u
variable {π : Type u}

/-- A payload, with the invalidations that had covered it when its fetch started. -/
structure Secrets (π : Type u) where
  payload : π
  epoch : ℕ

structure SecretEntry (π : Type u) where
  fetchedAt : Time
  secrets : Secrets π

/-- `TenantSecretsBucket`. -/
structure Bucket (π : Type u) where
  entries : OrderedMap String (SecretEntry π) := .empty
  inFlight : OrderedMap String ℕ := .empty
  generation : ℕ := 0

inductive SecretFetchPhase (π : Type u)
  | pending
  /-- Its body has ended, and its `finally` has not run. -/
  | resolved (result : Option (Secrets π))
  | settled (result : Option (Secrets π))

def SecretFetchPhase.result : SecretFetchPhase π → Option (Secrets π)
  | .pending => none
  | .resolved result | .settled result => result

/-- A fetch, with the generation it started in; `epoch` counts the invalidations that had
covered it by then. -/
structure SecretFetch (π : Type u) where
  tenantId : String
  capability : String
  generation : ℕ
  epoch : ℕ
  phase : SecretFetchPhase π := .pending

/-- Where a call of `getSecrets` is. -/
inductive SecretCallPhase (π : Type u)
  | awaiting (fetch : ℕ)
  | answered (answer : Option (Secrets π))

/-- A call; `started` counts the invalidations that had covered it when it started. -/
structure SecretCall (π : Type u) where
  tenantId : String
  capability : String
  started : ℕ
  phase : SecretCallPhase π

/-- The service and the calls; `epoch` counts the invalidations that have covered a tenant
and a capability. -/
structure SecretState (π : Type u) where
  cache : OrderedMap String (Bucket π) := .empty
  fetches : List (SecretFetch π) := []
  calls : ℕ → Option (SecretCall π) := fun _ => none
  epoch : String → String → ℕ := fun _ _ => 0

def SecretState.setCall (i : ℕ) (call : SecretCall π) (s : SecretState π) : SecretState π :=
  { s with calls := Function.update s.calls i (some call) }

/-- The settings the service reads. -/
structure SecretsEnv where
  ttlSeconds : ℤ := 60
  staleCeilingSeconds : ℤ := 300
  isConfigured : Bool := true

/-- `ttlMs`. -/
def SecretsEnv.ttl (env : SecretsEnv) : Time := Time.seconds (max 5 (min env.ttlSeconds 60))

/-- `staleCeilingMs`. -/
def SecretsEnv.staleCeiling (env : SecretsEnv) : Time :=
  Time.seconds (max 30 (min env.staleCeilingSeconds 900))

/-! ## The code between two awaits -/

/-- `evictIfFull`: drop the bucket that was opened first. -/
def evictBucket (cache : OrderedMap String (Bucket π)) : OrderedMap String (Bucket π) :=
  if cache.size < 500 then cache
  else
    match cache.entries with
    | (oldest, _) :: _ => if oldest ≠ "" then cache.erase oldest else cache
    | [] => cache

/-- `bucket`: open the tenant's bucket when there is none. -/
def openBucket (tenantId : String) (cache : OrderedMap String (Bucket π)) :
    OrderedMap String (Bucket π) :=
  match cache.get? tenantId with
  | some _ => cache
  | none => (evictBucket cache).set tenantId {}

/-- `refresh` in the tenant's bucket: join the fetch in flight, or start one. -/
def refreshSecrets (tenantId capability : String) (bucket : Bucket π) (s : SecretState π) :
    ℕ × SecretState π :=
  match bucket.inFlight.get? capability with
  | some existing => (existing, s)
  | none =>
    let task := s.fetches.length
    (task,
      { s with
        fetches := s.fetches ++
          [{ tenantId, capability, generation := bucket.generation
             epoch := s.epoch tenantId capability }]
        cache := s.cache.set tenantId
          { bucket with inFlight := bucket.inFlight.set capability task } })

/-- `getSecrets` up to its first await. -/
def getSecrets (env : SecretsEnv) (now : Time) (i : ℕ) (tenantId capability : String)
    (s : SecretState π) : SecretState π :=
  let answer (phase : SecretCallPhase π) (s : SecretState π) : SecretState π :=
    s.setCall i { tenantId, capability, started := s.epoch tenantId capability, phase }
  if !env.isConfigured then answer (.answered none) s
  else
    let cache := openBucket tenantId s.cache
    let opened := { s with cache }
    let bucket := (cache.get? tenantId).getD {}
    let refreshed := refreshSecrets tenantId capability bucket opened
    match bucket.entries.get? capability with
    | none => answer (.awaiting refreshed.1) refreshed.2
    | some hit =>
      let age := now - hit.fetchedAt
      if age < env.ttl then answer (.answered (some hit.secrets)) opened
      else if age < env.staleCeiling then
        -- stale, and refreshed behind the request
        answer (.answered (some hit.secrets)) refreshed.2
      else answer (.awaiting refreshed.1) refreshed.2

def SecretFetch.bucket (f : SecretFetch π) (s : SecretState π) : Option (Bucket π) :=
  (s.cache.get? f.tenantId).filter fun b => b.generation = f.generation

/-- A fetch fails: what is cached is what it comes to. -/
def SecretFetch.stale (f : SecretFetch π) (s : SecretState π) : Option (Secrets π) :=
  (s.cache.get? f.tenantId).bind fun b => (b.entries.get? f.capability).map (·.secrets)

/-- The end of a fetch: the payload is stored unless the generation tells that `invalidate`
ran meanwhile. -/
def completeSecrets (now : Time) (task : ℕ) (f : SecretFetch π) (payload : Option π)
    (s : SecretState π) : SecretState π :=
  match payload with
  | none =>
    { s with fetches := s.fetches.set task { f with phase := .resolved (f.stale s) } }
  | some payload =>
    let secrets : Secrets π := { payload, epoch := f.epoch }
    { s with
      fetches := s.fetches.set task { f with phase := .resolved (some secrets) }
      cache := match f.bucket s with
        | none => s.cache
        | some current => s.cache.set f.tenantId
            { current with
              entries := current.entries.set f.capability { fetchedAt := now, secrets } } }

/-- The `finally` of a fetch. -/
def settleSecrets (task : ℕ) (f : SecretFetch π) (result : Option (Secrets π))
    (s : SecretState π) : SecretState π :=
  { s with
    fetches := s.fetches.set task { f with phase := .settled result }
    cache := match f.bucket s with
      | none => s.cache
      | some current => s.cache.set f.tenantId
          { current with inFlight := current.inFlight.erase f.capability } }

/-- What an invalidation covers. -/
inductive Flush
  | all
  | tenant (tenantId : String)
  | capability (tenantId capability : String)

/-- `invalidate(tenantId, capability)`, by which of its arguments are there. -/
def Flush.ofArgs (tenantId capability : Option String) : Flush :=
  let tenantId := tenantId.getD ""
  let capability := capability.getD ""
  if tenantId = "" then .all
  else if capability = "" then .tenant tenantId
  else .capability tenantId capability

/-- The invalidation covers the tenant and the capability. -/
def Flush.covers (t c : String) : Flush → Bool
  | .all => true
  | .tenant tenantId => tenantId = t
  | .capability tenantId name => tenantId = t && name = c

/-- The buckets after an invalidation. -/
def Flush.drop (flush : Flush) (cache : OrderedMap String (Bucket π)) :
    OrderedMap String (Bucket π) :=
  match flush with
  | .all => .empty
  | .tenant tenantId => cache.erase tenantId
  | .capability tenantId name =>
    match cache.get? tenantId with
    | none => cache
    | some bucket => cache.set tenantId
        { entries := bucket.entries.erase name
          inFlight := bucket.inFlight.erase name
          generation := bucket.generation + 1 }

/-- `invalidate`. -/
def invalidateSecrets (flush : Flush) (s : SecretState π) : SecretState π :=
  { s with
    cache := flush.drop s.cache
    epoch := fun t c => s.epoch t c + if flush.covers t c then 1 else 0 }

/-! ## The system -/

/-- What can happen; a caller's number is used once. -/
inductive SecretEvent (π : Type u)
  | getSecrets (i : ℕ) (tenantId capability : String) (now : Time)
  | complete (task : ℕ) (payload : Option π) (now : Time)
  | settle (task : ℕ)
  | deliver (i : ℕ)
  | invalidate (tenantId capability : Option String)

def secretStep (env : SecretsEnv) (e : SecretEvent π) (s : SecretState π) : SecretState π :=
  match e with
  | .getSecrets i tenantId capability now =>
    match s.calls i with
    | some _ => s
    | none => getSecrets env now i tenantId capability s
  | .complete task payload now =>
    match s.fetches[task]? with
    | some f =>
      match f.phase with
      | .pending => completeSecrets now task f payload s
      | _ => s
    | none => s
  | .settle task =>
    match s.fetches[task]? with
    | some f =>
      match f.phase with
      | .resolved result => settleSecrets task f result s
      | _ => s
    | none => s
  | .deliver i =>
    match s.calls i with
    | some call =>
      match call.phase with
      | .awaiting task =>
        match s.fetches[task]? with
        | some f =>
          match f.phase with
          | .settled result =>
            s.setCall i { call with phase := .answered result }
          | _ => s
        | none => s
      | .answered _ => s
    | none => s
  | .invalidate tenantId capability => invalidateSecrets (.ofArgs tenantId capability) s

/-- No cached payload is older than an invalidation of its tenant and capability. -/
def SecretsCoherent (s : SecretState π) : Prop :=
  ∀ t bucket, s.cache.get? t = some bucket →
    bucket.entries.Current (fun entry => entry.secrets.epoch) (s.epoch t)

/-- No call returns a payload older than an invalidation it started after. -/
def SecretsFresh (s : SecretState π) : Prop :=
  ∀ i call secrets, s.calls i = some call → call.phase = .answered (some secrets) →
    call.started ≤ secrets.epoch

/-- A fetch that ends with a payload and meets a bucket of its own generation was not
overtaken by an invalidation. -/
def notOvertaken (s : SecretState π) : SecretEvent π → Bool
  | .complete task (some _) _ =>
    (s.fetches[task]?).all fun f => match f.phase with
      | .pending => (f.bucket s).isNone || f.epoch = s.epoch f.tenantId f.capability
      | _ => true
  | _ => true

/-! ## What holds along the way -/

section Proofs
variable {env : SecretsEnv} {now : Time} {s : SecretState π}

/-- Neither the fetch nor what it came to is older than the first `n` invalidations. -/
def SecretFetch.Floor (f : SecretFetch π) (n : ℕ) : Prop :=
  n ≤ f.epoch ∧ ∀ secrets, f.phase.result = some secrets → n ≤ secrets.epoch

/-- A call has got hold of nothing older than an invalidation it started after. -/
def SecretCall.Fresh (call : SecretCall π) (s : SecretState π) : Prop :=
  match call.phase with
  | .awaiting task => ∃ f, s.fetches[task]? = some f ∧ f.Floor call.started
  | .answered answer => ∀ secrets, answer = some secrets → call.started ≤ secrets.epoch

/-- The fetches in flight are not older than an invalidation, and no call has got hold of
an older payload. -/
structure SecretsInv (s : SecretState π) : Prop where
  flight : ∀ t bucket, s.cache.get? t = some bucket →
    ∀ c task, bucket.inFlight.get? c = some task →
      ∃ f, s.fetches[task]? = some f ∧ f.Floor (s.epoch t c)
  fetches : ∀ (task : ℕ) f, s.fetches[task]? = some f →
    f.epoch ≤ s.epoch f.tenantId f.capability
  calls : ∀ i call, s.calls i = some call → call.Fresh s

/-- Fetches are kept, and come to nothing older than they are. -/
def Keeps (s s' : SecretState π) : Prop :=
  ∀ (task : ℕ) f, s.fetches[task]? = some f →
    ∃ f', s'.fetches[task]? = some f' ∧ ∀ n, f.Floor n → f'.Floor n

variable {t : String} {cache : OrderedMap String (Bucket π)} {bucket : Bucket π} {task : ℕ}
  {f : SecretFetch π} {s' : SecretState π}

theorem Keeps.of_eq (h : s'.fetches = s.fetches) : Keeps s s' := by
  intro task f hf
  exact ⟨f, by rw [h, hf], fun _ hfloor => hfloor⟩

theorem SecretCall.Fresh.mono {call : SecretCall π} (h : call.Fresh s)
    (hkeeps : Keeps s s') : call.Fresh s' := by
  simp only [SecretCall.Fresh] at h ⊢
  cases hphase : call.phase with
  | answered answer => simpa [hphase] using h
  | awaiting task =>
    simp only [hphase] at h ⊢
    obtain ⟨f, hf, hfloor⟩ := h
    obtain ⟨f', hf', hfloor'⟩ := hkeeps task f hf
    exact ⟨f', hf', hfloor' _ hfloor⟩

theorem SecretsInv.calls_mono (h : SecretsInv s) (hkeeps : Keeps s s')
    (hcalls : s'.calls = s.calls) : ∀ i call, s'.calls i = some call → call.Fresh s' := by
  intro i call hcall
  rw [hcalls] at hcall
  exact (h.calls i call hcall).mono hkeeps

/-- After a bucket was stored, what holds of it and of the other buckets holds of every one. -/
theorem forall_setBucket {P : String → Bucket π → Prop}
    (h : ∀ t bucket, cache.get? t = some bucket → P t bucket)
    (hbucket : P t bucket) : ∀ t' bucket', (cache.set t bucket).get? t' = some bucket' →
      P t' bucket' := by
  intro t' bucket' hget
  rw [OrderedMap.get?_set] at hget
  by_cases ht : t' = t
  · rw [if_pos ht] at hget
    cases hget
    subst ht
    exact hbucket
  rw [if_neg ht] at hget
  exact h t' bucket' hget

theorem SecretsInv.setBucket (h : SecretsInv s) (t : String)
    (hbucket : ∀ c task, bucket.inFlight.get? c = some task →
      ∃ f, s.fetches[task]? = some f ∧ f.Floor (s.epoch t c)) :
    SecretsInv { s with cache := s.cache.set t bucket } := by
  exact ⟨forall_setBucket h.flight hbucket, h.fetches, h.calls⟩

theorem setBucket_coherent (hc : SecretsCoherent s) (t : String) (bucket : Bucket π) :
    SecretsCoherent { s with cache := s.cache.set t bucket }
      ↔ bucket.entries.Current (fun entry => entry.secrets.epoch) (s.epoch t) := by
  constructor
  · intro h
    exact h t bucket (by simp [OrderedMap.get?_set])
  intro hbucket
  exact forall_setBucket hc hbucket

theorem SecretsInv.setCall (h : SecretsInv s) {i : ℕ} {call : SecretCall π}
    (hfresh : call.Fresh s) : SecretsInv (s.setCall i call) := by
  have hkeeps : Keeps s (s.setCall i call) := .of_eq rfl
  refine ⟨h.flight, h.fetches, ?_⟩
  intro j c hcall
  simp only [SecretState.setCall, Function.update_apply] at hcall
  by_cases hid : j = i
  · rw [if_pos hid] at hcall
    cases hcall
    exact hfresh.mono hkeeps
  rw [if_neg hid] at hcall
  exact (h.calls j c hcall).mono hkeeps

/-! ## Opening a bucket and joining a fetch -/

/-- A bucket that is open was open before, or is new. -/
theorem openBucket_get? {t' : String}
    (h : (openBucket t cache).get? t' = some bucket) :
    cache.get? t' = some bucket ∨ bucket = {} := by
  have hevict : ∀ b, (evictBucket cache).get? t' = some b → cache.get? t' = some b := by
    intro b hb
    simp only [evictBucket] at hb
    split at hb
    · exact hb
    split at hb
    · split at hb
      · rw [OrderedMap.get?_erase] at hb
        split at hb
        · cases hb
        · exact hb
      · exact hb
    · exact hb
  simp only [openBucket] at h
  split at h
  · exact Or.inl h
  rw [OrderedMap.get?_set] at h
  split at h
  · cases h
    exact Or.inr rfl
  · exact Or.inl (hevict bucket h)

theorem openBucket_coherent (hc : SecretsCoherent s) (t : String) :
    SecretsCoherent { s with cache := openBucket t s.cache } := by
  intro t' bucket hget
  rcases openBucket_get? hget with hold | rfl
  · exact hc t' bucket hold
  · exact OrderedMap.current_empty

theorem openBucket_inv (h : SecretsInv s) (t : String) :
    SecretsInv { s with cache := openBucket t s.cache } := by
  refine ⟨?_, h.fetches, h.calls⟩
  intro t' bucket hget
  rcases openBucket_get? hget with hold | rfl
  · exact h.flight t' bucket hold
  intro c task htask
  cases htask

theorem bucket_coherent (hc : SecretsCoherent s) (t : String) :
    ((s.cache.get? t).getD {}).entries.Current (fun entry => entry.secrets.epoch)
      (s.epoch t) := by
  cases hget : s.cache.get? t with
  | none => exact OrderedMap.current_empty
  | some bucket => exact hc t bucket hget

theorem bucket_flight (h : SecretsInv s) (t : String) :
    ∀ c task, ((s.cache.get? t).getD {}).inFlight.get? c = some task →
      ∃ f, s.fetches[task]? = some f ∧ f.Floor (s.epoch t c) := by
  cases hget : s.cache.get? t with
  | none =>
    intro c task htask
    cases htask
  | some bucket => exact h.flight t bucket hget

theorem refreshSecrets_coherent (hc : SecretsCoherent s) (t c : String) :
    SecretsCoherent (refreshSecrets t c ((s.cache.get? t).getD {}) s).2 := by
  simp only [refreshSecrets]
  split
  · exact hc
  have hset := (setBucket_coherent hc t
    { (s.cache.get? t).getD {} with
      inFlight := ((s.cache.get? t).getD {}).inFlight.set c s.fetches.length }).2
    (bucket_coherent hc t)
  exact hset

/-- A new fetch is not older than an invalidation. -/
theorem startFetch_inv (h : SecretsInv s) (t c : String) (generation : ℕ) :
    Keeps s { s with
        fetches := s.fetches ++
          [{ tenantId := t, capability := c, generation, epoch := s.epoch t c }] }
      ∧ SecretsInv { s with
        fetches := s.fetches ++
          [{ tenantId := t, capability := c, generation, epoch := s.epoch t c }] } := by
  have hkeeps : Keeps s { s with
      fetches := s.fetches ++
        [{ tenantId := t, capability := c, generation, epoch := s.epoch t c }] } := by
    intro task f hf
    have hlt : task < s.fetches.length := (List.getElem?_eq_some_iff.1 hf).1
    exact ⟨f, by simp [List.getElem?_append_left hlt, hf], fun _ hfloor => hfloor⟩
  refine ⟨hkeeps, ?_, ?_, h.calls_mono hkeeps rfl⟩
  · intro t' bucket hget c' task htask
    obtain ⟨f, hf, hfloor⟩ := h.flight t' bucket hget c' task htask
    obtain ⟨f', hf', hfloor'⟩ := hkeeps task f hf
    exact ⟨f', hf', hfloor' _ hfloor⟩
  intro task f hf
  rcases List.mem_append.1 (List.mem_of_getElem? hf) with hold | hnew
  · obtain ⟨task', hold⟩ := List.mem_iff_getElem?.1 hold
    exact h.fetches task' f hold
  · rw [List.mem_singleton.1 hnew]

/-- The fetch a call joins or starts is not older than an invalidation. -/
theorem refreshSecrets_inv (h : SecretsInv s) (t c : String) :
    SecretsInv (refreshSecrets t c ((s.cache.get? t).getD {}) s).2
      ∧ ∃ f, (refreshSecrets t c ((s.cache.get? t).getD {}) s).2.fetches[
          (refreshSecrets t c ((s.cache.get? t).getD {}) s).1]? = some f
        ∧ f.Floor (s.epoch t c) := by
  simp only [refreshSecrets]
  split
  · rename_i existing hexisting
    exact ⟨h, bucket_flight h t c existing hexisting⟩
  obtain ⟨hkeeps, hstarted⟩ := startFetch_inv h t c ((s.cache.get? t).getD {}).generation
  have hnew : ∃ f, (s.fetches ++ [({ tenantId := t, capability := c, generation :=
      ((s.cache.get? t).getD {}).generation, epoch := s.epoch t c } : SecretFetch π)])[
        s.fetches.length]? = some f ∧ f.Floor (s.epoch t c) := by
    refine ⟨_, List.getElem?_concat_length, Nat.le_refl _, ?_⟩
    intro secrets hresult
    cases hresult
  refine ⟨hstarted.setBucket t ?_, hnew⟩
  intro c' task htask
  simp only [OrderedMap.get?_set] at htask
  by_cases hname : c' = c
  · rw [if_pos hname] at htask
    cases htask
    subst hname
    exact hnew
  rw [if_neg hname] at htask
  obtain ⟨f, hf, hfloor⟩ := bucket_flight h t c' task htask
  obtain ⟨f', hf', hfloor'⟩ := hkeeps task f hf
  exact ⟨f', hf', hfloor' _ hfloor⟩

/-! ## The steps -/

theorem getSecrets_coherent (hc : SecretsCoherent s) (i : ℕ) (t c : String) :
    SecretsCoherent (getSecrets env now i t c s) := by
  have hopened := openBucket_coherent hc t
  have hrefreshed := refreshSecrets_coherent hopened t c
  unfold getSecrets
  simp only
  split
  · exact hc
  split
  · exact hrefreshed
  split
  · exact hopened
  split
  · exact hrefreshed
  · exact hrefreshed

/-- A call that starts finds nothing old: what is cached is current, and so is the fetch it
awaits. -/
theorem getSecrets_inv (h : SecretsInv s) (hc : SecretsCoherent s) (i : ℕ) (t c : String) :
    SecretsInv (getSecrets env now i t c s) := by
  have hopened := openBucket_inv h t
  have hcurrent := bucket_coherent (openBucket_coherent hc t) t
  obtain ⟨hrefreshed, f, hf, hfloor⟩ := refreshSecrets_inv hopened t c
  have hepoch : (refreshSecrets t c (((openBucket t s.cache).get? t).getD {})
      { s with cache := openBucket t s.cache }).2.epoch = s.epoch := by
    simp only [refreshSecrets]
    split <;> rfl
  unfold getSecrets
  simp only
  split
  · refine h.setCall ?_
    intro secrets hnone
    cases hnone
  split
  · refine hrefreshed.setCall ⟨f, hf, ?_⟩
    rw [hepoch]
    exact hfloor
  rename_i hit hhit
  have hcached : s.epoch t c ≤ hit.secrets.epoch := Nat.le_of_eq (hcurrent c hit hhit).symm
  split
  · refine hopened.setCall ?_
    intro secrets hsome
    cases hsome
    exact hcached
  split
  · refine hrefreshed.setCall ?_
    intro secrets hsome
    cases hsome
    rw [hepoch]
    exact hcached
  refine hrefreshed.setCall ⟨f, hf, ?_⟩
  rw [hepoch]
  exact hfloor

/-- A fetch that moves on with a result no older than it is. -/
theorem SecretsInv.setFetch (h : SecretsInv s)
    (hf : s.fetches[task]? = some f) (phase : SecretFetchPhase π)
    (hresult : ∀ n secrets, f.Floor n → phase.result = some secrets → n ≤ secrets.epoch) :
    SecretsInv { s with fetches := s.fetches.set task { f with phase } } := by
  have hkeeps : Keeps s { s with fetches := s.fetches.set task { f with phase } } := by
    intro task' f' hf'
    simp only [List.getElem?_set]
    by_cases hid : task = task'
    · subst hid
      rw [hf] at hf'
      cases hf'
      have hlt : task < s.fetches.length := (List.getElem?_eq_some_iff.1 hf).1
      refine ⟨{ f with phase }, by simp [hlt], ?_⟩
      intro n hfloor
      exact ⟨hfloor.1, fun secrets hsome => hresult n secrets hfloor hsome⟩
    · exact ⟨f', by simp [hid, hf'], fun _ hfloor => hfloor⟩
  refine ⟨?_, ?_, h.calls_mono hkeeps rfl⟩
  · intro t bucket hget c task' htask
    obtain ⟨f', hf', hfloor⟩ := h.flight t bucket hget c task' htask
    obtain ⟨f'', hf'', hfloor'⟩ := hkeeps task' f' hf'
    exact ⟨f'', hf'', hfloor' _ hfloor⟩
  intro task' f' hf'
  simp only [List.getElem?_set] at hf'
  by_cases hid : task = task'
  · simp only [hid, if_true] at hf'
    split at hf'
    · cases hf'
      exact h.fetches task f hf
    · cases hf'
  rw [if_neg hid] at hf'
  exact h.fetches task' f' hf'

/-- A fetch that ends with a payload keeps the caches coherent exactly when it meets no
bucket of its generation, or no invalidation came since it started. -/
theorem completeSecrets_coherent (hc : SecretsCoherent s) (task : ℕ) (f : SecretFetch π)
    (payload : π) :
    SecretsCoherent (completeSecrets now task f (some payload) s)
      ↔ f.bucket s = none ∨ f.epoch = s.epoch f.tenantId f.capability := by
  simp only [completeSecrets]
  cases hbucket : f.bucket s with
  | none => exact iff_of_true hc (Or.inl rfl)
  | some current =>
    obtain ⟨hget, -⟩ := Option.filter_eq_some_iff.1 hbucket
    have hset := setBucket_coherent hc f.tenantId { current with
      entries := current.entries.set f.capability ⟨now, payload, f.epoch⟩ }
    simp only [reduceCtorEq, false_or]
    exact hset.trans (OrderedMap.current_set_iff (hc f.tenantId current hget))

theorem completeSecrets_inv (h : SecretsInv s) (hc : SecretsCoherent s) (hf : s.fetches[task]? = some f) (payload : Option π) :
    SecretsInv (completeSecrets now task f payload s) := by
  simp only [completeSecrets]
  cases payload with
  | none =>
    refine h.setFetch hf _ ?_
    intro n secrets hfloor hstale
    -- what the cache has is current, so not older than the fetch
    obtain ⟨bucket, hget, hsecrets⟩ := Option.bind_eq_some_iff.1 hstale
    obtain ⟨entry, hentry, rfl⟩ := Option.map_eq_some_iff.1 hsecrets
    have hcurrent := hc f.tenantId bucket hget f.capability entry hentry
    have hstarted := hfloor.1
    have hle := h.fetches task f hf
    simp only at hcurrent
    omega
  | some payload =>
    have hresolved := h.setFetch hf (.resolved (some { payload, epoch := f.epoch })) (by
        intro n secrets hfloor hsome
        cases hsome
        exact hfloor.1)
    simp only
    split
    · exact hresolved
    rename_i current hbucket
    obtain ⟨hget, -⟩ := Option.filter_eq_some_iff.1 hbucket
    exact hresolved.setBucket f.tenantId (hresolved.flight f.tenantId current hget)

theorem settleSecrets_coherent (hc : SecretsCoherent s) (task : ℕ) (f : SecretFetch π)
    (result : Option (Secrets π)) : SecretsCoherent (settleSecrets task f result s) := by
  simp only [settleSecrets]
  split
  · exact hc
  rename_i current hbucket
  obtain ⟨hget, -⟩ := Option.filter_eq_some_iff.1 hbucket
  have hset := (setBucket_coherent hc f.tenantId
    { current with inFlight := current.inFlight.erase f.capability }).2
    (hc f.tenantId current hget)
  exact hset

theorem settleSecrets_inv (h : SecretsInv s)
    {result : Option (Secrets π)} (hf : s.fetches[task]? = some f)
    (hphase : f.phase = .resolved result) : SecretsInv (settleSecrets task f result s) := by
  have hsettled := h.setFetch hf (.settled result) (by
    intro n secrets hfloor hsome
    exact hfloor.2 secrets (by rw [hphase]; exact hsome))
  simp only [settleSecrets]
  split
  · exact hsettled
  rename_i current hbucket
  obtain ⟨hget, -⟩ := Option.filter_eq_some_iff.1 hbucket
  refine hsettled.setBucket f.tenantId ?_
  intro c task' htask
  rw [OrderedMap.get?_erase] at htask
  split at htask
  · cases htask
  · exact hsettled.flight f.tenantId current hget c task' htask

/-- An invalidation leaves of a bucket only what it does not cover. -/
theorem Flush.drop_get? {flush : Flush} (h : (flush.drop cache).get? t = some bucket) :
    ∃ old, cache.get? t = some old
      ∧ (∀ c entry, bucket.entries.get? c = some entry →
          flush.covers t c = false ∧ old.entries.get? c = some entry)
      ∧ ∀ c task, bucket.inFlight.get? c = some task →
          flush.covers t c = false ∧ old.inFlight.get? c = some task := by
  cases flush with
  | all => cases h
  | tenant t' =>
    rw [Flush.drop, OrderedMap.get?_erase] at h
    split at h
    · cases h
    rename_i ht
    have hcovers : ∀ c, (Flush.tenant t').covers t c = false := by
      intro c
      simpa [Flush.covers] using Ne.symm ht
    exact ⟨bucket, h, fun c entry hentry => ⟨hcovers c, hentry⟩,
      fun c task htask => ⟨hcovers c, htask⟩⟩
  | capability t' name =>
    rw [Flush.drop] at h
    by_cases ht : t = t'
    · subst ht
      cases hold : cache.get? t with
      | none =>
        simp only [hold] at h
        cases h
      | some old =>
        simp only [hold, OrderedMap.get?_set, if_true] at h
        cases h
        refine ⟨old, rfl, ?_, ?_⟩
        · intro c entry hentry
          rw [OrderedMap.get?_erase] at hentry
          split at hentry
          · cases hentry
          · exact ⟨by simpa [Flush.covers] using Ne.symm ‹_›, hentry⟩
        intro c task htask
        rw [OrderedMap.get?_erase] at htask
        split at htask
        · cases htask
        · exact ⟨by simpa [Flush.covers] using Ne.symm ‹_›, htask⟩
    have hget : cache.get? t = some bucket := by
      split at h
      · exact h
      · rwa [OrderedMap.get?_set, if_neg ht] at h
    have hcovers : ∀ c, (Flush.capability t' name).covers t c = false := by
      intro c
      simp [Flush.covers, Ne.symm ht]
    exact ⟨bucket, hget, fun c entry hentry => ⟨hcovers c, hentry⟩,
      fun c task htask => ⟨hcovers c, htask⟩⟩

theorem epoch_invalidateSecrets {flush : Flush} {c : String} (h : flush.covers t c = false) :
    (invalidateSecrets flush s).epoch t c = s.epoch t c := by
  simp [invalidateSecrets, h]

theorem invalidateSecrets_coherent (hc : SecretsCoherent s) (flush : Flush) :
    SecretsCoherent (invalidateSecrets flush s) := by
  intro t bucket hget c entry hentry
  obtain ⟨old, hold, hentries, -⟩ := Flush.drop_get? hget
  obtain ⟨hcovers, hentry⟩ := hentries c entry hentry
  rw [epoch_invalidateSecrets hcovers]
  exact hc t old hold c entry hentry

theorem invalidateSecrets_inv (h : SecretsInv s) (flush : Flush) :
    SecretsInv (invalidateSecrets flush s) := by
  refine ⟨?_, ?_, h.calls_mono (.of_eq rfl) rfl⟩
  · intro t bucket hget c task htask
    obtain ⟨old, hold, -, hflight⟩ := Flush.drop_get? hget
    obtain ⟨hcovers, htask⟩ := hflight c task htask
    rw [epoch_invalidateSecrets hcovers]
    exact h.flight t old hold c task htask
  intro task f hf
  exact (h.fetches task f hf).trans (Nat.le_add_right _ _)

/-! ## One step -/

variable {e : SecretEvent π}

/-- **A step keeps the caches coherent exactly when no overtaken fetch meets a bucket of
its own generation.** -/
theorem secretStep_coherent (hc : SecretsCoherent s) :
    SecretsCoherent (secretStep env e s) ↔ notOvertaken s e = true := by
  cases e with
  | getSecrets i t c now =>
    refine iff_of_true ?_ rfl
    simp only [secretStep]
    split
    · exact hc
    · exact getSecrets_coherent hc i t c
  | complete task payload now =>
    cases payload with
    | none =>
      refine iff_of_true ?_ rfl
      simp only [secretStep]
      split
      · split
        · exact hc
        · exact hc
      · exact hc
    | some payload =>
      simp only [secretStep, notOvertaken]
      cases hf : s.fetches[task]? with
      | none => exact iff_of_true hc rfl
      | some f =>
        cases hphase : f.phase with
        | pending =>
          simp only [hphase, completeSecrets_coherent hc, Option.all_some]
          simp
        | resolved | settled =>
          simp only [hphase, Option.all_some]
          exact iff_of_true hc trivial
  | settle task =>
    refine iff_of_true ?_ rfl
    simp only [secretStep]
    split
    · split
      · exact settleSecrets_coherent hc task _ _
      · exact hc
    · exact hc
  | deliver i =>
    refine iff_of_true ?_ rfl
    simp only [secretStep]
    split
    · split
      · split
        · split
          · exact hc
          · exact hc
        · exact hc
      · exact hc
    · exact hc
  | invalidate t c => exact iff_of_true (invalidateSecrets_coherent hc _) rfl

/-- **While the caches are coherent, no call gets hold of a payload that is older than an
invalidation it started after.** -/
theorem secretStep_inv (h : SecretsInv s) (hc : SecretsCoherent s) :
    SecretsInv (secretStep env e s) := by
  cases e with
  | getSecrets i t c now =>
    simp only [secretStep]
    split
    · exact h
    · exact getSecrets_inv h hc i t c
  | complete task payload now =>
    simp only [secretStep]
    split
    · split
      · exact completeSecrets_inv h hc ‹_› payload
      · exact h
    · exact h
  | settle task =>
    simp only [secretStep]
    split
    · split
      · exact settleSecrets_inv h ‹_› ‹_›
      · exact h
    · exact h
  | deliver i =>
    simp only [secretStep]
    split
    · rename_i call hcall
      split
      · rename_i task hphase
        split
        · rename_i f hf
          split
          · rename_i result hsettled
            refine h.setCall ?_
            intro secrets hresult
            have hfresh := h.calls i call hcall
            simp only [SecretCall.Fresh, hphase] at hfresh
            obtain ⟨f', hf', hfloor⟩ := hfresh
            rw [hf] at hf'
            cases hf'
            exact hfloor.2 secrets (by rw [hsettled]; exact hresult)
          · exact h
        · exact h
      · exact h
    · exact h
  | invalidate t c => exact invalidateSecrets_inv h _

/-! ## Runs -/

/-- **No payload from before an invalidation is cached, or returned to a call that starts
after it, exactly along the runs in which no fetch that an invalidation overtook ends with
a payload while its tenant's bucket has the generation it started in.** -/
theorem secrets_fresh_iff (env : SecretsEnv) (es : List (SecretEvent π)) :
    (∀ pre, pre <+: es → SecretsCoherent (run (secretStep env) {} pre)
        ∧ SecretsFresh (run (secretStep env) {} pre))
      ↔ Along (secretStep env) (fun s e => notOvertaken s e = true) {} es := by
  have hcoherent : SecretsCoherent ({} : SecretState π) := by
    intro t bucket hget
    cases hget
  have hinv : SecretsInv ({} : SecretState π) := by
    refine ⟨?_, ?_, ?_⟩
    · intro t bucket hget
      cases hget
    · intro task f hf
      cases hf
    intro i call hcall
    cases hcall
  have hall : Along (secretStep env) (fun _ _ => True) ({} : SecretState π) es :=
    along_of_forall (D := fun _ => True) fun _ _ => trivial
  have hiff : Along (secretStep env) (fun s e => notOvertaken s e = true) {} es
      ↔ ∀ pre, pre <+: es → SecretsCoherent (run (secretStep env) {} pre) :=
    along_iff_throughout_with (fun _ _ _ hc h => secretStep_inv h hc)
      (fun _ _ _ hc _ => secretStep_coherent hc) hall hcoherent hinv
  constructor
  · intro h
    exact hiff.2 fun pre hpre => (h pre hpre).1
  intro h pre hpre
  have hcoherent := hiff.1 h
  have hserves : SecretsInv (run (secretStep env) {} pre) :=
    throughout_of (fun _ _ _ hc h => secretStep_inv h hc) hall hcoherent hinv pre hpre
  refine ⟨hcoherent pre hpre, ?_⟩
  intro i call secrets hcall hphase
  have hfresh := hserves.calls i call hcall
  simp only [SecretCall.Fresh, hphase] at hfresh
  exact hfresh secrets rfl

end Proofs

/-- The tenant is invalidated while its secrets are fetched, and another call opens its
bucket again; the old payload is stored there, and a third call finds it. -/
def rotated : List (SecretEvent ℕ) :=
  [.getSecrets 0 "school" "payments" 0, .invalidate (some "school") none,
    .getSecrets 1 "school" "payments" 1, .complete 0 (some 7) 2,
    .getSecrets 2 "school" "payments" 3]

/-- A call that starts after an invalidation of its tenant is served the secrets from
before it. -/
theorem not_secrets_fresh :
    ¬ ∀ (env : SecretsEnv) (es : List (SecretEvent ℕ)),
      SecretsFresh (run (secretStep env) {} es) := by
  intro h
  have hserved := h {} rotated 2 _ _ rfl rfl
  revert hserved
  decide

end MultiAcademy.School
