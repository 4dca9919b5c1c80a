import MultiAcademy.School.RuntimeConfig

/-!
# Invalidated configs

A config is older than an invalidation when its fetch started before it.  The service
discards a refresh that an invalidation overtook, and forgets it so that later calls start
one of their own.  Two ways of an old config into a cache are left: a call that looked it
up in Redis stores it when it goes on, whatever happened meanwhile, and an invalidation of
all tenants leaves Redis alone.
-/

namespace MultiAcademy.School

open MultiAcademy.Lib

variable {env : ConfigEnv} {now : Time} {s : ConfigState}

/-- No cached config is older than an invalidation of its tenant: neither in memory, nor
in Redis or on its way there. -/
structure Coherent (s : ConfigState) : Prop where
  memory : s.cache.Current Entry.epoch s.epoch
  redis : ∀ k, ∀ entry ∈ s.redis.candidates k, entry.epoch = s.epoch k

/-- No call returns a config older than an invalidation it started after. -/
def ServesFresh (s : ConfigState) : Prop :=
  ∀ i call answer, s.calls i = some call → call.phase = .answered answer →
    ∀ n ∈ answer.epoch, call.started ≤ n

/-- The step keeps configs from before an invalidation out of the caches. -/
def invalidates (s : ConfigState) : ConfigEvent → Prop
  | .resume i _ => ∀ call entry, s.calls i = some call → call.phase = .replied (some entry) →
      entry.epoch = s.epoch call.tenantId
  | .invalidate tenantId => tenantId.getD "" = "" → ∀ k, s.redis.candidates k = []
  | _ => True

def redisDeletes (s : ConfigState) : ConfigEvent → Prop
  | .redis arrives => s.redis.Delivers arrives
  | _ => True

/-! ## What calls have got hold of -/

/-- What a call has got hold of is not older than an invalidation it started after. -/
def Call.Fresh (s : ConfigState) (call : Call) : Prop :=
  call.started ≤ s.epoch call.tenantId ∧
    match call.phase with
    | .reading => True
    | .replied reply => ∀ entry ∈ reply, call.started ≤ entry.epoch
    | .awaiting task cached => (∃ f, s.fetches[task]? = some f ∧ call.started ≤ f.epoch)
        ∧ ∀ entry ∈ cached, call.started ≤ entry.epoch
    | .answered answer => ∀ n ∈ answer.epoch, call.started ≤ n

/-- What holds along the way: the fetches in flight started after every invalidation of
their tenant, and no call has got hold of an older config. -/
structure Inv (env : ConfigEnv) (s : ConfigState) : Prop where
  flight : ∀ k task, s.inFlight.get? k = some task →
    ∃ f, s.fetches[task]? = some f ∧ f.tenantId = k ∧ f.epoch = s.epoch k
  calls : ∀ i call, s.calls i = some call → call.Fresh s
  reads : ∀ i k entry, s.redis.MayReturn i k entry →
    ∃ call, s.calls i = some call ∧ call.started ≤ entry.epoch
  off : env.redisEnabled = false → ∀ k, s.redis.candidates k = []

/-- Invalidations only add up, and fetches stay what they are. -/
structure Grows (s s' : ConfigState) : Prop where
  epoch : ∀ k, s.epoch k ≤ s'.epoch k
  fetches : ∀ (task : ℕ) f, s.fetches[task]? = some f →
    ∃ f', s'.fetches[task]? = some f' ∧ f'.tenantId = f.tenantId ∧ f'.epoch = f.epoch

variable {s' : ConfigState}

theorem Grows.of_eq (hepoch : ∀ k, s'.epoch k = s.epoch k)
    (hfetches : s'.fetches = s.fetches) : Grows s s' := by
  refine ⟨fun k => Nat.le_of_eq (hepoch k).symm, ?_⟩
  intro task f hf
  exact ⟨f, by rw [hfetches, hf], rfl, rfl⟩

variable {call : Call} {f : Fetch} {i task : ℕ} {cached : Option Entry}

/-- A fetch that moves on is the same fetch. -/
theorem Grows.of_set (phase : FetchPhase)
    (hf : s.fetches[task]? = some f) (hepoch : ∀ k, s'.epoch k = s.epoch k)
    (hfetches : s'.fetches = s.fetches.set task { f with phase }) : Grows s s' := by
  refine ⟨fun k => Nat.le_of_eq (hepoch k).symm, ?_⟩
  intro task' f' hf'
  rw [hfetches, List.getElem?_set]
  by_cases hid : task = task'
  · subst hid
    rw [hf] at hf'
    cases hf'
    have hlt : task < s.fetches.length := (List.getElem?_eq_some_iff.1 hf).1
    exact ⟨{ f with phase }, by simp [hlt], rfl, rfl⟩
  · exact ⟨f', by simp [hid, hf'], rfl, rfl⟩

theorem Call.Fresh.mono (h : call.Fresh s) (hg : Grows s s') :
    call.Fresh s' := by
  obtain ⟨hstarted, hphase⟩ := h
  refine ⟨hstarted.trans (hg.epoch _), ?_⟩
  cases hp : call.phase with
  | reading => trivial
  | replied reply => simpa [hp] using hphase
  | answered answer => simpa [hp] using hphase
  | awaiting task cached =>
    simp only [hp] at hphase
    obtain ⟨⟨f, hf, hle⟩, hcached⟩ := hphase
    obtain ⟨f', hf', -, hepoch⟩ := hg.fetches task f hf
    exact ⟨⟨f', hf', by omega⟩, hcached⟩

theorem Inv.calls_mono (h : Inv env s) (hg : Grows s s')
    (hcalls : s'.calls = s.calls) : ∀ i call, s'.calls i = some call → call.Fresh s' := by
  intro i call hcall
  rw [hcalls] at hcall
  exact (h.calls i call hcall).mono hg

theorem Inv.flight_mono (h : Inv env s) (hg : Grows s s')
    (hepoch : ∀ k, s'.epoch k = s.epoch k)
    (hflight : ∀ k task, s'.inFlight.get? k = some task → s.inFlight.get? k = some task) :
    ∀ k task, s'.inFlight.get? k = some task →
      ∃ f, s'.fetches[task]? = some f ∧ f.tenantId = k ∧ f.epoch = s'.epoch k := by
  intro k task htask
  obtain ⟨f, hf, htenant, hsame⟩ := h.flight k task (hflight k task htask)
  obtain ⟨f', hf', htenant', hepoch'⟩ := hg.fetches task f hf
  exact ⟨f', hf', htenant'.trans htenant, by rw [hepoch', hsame, hepoch]⟩

/-! ## Calls -/

/-- A call that is recorded anew started no later than before. -/
theorem Inv.setCall (h : Inv env s) (hfresh : call.Fresh s)
    (hsame : ∀ old, s.calls i = some old → call.started ≤ old.started) :
    Inv env (s.setCall i call) := by
  have hg : Grows s (s.setCall i call) := .of_eq (fun _ => rfl) rfl
  refine ⟨h.flight_mono hg (fun _ => rfl) (fun _ _ htask => htask), ?_, ?_, h.off⟩
  · intro j c hc
    simp only [ConfigState.setCall, Function.update_apply] at hc
    by_cases hid : j = i
    · rw [if_pos hid] at hc
      cases hc
      exact hfresh.mono hg
    rw [if_neg hid] at hc
    exact (h.calls j c hc).mono hg
  intro j k entry hmay
  obtain ⟨old, hold, hle⟩ := h.reads j k entry hmay
  simp only [ConfigState.setCall, Function.update_apply]
  by_cases hid : j = i
  · subst hid
    exact ⟨call, by simp, (hsame old hold).trans hle⟩
  · exact ⟨old, by simp [hid, hold], hle⟩

/-- `refresh` leaves everything but the fetches alone. -/
theorem refresh_frame (k : String) (s : ConfigState) :
    ∃ fetches inFlight, (refresh k s).2 = { s with fetches, inFlight } := by
  simp only [refresh]
  split
  · exact ⟨_, _, rfl⟩
  · exact ⟨_, _, rfl⟩

/-- The fetch a call joins or starts is not older than an invalidation. -/
theorem refresh_inv (h : Inv env s) (k : String) :
    Inv env (refresh k s).2 ∧ Grows s (refresh k s).2
      ∧ ∃ f, (refresh k s).2.fetches[(refresh k s).1]? = some f ∧ f.epoch = s.epoch k := by
  simp only [refresh]
  split
  · rename_i existing hexisting
    obtain ⟨f, hf, -, hepoch⟩ := h.flight k existing hexisting
    exact ⟨h, .of_eq (fun _ => rfl) rfl, f, hf, hepoch⟩
  have hg : Grows s
      { s with
        fetches := s.fetches ++
          [{ tenantId := k, gen := s.generation k, globalGen := s.globalGeneration }]
        inFlight := s.inFlight.set k s.fetches.length } := by
    refine ⟨fun _ => Nat.le_refl _, ?_⟩
    intro task f hf
    have hlt : task < s.fetches.length := (List.getElem?_eq_some_iff.1 hf).1
    exact ⟨f, by simp [List.getElem?_append_left hlt, hf], rfl, rfl⟩
  refine ⟨⟨?_, h.calls_mono hg rfl, h.reads, h.off⟩, hg, ?_⟩
  · intro k' task htask
    simp only [OrderedMap.get?_set] at htask
    by_cases hk : k' = k
    · rw [if_pos hk] at htask
      cases htask
      subst hk
      exact ⟨{ tenantId := k', gen := s.generation k', globalGen := s.globalGeneration },
        by simp, rfl, rfl⟩
    rw [if_neg hk] at htask
    obtain ⟨f, hf, htenant, hepoch⟩ := h.flight k' task htask
    obtain ⟨f', hf', htenant', hepoch'⟩ := hg.fetches task f hf
    exact ⟨f', hf', htenant'.trans htenant, hepoch'.trans hepoch⟩
  exact ⟨{ tenantId := k, gen := s.generation k, globalGen := s.globalGeneration },
    by simp, rfl⟩

theorem serve_frame (env : ConfigEnv) (now : Time) (k : String) (force : Bool)
    (cached : Option Entry) (s : ConfigState) :
    ∃ fetches inFlight, (serve env now k force cached s).2 = { s with fetches, inFlight } := by
  have hsame : ∃ fetches inFlight, s = { s with fetches, inFlight } := ⟨_, _, rfl⟩
  have hrefresh := refresh_frame k s
  simp only [serve]
  cases cached with
  | none =>
    simp only
    split
    · exact hsame
    · exact hrefresh
  | some entry =>
    simp only
    split
    · exact hsame
    split
    · exact hrefresh
    split
    · exact hsame
    · exact hrefresh

/-- What `serve` gives a call is not older than an invalidation it started after. -/
theorem serve_inv (h : Inv env s) (now : Time) {k : String} (force : Bool) {started : ℕ} (hstarted : started ≤ s.epoch k)
    (hcached : ∀ entry ∈ cached, started ≤ entry.epoch) :
    Inv env (serve env now k force cached s).2
      ∧ Call.Fresh (serve env now k force cached s).2
          ⟨k, force, started, (serve env now k force cached s).1⟩ := by
  obtain ⟨hinv, hg, f, hf, hepoch⟩ := refresh_inv h k
  have hawait : Call.Fresh (refresh k s).2 ⟨k, force, started, .awaiting (refresh k s).1 cached⟩ :=
    ⟨hstarted.trans (hg.epoch k), ⟨f, hf, hstarted.trans (Nat.le_of_eq hepoch.symm)⟩, hcached⟩
  have hfallback : Call.Fresh s ⟨k, force, started, .answered ⟨localFallback now k, none⟩⟩ := by
    refine ⟨hstarted, ?_⟩
    intro n hn
    cases hn
  simp only [serve]
  cases cached with
  | none =>
    simp only
    split
    · exact ⟨h, hfallback⟩
    · exact ⟨hinv, hawait⟩
  | some entry =>
    have hentry : ∀ n ∈ entry.answer.epoch, started ≤ n := by
      intro n hn
      cases hn
      exact hcached entry rfl
    simp only
    split
    · exact ⟨h, hstarted, hentry⟩
    split
    · exact ⟨hinv, hstarted.trans (hg.epoch k), hentry⟩
    split
    · exact ⟨h, hfallback⟩
    · exact ⟨hinv, hawait⟩

theorem serve_coherent {k : String} {force : Bool} :
    Coherent (serve env now k force cached s).2 ↔ Coherent s := by
  obtain ⟨fetches, inFlight, hframe⟩ := serve_frame env now k force cached s
  rw [hframe]
  exact ⟨fun h => ⟨h.memory, h.redis⟩, fun h => ⟨h.memory, h.redis⟩⟩

theorem coherent_setCall : Coherent (s.setCall i call) ↔ Coherent s :=
  ⟨fun h => ⟨h.memory, h.redis⟩, fun h => ⟨h.memory, h.redis⟩⟩

/-! ## The steps of a call -/

theorem getConfig_coherent (hc : Coherent s) (i : ℕ) (k : String) (force : Bool) :
    Coherent (getConfig env now i k force s) := by
  unfold getConfig
  simp only
  split
  · exact coherent_setCall.2 hc
  split
  · refine coherent_setCall.2 ⟨hc.memory, ?_⟩
    intro k' entry hentry
    rw [Pipeline.candidates_send_get] at hentry
    exact hc.redis k' entry hentry
  · exact coherent_setCall.2 (serve_coherent.2 hc)

/-- A call that starts holds nothing old: what is cached is current. -/
theorem getConfig_inv (h : Inv env s) (hc : Coherent s) (hnew : s.calls i = none)
    (k : String) (force : Bool) : Inv env (getConfig env now i k force s) := by
  have hnone : ∀ old, s.calls i = some old → s.epoch k ≤ old.started := by
    intro old hold
    rw [hnew] at hold
    cases hold
  unfold getConfig
  simp only
  split
  · refine h.setCall ⟨Nat.le_refl _, ?_⟩ hnone
    intro n hn
    cases hn
  split
  · -- the lookup is sent; what it may return is current
    have hg : Grows s (({ s with redis := s.redis.send (.get i k) } : ConfigState).setCall i
        ⟨k, force, s.epoch k, .reading⟩) := .of_eq (fun _ => rfl) rfl
    refine ⟨h.flight_mono hg (fun _ => rfl) (fun _ _ htask => htask), ?_, ?_, ?_⟩
    · intro j c hcall
      simp only [ConfigState.setCall, Function.update_apply] at hcall
      by_cases hid : j = i
      · rw [if_pos hid] at hcall
        cases hcall
        exact ⟨Nat.le_refl _, trivial⟩
      rw [if_neg hid] at hcall
      exact (h.calls j c hcall).mono hg
    · intro j k' entry hmay
      simp only [ConfigState.setCall, Function.update_apply] at hmay ⊢
      rcases hmay.of_send with hold | ⟨hget, hentry⟩
      · obtain ⟨old, hcall, hle⟩ := h.reads j k' entry hold
        have hid : j ≠ i := by
          rintro rfl
          rw [hnew] at hcall
          cases hcall
        exact ⟨old, by simp [hid, hcall], hle⟩
      cases hget
      refine ⟨⟨k, force, s.epoch k, .reading⟩, by simp, ?_⟩
      exact Nat.le_of_eq (hc.redis k entry hentry).symm
    intro hoff k'
    rw [ConfigState.setCall, Pipeline.candidates_send_get]
    exact h.off hoff k'
  have hcached : ∀ entry ∈ s.cache.get? k, s.epoch k ≤ entry.epoch := by
    intro entry hentry
    exact Nat.le_of_eq (hc.memory k entry hentry).symm
  obtain ⟨hinv, hfresh⟩ := serve_inv h now force (Nat.le_refl _) hcached
  refine hinv.setCall hfresh ?_
  intro old hold
  obtain ⟨fetches, inFlight, hframe⟩ :=
    serve_frame env now k force (s.cache.get? k) s
  rw [hframe] at hold
  exact hnone old hold

@[simp] theorem epoch_remember (k k' : String) (reply : Option Entry) :
    (s.remember k reply).epoch k' = s.epoch k' := by
  cases reply <;> rfl

@[simp] theorem calls_remember (k : String) (reply : Option Entry) :
    (s.remember k reply).calls = s.calls := by
  cases reply <;> rfl

theorem Inv.remember (h : Inv env s) (k : String) (reply : Option Entry) :
    Inv env (s.remember k reply) := by
  cases reply with
  | none => exact h
  | some entry =>
    have hg : Grows s (s.remember k (some entry)) := .of_eq (fun _ => rfl) rfl
    exact ⟨h.flight_mono hg (fun _ => rfl) (fun _ _ htask => htask), h.calls_mono hg rfl,
      h.reads, h.off⟩

/-- What a call found in Redis is stored whatever happened since. -/
theorem resume_coherent (hc : Coherent s) (i : ℕ) (call : Call) (reply : Option Entry) :
    Coherent (resume env now i call reply s)
      ↔ ∀ entry, reply = some entry → entry.epoch = s.epoch call.tenantId := by
  simp only [resume]
  simp only [coherent_setCall, serve_coherent]
  cases reply with
  | none => simpa [ConfigState.remember] using hc
  | some entry =>
    simp only [Option.some.injEq, forall_eq']
    constructor
    · intro h
      exact (OrderedMap.current_set_iff hc.memory).1 h.memory
    intro hentry
    exact ⟨(OrderedMap.current_set_iff hc.memory).2 hentry, hc.redis⟩

theorem resume_inv (h : Inv env s) {reply : Option Entry}
    (hcall : s.calls i = some call) (hphase : call.phase = .replied reply) :
    Inv env (resume env now i call reply s) := by
  obtain ⟨hstarted, hreply⟩ := h.calls i call hcall
  rw [hphase] at hreply
  obtain ⟨hinv, hfresh⟩ := serve_inv (h.remember call.tenantId reply) now call.force
    (by rw [epoch_remember]; exact hstarted) hreply
  refine hinv.setCall hfresh ?_
  intro old hold
  obtain ⟨fetches, inFlight, hframe⟩ :=
    serve_frame env now call.tenantId call.force reply (s.remember call.tenantId reply)
  rw [hframe] at hold
  simp only [calls_remember, hcall] at hold
  cases hold
  exact Nat.le_refl _

/-! ## The steps of a fetch -/

theorem evictIfFull_current {cache : OrderedMap String Entry}
    (h : cache.Current Entry.epoch s.epoch) : (evictIfFull cache).Current Entry.epoch s.epoch := by
  simp only [evictIfFull]
  split
  · exact h
  split
  · exact h.erase _
  · exact h

theorem completeFetch_coherent (hc : Coherent s) (task : ℕ) (f : Fetch)
    (result : Option RuntimeConfig) : Coherent (completeFetch env now task f result s) := by
  simp only [completeFetch]
  cases result with
  | none => exact ⟨hc.memory, hc.redis⟩
  | some config =>
    simp only
    split
    · exact ⟨hc.memory, hc.redis⟩
    rename_i hgen
    simp only [ne_eq, not_or, not_not] at hgen
    -- no invalidation since the fetch started
    have hepoch : f.epoch = s.epoch f.tenantId := by
      rw [Fetch.epoch, ConfigState.epoch, hgen.1, hgen.2]
    refine ⟨(OrderedMap.current_set_iff (evictIfFull_current hc.memory)).2 hepoch, ?_⟩
    intro k entry hentry
    simp only at hentry
    split at hentry
    · rw [Pipeline.candidates_send_set] at hentry
      split at hentry
      · rename_i hk
        subst hk
        rcases List.mem_cons.1 hentry with rfl | hentry
        · exact hepoch
        · exact hc.redis _ entry hentry
      · exact hc.redis k entry hentry
    · exact hc.redis k entry hentry

theorem completeFetch_inv (h : Inv env s) (hf : s.fetches[task]? = some f)
    (result : Option RuntimeConfig) : Inv env (completeFetch env now task f result s) := by
  have hended : ∀ s' : ConfigState, s'.generation = s.generation →
      s'.globalGeneration = s.globalGeneration → s'.inFlight = s.inFlight → s'.calls = s.calls →
      s'.fetches = s.fetches.set task { f with phase := .resolved result } →
      (∀ i k entry, s'.redis.MayReturn i k entry → s.redis.MayReturn i k entry) →
      (env.redisEnabled = false → ∀ k, s'.redis.candidates k = []) → Inv env s' := by
    intro s' hgen hglobal hflight hcalls hfetches hmay hoff
    have hepoch : ∀ k, s'.epoch k = s.epoch k := by
      intro k
      rw [ConfigState.epoch, ConfigState.epoch, hgen, hglobal]
    have hg : Grows s s' := .of_set _ hf hepoch hfetches
    refine ⟨h.flight_mono hg hepoch (fun k task htask => by rw [hflight] at htask; exact htask),
      h.calls_mono hg hcalls, ?_, hoff⟩
    intro i k entry hentry
    obtain ⟨call, hcall, hle⟩ := h.reads i k entry (hmay i k entry hentry)
    exact ⟨call, by rw [hcalls, hcall], hle⟩
  simp only [completeFetch]
  cases result with
  | none => exact hended _ rfl rfl rfl rfl rfl (fun _ _ _ hmay => hmay) h.off
  | some config =>
    simp only
    split
    · exact hended _ rfl rfl rfl rfl rfl (fun _ _ _ hmay => hmay) h.off
    refine hended _ rfl rfl rfl rfl rfl ?_ ?_
    · intro i k entry hmay
      simp only at hmay
      split at hmay
      · rcases hmay.of_send with hold | ⟨hset, -⟩
        · exact hold
        · cases hset
      · exact hmay
    intro hoff k
    simp only [hoff, Bool.false_eq_true, if_false]
    exact h.off hoff k

theorem settleFetch_inv (h : Inv env s) (hf : s.fetches[task]? = some f)
    (result : Option RuntimeConfig) : Inv env (settleFetch task f result s) := by
  have hg : Grows s (settleFetch task f result s) := .of_set _ hf (fun _ => rfl) rfl
  refine ⟨h.flight_mono hg (fun _ => rfl) ?_, h.calls_mono hg rfl, h.reads, h.off⟩
  intro k task' htask
  simp only [settleFetch] at htask
  split at htask
  · rw [OrderedMap.get?_erase] at htask
    split at htask
    · cases htask
    · exact htask
  · exact htask

theorem deliver_inv (h : Inv env s)
    (result : Option RuntimeConfig) (hcall : s.calls i = some call)
    (hphase : call.phase = .awaiting task cached) (hf : s.fetches[task]? = some f) :
    Inv env (deliver now i call f result cached s) := by
  obtain ⟨hstarted, hwaits⟩ := h.calls i call hcall
  rw [hphase] at hwaits
  obtain ⟨⟨f', hf', hle⟩, hcached⟩ := hwaits
  rw [hf] at hf'
  cases hf'
  refine h.setCall ⟨hstarted, ?_⟩ ?_
  · cases result with
    | some config =>
      intro n hn
      cases hn
      exact hle
    | none =>
      cases cached with
      | some entry =>
        intro n hn
        cases hn
        exact hcached entry rfl
      | none =>
        intro n hn
        cases hn
  intro old hold
  rw [hcall] at hold
  cases hold
  exact Nat.le_refl _

/-! ## Invalidation -/

theorem epoch_invalidateTenant (k k' : String) :
    (invalidateTenant env k s).epoch k' = s.epoch k' + if k' = k then 1 else 0 := by
  simp only [ConfigState.epoch, invalidateTenant, Function.update_apply]
  split
  · rename_i hk
    rw [hk]
    omega
  · omega

theorem epoch_invalidateAll (k : String) : (invalidateAll s).epoch k = s.epoch k + 1 := by
  simp only [ConfigState.epoch, invalidateAll]
  omega

/-- An invalidation of one tenant reaches both caches. -/
theorem invalidateTenant_coherent (h : Inv env s) (hc : Coherent s) (k : String) :
    Coherent (invalidateTenant env k s) := by
  refine ⟨?_, ?_⟩
  · refine hc.memory.erase_of_moved ?_
    intro k' hk
    rw [epoch_invalidateTenant, if_neg hk]
    rfl
  intro k' entry hentry
  rw [epoch_invalidateTenant]
  simp only [invalidateTenant] at hentry
  split at hentry
  · rw [Pipeline.candidates_send_del] at hentry
    split at hentry
    · cases hentry
    rename_i hk
    rw [if_neg (Ne.symm hk), hc.redis k' entry hentry]
    rfl
  rename_i hoff
  rw [Bool.not_eq_true] at hoff
  rw [h.off hoff k'] at hentry
  cases hentry

/-- An invalidation of all tenants leaves what is in Redis. -/
theorem invalidateAll_coherent (hc : Coherent s) :
    Coherent (invalidateAll s) ↔ ∀ k, s.redis.candidates k = [] := by
  constructor
  · intro h k
    rw [List.eq_nil_iff_forall_not_mem]
    intro entry hentry
    have hnew := h.redis k entry hentry
    have hold := hc.redis k entry hentry
    rw [epoch_invalidateAll] at hnew
    omega
  intro hempty
  refine ⟨OrderedMap.current_empty, ?_⟩
  intro k entry hentry
  have hsame : entry ∈ s.redis.candidates k := hentry
  rw [hempty k] at hsame
  cases hsame

theorem invalidateTenant_inv (h : Inv env s) (k : String) : Inv env (invalidateTenant env k s) := by
  have hg : Grows s (invalidateTenant env k s) := by
    refine ⟨fun k' => ?_, fun task f hf => ⟨f, hf, rfl, rfl⟩⟩
    rw [epoch_invalidateTenant]
    omega
  refine ⟨?_, h.calls_mono hg rfl, ?_, ?_⟩
  · intro k' task htask
    simp only [invalidateTenant, OrderedMap.get?_erase] at htask
    by_cases hk : k' = k
    · rw [if_pos hk] at htask
      cases htask
    rw [if_neg hk] at htask
    obtain ⟨f, hf, htenant, hepoch⟩ := h.flight k' task htask
    exact ⟨f, hf, htenant, by rw [hepoch, epoch_invalidateTenant, if_neg hk]; rfl⟩
  · intro i k' entry hmay
    simp only [invalidateTenant] at hmay ⊢
    split at hmay
    · rcases hmay.of_send with hold | ⟨hdel, -⟩
      · exact h.reads i k' entry hold
      · cases hdel
    · exact h.reads i k' entry hmay
  intro hoff k'
  simp only [invalidateTenant, hoff, Bool.false_eq_true, if_false]
  exact h.off hoff k'

theorem invalidateAll_inv (h : Inv env s) : Inv env (invalidateAll s) := by
  have hg : Grows s (invalidateAll s) := by
    refine ⟨fun k => ?_, fun task f hf => ⟨f, hf, rfl, rfl⟩⟩
    rw [epoch_invalidateAll]
    omega
  refine ⟨?_, h.calls_mono hg rfl, h.reads, h.off⟩
  intro k task htask
  cases htask

/-! ## Redis -/

theorem execRedis_frame (arrives : Bool) (s : ConfigState) :
    ∃ calls,
      execRedis arrives s = { s with redis := (Pipeline.exec arrives s.redis).2, calls } := by
  unfold execRedis
  simp only
  split
  · exact ⟨_, rfl⟩
  split
  · exact ⟨_, rfl⟩
  · exact ⟨_, rfl⟩

theorem execRedis_coherent {arrives : Bool} (hdel : s.redis.Delivers arrives) (hc : Coherent s) :
    Coherent (execRedis arrives s) := by
  obtain ⟨calls, hframe⟩ := execRedis_frame arrives s
  rw [hframe]
  refine ⟨hc.memory, ?_⟩
  intro k entry hentry
  exact hc.redis k entry (Pipeline.candidates_exec hdel k hentry)

/-- The answer of a lookup is not older than an invalidation its call started after. -/
theorem execRedis_inv {arrives : Bool} (hdel : s.redis.Delivers arrives) (h : Inv env s) :
    Inv env (execRedis arrives s) := by
  have hexecuted : Inv env { s with redis := (Pipeline.exec arrives s.redis).2 } := by
    have hg : Grows s { s with redis := (Pipeline.exec arrives s.redis).2 } :=
      .of_eq (fun _ => rfl) rfl
    refine ⟨h.flight_mono hg (fun _ => rfl) (fun _ _ htask => htask), h.calls_mono hg rfl, ?_, ?_⟩
    · intro i k entry hmay
      exact h.reads i k entry (hmay.of_exec hdel)
    intro hoff k
    have hsub := Pipeline.candidates_exec hdel k
    rw [h.off hoff k] at hsub
    exact List.subset_nil.1 hsub
  unfold execRedis
  simp only
  cases hreply : (Pipeline.exec arrives s.redis).1 with
  | none => exact hexecuted
  | some reply =>
    obtain ⟨i, value⟩ := reply
    simp only
    cases hcall : s.calls i with
    | none => exact hexecuted
    | some call =>
      refine hexecuted.setCall ⟨(h.calls i call hcall).1, ?_⟩ ?_
      · intro entry hentry
        obtain ⟨hvalue, -⟩ := Option.mem_filter_iff.1 hentry
        cases hvalue
        obtain ⟨k, -, -, hmay⟩ := Pipeline.mayReturn_of_answer hreply
        obtain ⟨call', hcall', hle⟩ := h.reads i k entry hmay
        rw [hcall] at hcall'
        cases hcall'
        exact hle
      intro old hold
      simp only at hold
      rw [hcall] at hold
      cases hold
      exact Nat.le_refl _

/-! ## One step -/

variable {e : ConfigEvent}

/-- **A step keeps the caches coherent exactly when it keeps older configs out of them.** -/
theorem configStep_coherent (h : Inv env s) (hc : Coherent s) (hdel : redisDeletes s e) :
    Coherent (configStep env e s) ↔ invalidates s e := by
  cases e with
  | getConfig i tenantId force now =>
    refine iff_of_true ?_ trivial
    simp only [configStep]
    split
    · exact hc
    · exact getConfig_coherent hc i tenantId force
  | resume i now =>
    simp only [configStep, invalidates]
    cases hcall : s.calls i with
    | none => exact iff_of_true hc (fun call entry hsome => by cases hsome)
    | some call =>
      cases hphase : call.phase with
      | replied reply =>
        simp only [hphase]
        rw [resume_coherent hc]
        constructor
        · intro hentry call' entry hcall' hphase'
          cases hcall'
          rw [hphase] at hphase'
          cases hphase'
          exact hentry entry rfl
        intro hguard entry hreply
        exact hguard call entry rfl (by rw [hphase, hreply])
      | reading | awaiting | answered =>
        simp only [hphase]
        refine iff_of_true hc ?_
        intro call' entry hcall' hphase'
        cases hcall'
        rw [hphase] at hphase'
        cases hphase'
  | complete task result now =>
    refine iff_of_true ?_ trivial
    simp only [configStep]
    split
    · split
      · exact completeFetch_coherent hc task _ result
      · exact hc
    · exact hc
  | settle task =>
    refine iff_of_true ?_ trivial
    simp only [configStep]
    split
    · split
      · exact ⟨hc.memory, hc.redis⟩
      · exact hc
    · exact hc
  | deliver i now =>
    refine iff_of_true ?_ trivial
    simp only [configStep]
    split
    · split
      · split
        · split
          · exact coherent_setCall.2 hc
          · exact hc
        · exact hc
      · exact hc
    · exact hc
  | invalidate tenantId =>
    cases tenantId with
    | none =>
      rw [configStep, invalidateAll_coherent hc]
      simp [invalidates]
    | some k =>
      by_cases hk : k = ""
      · simp only [configStep, hk, ne_eq, not_true_eq_false, if_false,
          invalidateAll_coherent hc, invalidates]
        simp
      simp only [configStep, ne_eq, hk, not_false_eq_true, if_true]
      exact iff_of_true (invalidateTenant_coherent h hc k) (fun hempty => absurd hempty hk)
  | redis arrives => exact iff_of_true (execRedis_coherent hdel hc) trivial
  | redisExpire k =>
    refine iff_of_true ⟨hc.memory, ?_⟩ trivial
    intro k' entry hentry
    exact hc.redis k' entry (Pipeline.candidates_expire k' k hentry)

/-- **While the caches are coherent, no call gets hold of a config that is older than an
invalidation it started after.** -/
theorem configStep_inv (h : Inv env s) (hc : Coherent s) (hdel : redisDeletes s e) :
    Inv env (configStep env e s) := by
  cases e with
  | getConfig i tenantId force now =>
    simp only [configStep]
    split
    · exact h
    · exact getConfig_inv h hc ‹_› tenantId force
  | resume i now =>
    simp only [configStep]
    split
    · rename_i call hcall
      split
      · exact resume_inv h hcall ‹_›
      · exact h
    · exact h
  | complete task result now =>
    simp only [configStep]
    split
    · split
      · exact completeFetch_inv h ‹_› result
      · exact h
    · exact h
  | settle task =>
    simp only [configStep]
    split
    · split
      · exact settleFetch_inv h ‹_› _
      · exact h
    · exact h
  | deliver i now =>
    simp only [configStep]
    split
    · rename_i call hcall
      split
      · rename_i task cached hphase
        split
        · split
          · exact deliver_inv h _ hcall hphase ‹_›
          · exact h
        · exact h
      · exact h
    · exact h
  | invalidate tenantId =>
    cases tenantId with
    | none => exact invalidateAll_inv h
    | some k =>
      simp only [configStep]
      split
      · exact invalidateTenant_inv h k
      · exact invalidateAll_inv h
  | redis arrives => exact execRedis_inv hdel h
  | redisExpire k =>
    have hg : Grows s { s with redis := s.redis.expire k } := .of_eq (fun _ => rfl) rfl
    refine ⟨h.flight_mono hg (fun _ => rfl) (fun _ _ htask => htask), h.calls_mono hg rfl, ?_, ?_⟩
    · intro i k' entry hmay
      exact h.reads i k' entry hmay.of_expire
    intro hoff k'
    have hsub := Pipeline.candidates_expire (p := s.redis) k' k
    rw [h.off hoff k'] at hsub
    exact List.subset_nil.1 hsub

/-! ## Runs -/

/-- **No config from before an invalidation is returned to a call that starts after it, or
is left in a cache, exactly along the runs in which no call stores a config from Redis that
an invalidation has overtaken since, and all tenants are only invalidated at once while
Redis holds nothing.** -/
theorem config_fresh_iff (env : ConfigEnv) (server : OrderedMap String Entry)
    (es : List ConfigEvent) (hserver : ∀ k entry, server.get? k = some entry → entry.epoch = 0)
    (hredis : Along (configStep env) redisDeletes (.start env server) es) :
    (∀ pre, pre <+: es → Coherent (run (configStep env) (.start env server) pre)
        ∧ ServesFresh (run (configStep env) (.start env server) pre))
      ↔ Along (configStep env) invalidates (.start env server) es := by
  have hheld : ∀ k, ∀ entry ∈ (ConfigState.start env server).redis.candidates k,
      env.redisEnabled = true ∧ server.get? k = some entry := by
    intro k entry hentry
    simp only [ConfigState.start, Pipeline.candidates, visible_nil, Option.mem_toList] at hentry
    split at hentry
    · exact ⟨‹_›, hentry⟩
    · cases hentry
  have hcoherent : Coherent (ConfigState.start env server) :=
    ⟨OrderedMap.current_empty, fun k entry hentry => hserver k entry (hheld k entry hentry).2⟩
  have hinv : Inv env (ConfigState.start env server) := by
    refine ⟨?_, ?_, ?_, ?_⟩
    · intro k task htask
      cases htask
    · intro i call hcall
      cases hcall
    · rintro i k entry ⟨before, after, hqueue, -⟩
      simp [ConfigState.start] at hqueue
    intro hoff k
    rw [List.eq_nil_iff_forall_not_mem]
    intro entry hentry
    rw [(hheld k entry hentry).1] at hoff
    cases hoff
  have hiff : Along (configStep env) invalidates (.start env server) es
      ↔ ∀ pre, pre <+: es → Coherent (run (configStep env) (.start env server) pre) :=
    along_iff_throughout_with (fun _ _ hdel hc h => configStep_inv h hc hdel)
      (fun _ _ hdel hc h => configStep_coherent h hc hdel) hredis hcoherent hinv
  constructor
  · intro h
    exact hiff.2 fun pre hpre => (h pre hpre).1
  intro h pre hpre
  have hall := hiff.1 h
  have hserves : Inv env (run (configStep env) (.start env server) pre) :=
    throughout_of (fun _ _ hdel hc h => configStep_inv h hc hdel) hredis hall hinv pre hpre
  refine ⟨hall pre hpre, ?_⟩
  intro i call answer hcall hphase
  have hfresh := (hserves.calls i call hcall).2
  rw [hphase] at hfresh
  exact hfresh

/-! ## Two runs -/

/-- No command to Redis is lost. -/
def ConfigEvent.reliable : ConfigEvent → Bool
  | .redis arrives => arrives
  | _ => true

theorem along_redisDeletes {es : List ConfigEvent} (h : ∀ e ∈ es, e.reliable = true) :
    Along (configStep env) redisDeletes s es := by
  induction es generalizing s with
  | nil => trivial
  | cons e es ih =>
    refine ⟨?_, ih fun e' he' => h e' (List.mem_cons_of_mem _ he')⟩
    have he := h e List.mem_cons_self
    cases e with
    | redis arrives =>
      intro k queue _ hlost
      rw [ConfigEvent.reliable] at he
      rw [hlost] at he
      cases he
    | _ => trivial

/-- A first call fetches a school's config, which ends up in memory and in Redis. -/
def fetched : List ConfigEvent :=
  [.getConfig 0 "school" false 0, .redis true, .resume 0 0,
    .complete 0 (some { tenantId := "school", configVersion := 1 }) 0, .settle 0, .deliver 0 0,
    .redis true]

/-- All tenants are invalidated; a second call finds the config in Redis. -/
def flushed : List ConfigEvent :=
  fetched ++ [.invalidate none, .getConfig 1 "school" false 1, .redis true, .resume 1 1]

/-- The school is invalidated while a call has its config from Redis in hand; a second one
finds it in memory. -/
def overtaken : List ConfigEvent :=
  [.getConfig 0 "school" false 1, .redis true, .invalidate (some "school"), .resume 0 1,
    .getConfig 1 "school" false 2]

/-- What Redis holds when the second run starts. -/
def shared : OrderedMap String Entry :=
  OrderedMap.empty.set "school" ⟨{ tenantId := "school", configVersion := 1 }, 0, 0⟩

theorem shared_epoch (k : String) (entry : Entry) (h : shared.get? k = some entry) :
    entry.epoch = 0 := by
  rw [shared, OrderedMap.get?_set] at h
  split at h
  · cases h
    rfl
  · cases h

/-- The equivalence at the second run. -/
theorem config_fresh_iff_example :
    (∀ pre, pre <+: overtaken → Coherent (run (configStep {}) (.start {} shared) pre)
        ∧ ServesFresh (run (configStep {}) (.start {} shared) pre))
      ↔ Along (configStep {}) invalidates (.start {} shared) overtaken :=
  config_fresh_iff {} shared overtaken shared_epoch (along_redisDeletes (by decide))

/-- A call that starts after an invalidation of its tenant, of all tenants or of its own,
is served a config from before it. -/
theorem not_config_fresh :
    (¬ ∀ (env : ConfigEnv) (es : List ConfigEvent),
      Along (configStep env) redisDeletes (.start env .empty) es →
      ServesFresh (run (configStep env) (.start env .empty) es))
    ∧ ¬ ∀ (env : ConfigEnv) (server : OrderedMap String Entry) (es : List ConfigEvent),
      (∀ k entry, server.get? k = some entry → entry.epoch = 0) →
      (∀ e ∈ es, e ≠ .invalidate none) →
      Along (configStep env) redisDeletes (.start env server) es →
      ServesFresh (run (configStep env) (.start env server) es) := by
  refine ⟨?_, ?_⟩
  · intro h
    have hserved := h {} flushed (along_redisDeletes (by decide)) 1 _ _ rfl rfl 0 rfl
    revert hserved
    decide
  intro h
  have hserved := h {} shared overtaken shared_epoch (by simp [overtaken])
    (along_redisDeletes (by decide)) 1 _ _ rfl rfl 0 rfl
  revert hserved
  decide

end MultiAcademy.School
