import MultiAcademy.Lib.Flight

/-!
# Refresh tokens

`AuthService.refresh` with `verifyRefreshToken`, `isRefreshRevoked` and `revokeRefreshToken` of
`identification.service.ts`, as the steps between two awaits, on any number of server instances
that share a Redis store which is reachable.  A revoked token is kept in the memory of the
instance and, until it expires, in the store.  The token is looked up before the tenant and the
user are loaded, and revoked after that.
-/

namespace MultiAcademy.School

open MultiAcademy.Lib

/-! ## The stores -/

/-- The clock in milliseconds, the keys of Redis with their values and when they expire, and
`revokedRefreshTokenJtis` of each instance. -/
structure RefreshStores where
  now : ℕ
  redis : String → Option (ℕ × ℕ) := fun _ => none
  memory : ℕ → String → Option ℕ := fun _ _ => none

namespace RefreshStores

/-- `Math.floor(Date.now() / 1000)`. -/
def seconds (d : RefreshStores) : ℕ := d.now / 1000

def get (jti : String) (d : RefreshStores) : Option ℕ :=
  (d.redis jti).bind fun (value, expiresAt) => if d.now < expiresAt then some value else none

def set (jti : String) (value ttl : ℕ) (d : RefreshStores) : RefreshStores :=
  { d with redis := fun k => if k = jti then some (value, d.now + 1000 * ttl) else d.redis k }

/-- `revokedRefreshTokenJtis.set`. -/
def remember (server : ℕ) (jti : String) (exp : ℕ) (d : RefreshStores) : RefreshStores :=
  { d with
    memory := fun n k => if n = server ∧ k = jti then some exp else d.memory n k }

/-- `cleanupRevokedRefreshTokens`. -/
def cleanup (server : ℕ) (d : RefreshStores) : RefreshStores :=
  { d with
    memory := fun n k =>
      if n = server then (d.memory n k).filter fun exp => d.seconds < exp else d.memory n k }

end RefreshStores

/-! ## A request -/

/-- Where a request is. -/
inductive RefreshPhase
  | verifying
  | reading
  | loading
  /-- The store is to keep the token for so many seconds. -/
  | writing (ttl : ℕ)
  | issuing
  | issued
  | refused (message : String)
  deriving DecidableEq

/-- A request at a server, with a token that a server has issued. -/
structure RefreshRequest where
  server : ℕ
  jti : String

structure RefreshCall where
  server : ℕ
  jti : String
  phase : RefreshPhase := .verifying
  deriving DecidableEq

/-- What a request finds, where it waits for the tenant and the user. -/
structure RefreshInput where
  tenant : Bool := true
  activeUser : Bool := true

section Tokens
-- the `exp` of the token that was issued with a `jti`
variable (expiry : String → ℕ)

/-- `verifyRefreshToken`, and the memory as `isRefreshRevoked` looks at it. -/
def verifyRefreshToken (server : ℕ) (jti : String) (d : RefreshStores) :
    RefreshPhase × RefreshStores :=
  if expiry jti ≤ d.seconds then (.refused "Refresh token expired", d)
  else
    let cleaned := d.cleanup server
    if (cleaned.memory server jti).isSome then (.refused "Refresh token revoked", cleaned)
    else (.reading, cleaned)

/-- `isRefreshRevoked`, from the answer of the store. -/
def isRefreshRevoked (server : ℕ) (jti : String) (d : RefreshStores) :
    RefreshPhase × RefreshStores :=
  match d.get jti with
  | some exp => (.refused "Refresh token revoked", d.remember server jti exp)
  | none => (.loading, d)

/-- `revokeRefreshToken` up to the store, once the tenant and the user are loaded. -/
def revokeRefreshToken (x : RefreshInput) (server : ℕ) (jti : String) (d : RefreshStores) :
    RefreshPhase × RefreshStores :=
  if x.tenant = false then (.refused "Invalid tenant in refresh token", d)
  else if x.activeUser = false then (.refused "User not found or inactive", d)
  else (.writing (max 1 (expiry jti - d.seconds)), d.remember server jti (expiry jti))

/-- The next step of `refresh`. -/
def refreshStep (x : RefreshInput) (server : ℕ) (jti : String) (phase : RefreshPhase)
    (d : RefreshStores) : RefreshPhase × RefreshStores :=
  match phase with
  | .verifying => verifyRefreshToken expiry server jti d
  | .reading => isRefreshRevoked server jti d
  | .loading => revokeRefreshToken expiry x server jti d
  | .writing ttl => (.issuing, d.set jti (expiry jti) ttl)
  | .issuing => (.issued, d)
  | .issued => (.issued, d)
  | .refused message => (.refused message, d)

/-- The requests of all servers, while time goes by. -/
def refreshService : Service RefreshRequest RefreshInput ℕ RefreshStores RefreshCall where
  start request := { server := request.server, jti := request.jti }
  next x call d :=
    let next := refreshStep expiry x call.server call.jti call.phase d
    ({ call with phase := next.1 }, next.2)
  other milliseconds d := { d with now := d.now + milliseconds }

abbrev RefreshState := Flight RefreshStores RefreshCall
abbrev RefreshEvent := FlightEvent RefreshRequest RefreshInput ℕ

/-! ## Exchanges -/

/-- The check has passed. -/
def RefreshPhase.accepted : RefreshPhase → Bool
  | .loading | .writing _ | .issuing | .issued => true
  | .verifying | .reading | .refused _ => false

/-- The token is revoked in the request's instance. -/
def RefreshPhase.revoking : RefreshPhase → Bool
  | .writing _ | .issuing | .issued => true
  | .verifying | .reading | .loading | .refused _ => false

def RefreshPhase.revoked : RefreshPhase → Bool
  | .issuing | .issued => true
  | .verifying | .reading | .loading | .writing _ | .refused _ => false

/-- The request is of the token, and at such a phase. -/
def RefreshCall.of (jti : String) (p : RefreshPhase → Bool) (call : RefreshCall) : Bool :=
  call.jti = jti && p call.phase

def sessions (jti : String) (s : RefreshState) : ℕ :=
  s.calls.countP (RefreshCall.of jti fun phase => phase = .issued)

def Revoked (jti : String) (s : RefreshState) : Prop :=
  ∃ call ∈ s.calls, call.jti = jti ∧ call.phase.revoked = true

/-- A token that has been revoked passes no check until it expires. -/
def RefusesRevoked (s : RefreshState) (e : RefreshEvent) : Prop :=
  ∀ jti, Revoked jti s → s.shared.seconds < expiry jti →
    (refreshService expiry).fires (RefreshCall.of jti RefreshPhase.accepted) s e = false

/-- When a request revokes its token, no other request of the token has. -/
def RevokesAlone (s : RefreshState) : RefreshEvent → Prop
  | .advance i x =>
    ∀ call ∈ s.calls[i]?, call.phase = .loading → x.tenant = true → x.activeUser = true →
      ∀ other ∈ s.calls, other.jti = call.jti → other.phase.revoking = false
  | .call _ | .other _ => True

variable {expiry} {s : RefreshState} {e : RefreshEvent} {d : RefreshStores} {jti : String}

/-! ## A revoked token is refused -/

/-- What the store keeps, or is to keep, for a request that revokes its token. -/
def KeptUntilExpiry (expiry : String → ℕ) (d : RefreshStores) (call : RefreshCall) : Prop :=
  (call.phase.revoked = true →
    ∃ value expiresAt, d.redis call.jti = some (value, expiresAt)
      ∧ 1000 * expiry call.jti ≤ expiresAt)
  ∧ ∀ ttl, call.phase = .writing ttl → 1000 * expiry call.jti ≤ d.now + 1000 * ttl

theorem expiry_le_ttl (exp now : ℕ) : 1000 * exp ≤ now + 1000 * max 1 (exp - now / 1000) := by
  omega

/-- What is kept stays kept while the store only writes what is kept for as long. -/
theorem KeptUntilExpiry.mono {call : RefreshCall} {d' : RefreshStores}
    (h : KeptUntilExpiry expiry d call) (hnow : d.now ≤ d'.now)
    (hredis : d'.redis call.jti = d.redis call.jti
      ∨ ∃ value expiresAt, d'.redis call.jti = some (value, expiresAt)
        ∧ 1000 * expiry call.jti ≤ expiresAt) : KeptUntilExpiry expiry d' call := by
  refine ⟨?_, ?_⟩
  · intro hrevoked
    rcases hredis with hsame | hwritten
    · rw [hsame]
      exact h.1 hrevoked
    · exact hwritten
  intro ttl hphase
  have hkept := h.2 ttl hphase
  omega

variable (x : RefreshInput)

/-- A step of a request writes the token's key with an expiry no earlier than the token's, or
leaves the store. -/
theorem refreshStep_redis (call : RefreshCall)
    (h : KeptUntilExpiry expiry d call) (k : String) :
    (refreshStep expiry x call.server call.jti call.phase d).2.redis k = d.redis k
    ∨ ∃ value expiresAt,
      (refreshStep expiry x call.server call.jti call.phase d).2.redis k
          = some (value, expiresAt)
        ∧ 1000 * expiry k ≤ expiresAt := by
  cases hphase : call.phase with
  | verifying =>
    left
    simp only [refreshStep, verifyRefreshToken]
    split
    · rfl
    split
    · rfl
    · rfl
  | reading =>
    left
    simp only [refreshStep, isRefreshRevoked]
    split
    · rfl
    · rfl
  | loading =>
    left
    simp only [refreshStep, revokeRefreshToken]
    split
    · rfl
    split
    · rfl
    · rfl
  | writing ttl =>
    simp only [refreshStep, RefreshStores.set]
    by_cases hk : k = call.jti
    · subst hk
      rw [if_pos rfl]
      exact Or.inr ⟨_, _, rfl, h.2 ttl hphase⟩
    rw [if_neg hk]
    exact Or.inl rfl
  | issuing | issued | refused => exact Or.inl rfl

theorem refreshStep_now (server : ℕ) (jti : String) (phase : RefreshPhase)
    (d : RefreshStores) : (refreshStep expiry x server jti phase d).2.now = d.now := by
  cases phase with
  | verifying =>
    simp only [refreshStep, verifyRefreshToken]
    split
    · rfl
    split
    · rfl
    · rfl
  | reading =>
    simp only [refreshStep, isRefreshRevoked]
    split
    · rfl
    · rfl
  | loading =>
    simp only [refreshStep, revokeRefreshToken]
    split
    · rfl
    split
    · rfl
    · rfl
  | writing | issuing | issued | refused => rfl

/-- The request that moves. -/
theorem kept_refreshStep (call : RefreshCall)
    (h : KeptUntilExpiry expiry d call) :
    KeptUntilExpiry expiry (refreshStep expiry x call.server call.jti call.phase d).2
      { call with phase := (refreshStep expiry x call.server call.jti call.phase d).1 } := by
  cases hphase : call.phase with
  | verifying =>
    simp only [refreshStep, verifyRefreshToken]
    split
    · exact ⟨nofun, nofun⟩
    split
    · exact ⟨nofun, nofun⟩
    · exact ⟨nofun, nofun⟩
  | reading =>
    simp only [refreshStep, isRefreshRevoked]
    split
    · exact ⟨nofun, nofun⟩
    · exact ⟨nofun, nofun⟩
  | loading =>
    simp only [refreshStep, revokeRefreshToken]
    split
    · exact ⟨nofun, nofun⟩
    split
    · exact ⟨nofun, nofun⟩
    refine ⟨nofun, ?_⟩
    intro ttl httl
    cases httl
    exact expiry_le_ttl (expiry call.jti) d.now
  | writing ttl =>
    refine ⟨fun _ => ?_, nofun⟩
    refine ⟨expiry call.jti, d.now + 1000 * ttl, ?_, h.2 ttl hphase⟩
    simp [refreshStep, RefreshStores.set]
  | issuing =>
    refine ⟨fun _ => h.1 (by rw [hphase]; rfl), nofun⟩
  | issued => exact ⟨fun _ => h.1 (by rw [hphase]; rfl), nofun⟩
  | refused message => exact ⟨nofun, nofun⟩

/-- **The store keeps revoked tokens until they expire.** -/
theorem kept_step (h : ∀ call ∈ s.calls, KeptUntilExpiry expiry s.shared call) :
    ∀ call ∈ ((refreshService expiry).step e s).calls,
      KeptUntilExpiry expiry ((refreshService expiry).step e s).shared call := by
  refine Service.forall_calls_step (Q := KeptUntilExpiry expiry) ?_ ?_ ?_ ?_ h
  · intro request d
    exact ⟨nofun, nofun⟩
  · intro x call d hcall
    exact kept_refreshStep x call hcall
  · intro x call d hcall other hother
    exact hother.mono (refreshStep_now x call.server call.jti call.phase d).ge
      (refreshStep_redis x call hcall other.jti)
  intro milliseconds d call hcall
  exact hcall.mono (Nat.le_add_right _ _) (Or.inl rfl)

theorem refreshStep_verifying (server : ℕ) (jti : String)
    (d : RefreshStores) : (refreshStep expiry x server jti .verifying d).1 = .reading
      ∨ ∃ message, (refreshStep expiry x server jti .verifying d).1 = .refused message := by
  simp only [refreshStep, verifyRefreshToken]
  split
  · exact Or.inr ⟨_, rfl⟩
  split
  · exact Or.inr ⟨_, rfl⟩
  · exact Or.inl rfl

/-- A check passes when the store answers that there is no such key. -/
theorem get_of_fires {i : ℕ} {x : RefreshInput}
    (h : (refreshService expiry).fires (RefreshCall.of jti RefreshPhase.accepted) s
      (.advance i x) = true) : s.shared.get jti = none := by
  obtain ⟨-, x, call, -, -, hbefore, hafter⟩ := Service.exists_of_fires h
  simp only [refreshService, RefreshCall.of, Bool.and_eq_true] at hafter
  obtain ⟨hjti, hafter⟩ := hafter
  obtain rfl : call.jti = jti := of_decide_eq_true hjti
  simp only [RefreshCall.of, decide_true, Bool.true_and] at hbefore
  cases hphase : call.phase with
  | verifying =>
    rw [hphase] at hafter
    rcases refreshStep_verifying x call.server call.jti s.shared with hnext | ⟨message, hnext⟩ <;>
      (rw [hnext] at hafter; cases hafter)
  | reading =>
    rw [hphase] at hafter
    simp only [refreshStep, isRefreshRevoked] at hafter
    split at hafter
    · cases hafter
    rename_i hget
    exact hget
  | loading | writing | issuing | issued => rw [hphase] at hbefore; cases hbefore
  | refused => rw [hphase] at hafter; cases hafter

/-- **A token that was revoked is refused until it expires.** -/
theorem refusesRevoked (h : ∀ call ∈ s.calls, KeptUntilExpiry expiry s.shared call) :
    RefusesRevoked expiry s e := by
  rintro jti ⟨call, hcall, rfl, hrevoked⟩ hlive
  rw [← Bool.not_eq_true]
  intro hfires
  cases e with
  | call request => cases hfires
  | other milliseconds => cases hfires
  | advance i x =>
    have hget := get_of_fires hfires
    obtain ⟨value, expiresAt, hredis, hexpiry⟩ := (h call hcall).1 hrevoked
    have hnow : s.shared.now < expiresAt := by
      rw [RefreshStores.seconds] at hlive
      omega
    simp [RefreshStores.get, hredis, hnow] at hget

/-! ## A token is exchanged once -/

theorem of_next {p : RefreshPhase → Bool}
    (hkeep : ∀ x server jti phase d, p phase = true →
      p (refreshStep expiry x server jti phase d).1 = true)
    (x : RefreshInput) (call : RefreshCall) (d : RefreshStores) (h : call.of jti p = true) :
    ((refreshService expiry).next x call d).1.of jti p = true := by
  simp only [RefreshCall.of, Bool.and_eq_true] at h ⊢
  exact ⟨h.1, hkeep x call.server call.jti call.phase d h.2⟩

theorem revoking_refreshStep (server : ℕ) (jti : String)
    (phase : RefreshPhase) (d : RefreshStores) (h : phase.revoking = true) :
    (refreshStep expiry x server jti phase d).1.revoking = true := by
  cases phase with
  | writing | issuing | issued => rfl
  | verifying | reading | loading | refused => cases h

/-- A token is revoked by a request whose tenant and user are loaded. -/
theorem loading_of_revoking {x : RefreshInput} {server : ℕ} {jti : String} {phase : RefreshPhase}
    (hbefore : phase.revoking = false)
    (hafter : (refreshStep expiry x server jti phase d).1.revoking = true) :
    phase = .loading ∧ x.tenant = true ∧ x.activeUser = true := by
  cases phase with
  | verifying =>
    rcases refreshStep_verifying x server jti d with hnext | ⟨message, hnext⟩ <;>
      (rw [hnext] at hafter; cases hafter)
  | reading =>
    simp only [refreshStep, isRefreshRevoked] at hafter
    split at hafter
    · cases hafter
    · cases hafter
  | loading =>
    simp only [refreshStep, revokeRefreshToken] at hafter
    split at hafter
    · cases hafter
    rename_i htenant
    split at hafter
    · cases hafter
    rename_i huser
    exact ⟨rfl, by simpa using htenant, by simpa using huser⟩
  | writing | issuing | issued => cases hbefore
  | refused => cases hafter

def revocations (jti : String) (s : RefreshState) : ℕ :=
  s.calls.countP (RefreshCall.of jti RefreshPhase.revoking)

theorem sessions_le_revocations (jti : String) (s : RefreshState) :
    sessions jti s ≤ revocations jti s := by
  refine List.countP_mono_left fun call _ h => ?_
  simp only [RefreshCall.of, Bool.and_eq_true, decide_eq_true_eq] at h ⊢
  exact ⟨h.1, by rw [h.2]; rfl⟩

/-- A request that revokes alone is the only one to have revoked its token. -/
theorem revocations_step (hone : ∀ jti, revocations jti s ≤ 1) (halone : RevokesAlone s e) :
    ∀ jti, revocations jti ((refreshService expiry).step e s) ≤ 1 := by
  intro jti
  refine (Service.count_step_le_one (fun _ => by simp [refreshService, RefreshCall.of,
    RefreshPhase.revoking]) (of_next revoking_refreshStep) (hone jti)).2 ?_
  intro hfires
  obtain ⟨i, x, call, rfl, hcall, hbefore, hafter⟩ := Service.exists_of_fires hfires
  simp only [refreshService, RefreshCall.of, Bool.and_eq_true] at hafter
  obtain ⟨hjti, hafter⟩ := hafter
  obtain rfl : call.jti = jti := of_decide_eq_true hjti
  simp only [RefreshCall.of, decide_true, Bool.true_and] at hbefore
  obtain ⟨hphase, htenant, huser⟩ := loading_of_revoking hbefore hafter
  rw [List.countP_eq_zero]
  intro other hother hof
  simp only [RefreshCall.of, Bool.and_eq_true, decide_eq_true_eq] at hof
  have hfree := halone call hcall hphase htenant huser other hother hof.1
  rw [hfree] at hof
  exact absurd hof.2 Bool.false_ne_true

/-! ## Two requests that both revoke -/

/-- The request that takes a step has revoked its token. -/
def GoesOn (s : RefreshState) : RefreshEvent → Prop
  | .advance i _ => ∀ call ∈ s.calls[i]?, call.phase.revoking = true
  | .call _ | .other _ => True

/-- Requests that go on revoke no other token. -/
theorem revocations_goesOn (hone : ∀ jti, revocations jti s ≤ 1) (hgoes : GoesOn s e) :
    ∀ jti, revocations jti ((refreshService expiry).step e s) ≤ 1 := by
  refine revocations_step hone ?_
  cases e with
  | call | other => trivial
  | advance i x =>
    intro call hcall hphase
    have hrevoking := hgoes call hcall
    rw [hphase] at hrevoking
    cases hrevoking

/-- A request that has revoked its token. -/
def RefreshCall.finished (call : RefreshCall) : RefreshCall := { call with phase := .issued }

/-- A request that has revoked its token comes to its session in two steps. -/
theorem finish {i : ℕ} {call : RefreshCall} (hcall : s.calls[i]? = some call)
    (hrevoking : call.phase.revoking = true) :
    (run (refreshService expiry).step s [.advance i {}, .advance i {}]).calls
        = s.calls.set i call.finished
      ∧ Along (refreshService expiry).step GoesOn s [.advance i {}, .advance i {}] := by
  obtain ⟨next, hnext⟩ : ∃ next, ((refreshService expiry).next {} call s.shared).1 = next :=
    ⟨_, rfl⟩
  have hmid : ((refreshService expiry).step (.advance i {}) s).calls[i]? = some next := by
    rw [Service.step_advance hcall, hnext]
    exact List.getElem?_set_self (List.getElem?_eq_some_iff.1 hcall).1
  have hnextRevoking : next.phase.revoking = true := by
    rw [← hnext]
    exact revoking_refreshStep {} call.server call.jti call.phase s.shared hrevoking
  have hend : ((refreshService expiry).next {} next
      ((refreshService expiry).step (.advance i {}) s).shared).1 = call.finished := by
    rw [← hnext]
    cases hphase : call.phase with
    | writing | issuing | issued =>
      simp [refreshService, refreshStep, hphase, RefreshCall.finished]
    | verifying | reading | loading | refused => rw [hphase] at hrevoking; cases hrevoking
  refine ⟨?_, ?_, ?_, trivial⟩
  · rw [run_cons, run_cons, run_nil, Service.step_advance hmid, hend,
      Service.step_advance hcall, List.set_set]
  · intro call' hcall'
    cases hcall.symm.trans hcall'
    exact hrevoking
  intro call' hcall'
  cases hmid.symm.trans hcall'
  exact hnextRevoking

/-- A step that does not revoke alone lets the token be exchanged twice. -/
theorem exchanged_twice (hnot : ¬ RevokesAlone s e) :
    ∃ more jti, Along (refreshService expiry).step GoesOn ((refreshService expiry).step e s) more
      ∧ 2 ≤ sessions jti
        (run (refreshService expiry).step ((refreshService expiry).step e s) more) := by
  cases e with
  | call | other => exact absurd trivial hnot
  | advance i x =>
    simp only [RevokesAlone] at hnot
    push Not at hnot
    obtain ⟨call, hcall, hphase, htenant, huser, other, hother, hjti, hrevoking⟩ := hnot
    have hrevoking : other.phase.revoking = true := by simpa using hrevoking
    obtain ⟨j, hj⟩ := List.mem_iff_getElem?.1 hother
    have hij : i ≠ j := by
      rintro rfl
      cases hcall.symm.trans hj
      rw [hphase] at hrevoking
      cases hrevoking
    set s' := (refreshService expiry).step (.advance i x) s with hs'
    obtain ⟨moved, hmoved⟩ : ∃ moved, ((refreshService expiry).next x call s.shared).1 = moved :=
      ⟨_, rfl⟩
    have hcalls : s'.calls = s.calls.set i moved := by
      rw [hs', Service.step_advance hcall, hmoved]
    have hi' : s'.calls[i]? = some moved := by
      rw [hcalls]
      exact List.getElem?_set_self (List.getElem?_eq_some_iff.1 hcall).1
    have hj' : s'.calls[j]? = some other := by
      rw [hcalls, List.getElem?_set_ne hij, hj]
    have hmovedRevoking : moved.phase.revoking = true := by
      rw [← hmoved]
      simp [refreshService, refreshStep, hphase, revokeRefreshToken, htenant, huser,
        RefreshPhase.revoking]
    have hmovedJti : moved.jti = call.jti := by rw [← hmoved]; rfl
    -- first the one request goes on to its session, and then the other
    obtain ⟨hfirst, hgoes⟩ := @finish expiry s' i moved hi' hmovedRevoking
    set s'' := run (refreshService expiry).step s' [.advance i {}, .advance i {}] with hs''
    have hj'' : s''.calls[j]? = some other := by
      rw [hfirst, List.getElem?_set_ne hij, hj']
    have hi'' : s''.calls[i]? = some moved.finished := by
      rw [hfirst]
      exact List.getElem?_set_self (List.getElem?_eq_some_iff.1 hi').1
    obtain ⟨hsecond, hgoes'⟩ := @finish expiry s'' j other hj'' hrevoking
    refine ⟨[.advance i {}, .advance i {}] ++ [.advance j {}, .advance j {}], call.jti,
      along_append.2 ⟨hgoes, hgoes'⟩, ?_⟩
    rw [run_append, ← hs'']
    have hi : (s''.calls.set j other.finished)[i]? = some moved.finished := by
      rw [List.getElem?_set_ne hij.symm, hi'']
    have hjEnd : (s''.calls.set j other.finished)[j]? = some other.finished :=
      List.getElem?_set_self (List.getElem?_eq_some_iff.1 hj'').1
    rw [sessions, hsecond]
    refine Service.two_le_countP hij hi hjEnd ?_ ?_
    · simp [RefreshCall.of, RefreshCall.finished, hmovedJti]
    · simp [RefreshCall.of, RefreshCall.finished, hjti]

/-! ## Runs -/

/-- No request, at a time. -/
def refreshStart (now : ℕ) : RefreshState := { shared := { now } }

theorem refuses_revoked (expiry : String → ℕ) (now : ℕ) (es : List RefreshEvent) :
    Along (refreshService expiry).step (RefusesRevoked expiry) (refreshStart now) es := by
  have hkept : ∀ call ∈ (refreshStart now).calls,
      KeptUntilExpiry expiry (refreshStart now).shared call := by
    intro call hcall
    cases hcall
  exact Along.of_invariant (P := fun _ _ => True)
    (I := fun s => ∀ call ∈ s.calls, KeptUntilExpiry expiry s.shared call)
    (fun _ _ h _ => kept_step h) (fun _ _ h _ => refusesRevoked h) hkept
    (along_of_forall (D := fun _ => True) fun _ _ => trivial)

/-- **A token that has been revoked passes no check until it expires; and every token is
exchanged for one session at most, however the requests that have revoked theirs go on, exactly
when every request revokes alone.** -/
theorem refresh_rotates_iff (expiry : String → ℕ) (now : ℕ) (es : List RefreshEvent) :
    Along (refreshService expiry).step (RefusesRevoked expiry) (refreshStart now) es
    ∧ ((∀ pre, pre <+: es → ∀ more,
          Along (refreshService expiry).step GoesOn
              (run (refreshService expiry).step (refreshStart now) pre) more →
            ∀ jti, sessions jti
              (run (refreshService expiry).step (refreshStart now) (pre ++ more)) ≤ 1)
        ↔ Along (refreshService expiry).step RevokesAlone (refreshStart now) es) := by
  refine ⟨refuses_revoked expiry now es, ?_, ?_⟩
  · intro h
    rw [along_iff_forall_step]
    intro before e hpre
    by_contra hnot
    obtain ⟨more, jti, hgoes, htwice⟩ := @exchanged_twice expiry _ _ hnot
    have hone := h (before ++ [e]) hpre more (by simpa using hgoes) jti
    simp only [run_append, run_cons, run_nil] at hone
    exact absurd (htwice.trans hone) (by decide)
  intro halone pre hpre more hgoes jti
  have hstart : ∀ jti, revocations jti (refreshStart now) ≤ 1 := fun _ => Nat.zero_le 1
  have hpreOne : ∀ jti,
      revocations jti (run (refreshService expiry).step (refreshStart now) pre) ≤ 1 :=
    along_invariant_throughout (I := fun s => ∀ jti, revocations jti s ≤ 1)
      (fun _ _ hs h => revocations_step hs h) hstart halone hpre
  have hone := along_invariant (I := fun s => ∀ jti, revocations jti s ≤ 1)
    (fun _ _ hs h => revocations_goesOn hs h) hpreOne hgoes
  rw [run_append]
  exact (sessions_le_revocations jti _).trans (hone jti)

end Tokens

/-! ## Two requests with one token -/

namespace Example

/-- A token is presented at two servers, and both requests have read the store before either
has revoked it. -/
def bothPass : List RefreshEvent :=
  [.call { server := 0, jti := "rjti_1" }, .call { server := 1, jti := "rjti_1" },
    .advance 0 {}, .advance 1 {}, .advance 0 {}, .advance 1 {}, .advance 0 {}, .advance 1 {},
    .advance 0 {}, .advance 1 {}, .advance 0 {}, .advance 1 {}]

end Example

/-- The token is exchanged for two sessions. -/
theorem not_refresh_rotates :
    ¬ ∀ (expiry : String → ℕ) (now : ℕ) (es : List RefreshEvent) (jti : String),
      sessions jti (run (refreshService expiry).step (refreshStart now) es) ≤ 1 := by
  intro h
  have hone := h (fun _ => 604800) 0 Example.bothPass "rjti_1"
  revert hone
  decide

end MultiAcademy.School
