import MultiAcademy.Lib.Calendar
import MultiAcademy.Lib.Run

/-!
# Staff sign-in

`routers/auth.py`: `login`, `mfa_setup` and `mfa_verify` of one staff account, with
`get_current_staff` of `deps.py`.  A wrong password is counted, and the fifth locks the account; a
wrong code is not counted, and a setup turns the codes off until the new secret is verified.
-/

namespace MultiAcademy.Control

open MultiAcademy.Lib

def maxFailedAttempts : ℕ := 5

/-- `timedelta(minutes=LOCKOUT_MINUTES)`. -/
def lockout : Time := Time.seconds (15 * 60)

theorem maxFailedAttempts_pos : 0 < maxFailedAttempts := by decide

/-- `verify_password` and `verify_totp`, the latter at a time. -/
structure SignInChecks where
  password : String → String → Bool
  totp : String → String → Time → Bool

/-- The columns of a row of `platform_users` that are used here. -/
structure StaffAccount where
  passwordHash : String
  isActive : Bool := true
  mfaEnabled : Bool := false
  mfaTotpSecret : Option String := none
  failedLoginAttempts : ℕ := 0
  lockedUntil : Option Time := none
  lastLoginAt : Option Time := none
  deriving DecidableEq

/-- A row of `staff_sessions`. -/
structure AccountSession where
  jti : String
  expiresAt : Time
  lastSeenAt : Time
  revoked : Bool := false
  deriving DecidableEq

/-- The account, its sessions, the settings, and the time. -/
structure SignInStores where
  account : StaffAccount
  sessions : List AccountSession := []
  idleMinutes : ℕ := 30
  refreshTokenDays : ℕ := 7
  now : Time := 0
  deriving DecidableEq

/-- A token of the account that the server has signed. -/
structure BearerToken where
  type : String := "access"
  jti : Option String
  expiresAt : Time
  deriving DecidableEq

inductive SignInReply
  | tokens (jti : String)
  | secret (value : String)
  | mfaEnabled
  | refused (status : ℕ) (detail : String)
  | none
  deriving DecidableEq

/-- `locked_until > now`. -/
def SignInStores.locked (d : SignInStores) : Bool := d.account.lockedUntil.any fun t => d.now < t

/-- `get_current_staff`, on a path that does not need codes to be enrolled. -/
def getCurrentStaff (credentials : Option BearerToken) (d : SignInStores) :
    Option (ℕ × String) × SignInStores :=
  match credentials with
  | none => (some (401, "Missing bearer token"), d)
  | some token =>
    if token.expiresAt ≤ d.now then (some (401, "Invalid or expired token"), d)
    else if token.type ≠ "access" then (some (401, "Access token required"), d)
    else if d.account.isActive = false then (some (401, "Account disabled"), d)
    else
      match d.sessions.find? fun session => some session.jti = token.jti with
      | none => (none, d)
      | some session =>
        let save (session' : AccountSession) : SignInStores :=
          { d with
            sessions := d.sessions.map fun row =>
              if row.jti = session.jti then session' else row }
        if session.revoked then (some (401, "Session revoked"), d)
        else if session.expiresAt < d.now then (some (401, "Session expired"), d)
        else if d.idleMinutes ≠ 0
            ∧ Time.seconds (60 * d.idleMinutes) < d.now - session.lastSeenAt then
          (some (401, "Session idle for more than " ++ toString d.idleMinutes ++ " minutes"),
            save { session with revoked := true })
        else if Time.seconds 60 < d.now - session.lastSeenAt then
          (none, save { session with lastSeenAt := d.now })
        else (none, d)

section Requests
variable (checks : SignInChecks)

/-- `login`, once the account is known not to be locked, with the id of the session. -/
def logIn (jti password : String) (mfaCode : Option String) (d : SignInStores) :
    SignInReply × SignInStores :=
  if checks.password password d.account.passwordHash = false then
    let attempts := d.account.failedLoginAttempts + 1
    (.refused 401 "Invalid credentials",
      { d with
        account :=
          if maxFailedAttempts ≤ attempts then
            { d.account with failedLoginAttempts := 0, lockedUntil := some (d.now + lockout) }
          else { d.account with failedLoginAttempts := attempts } })
  else
    let signedIn : SignInReply × SignInStores :=
      (.tokens jti,
        { d with
          account :=
            { d.account with failedLoginAttempts := 0, lockedUntil := none, lastLoginAt := some d.now }
          sessions := d.sessions ++
            [{ jti, expiresAt := d.now + Time.days d.refreshTokenDays, lastSeenAt := d.now }] })
    if d.account.mfaEnabled then
      match mfaCode.filter fun code => code ≠ "" with
      | none => (.refused 428 "MFA code required", d)
      | some code =>
        if checks.totp (d.account.mfaTotpSecret.getD "") code d.now then signedIn
        else (.refused 401 "Invalid MFA code", d)
    else signedIn

def login (jti password : String) (mfaCode : Option String) (d : SignInStores) :
    SignInReply × SignInStores :=
  if d.account.isActive = false then (.refused 401 "Invalid credentials", d)
  else if d.locked then (.refused 423 "Account temporarily locked", d)
  else logIn checks jti password mfaCode d

/-- `mfa_setup`, with the new secret. -/
def mfaSetup (secret : String) (credentials : Option BearerToken) (d : SignInStores) :
    SignInReply × SignInStores :=
  match getCurrentStaff credentials d with
  | (some (status, detail), d) => (.refused status detail, d)
  | (none, d) =>
    (.secret secret,
      { d with account := { d.account with mfaTotpSecret := some secret, mfaEnabled := false } })

def mfaVerify (code : String) (credentials : Option BearerToken) (d : SignInStores) :
    SignInReply × SignInStores :=
  match getCurrentStaff credentials d with
  | (some (status, detail), d) => (.refused status detail, d)
  | (none, d) =>
    match d.account.mfaTotpSecret.filter fun secret => secret ≠ "" with
    | none => (.refused 400 "Run MFA setup first", d)
    | some secret =>
      if checks.totp secret code d.now then
        (.mfaEnabled, { d with account := { d.account with mfaEnabled := true } })
      else (.refused 400 "Invalid code", d)

/-- A request, or time passes. -/
inductive SignInEvent
  | login (jti password : String) (mfaCode : Option String)
  | mfaSetup (secret : String) (credentials : Option BearerToken)
  | mfaVerify (code : String) (credentials : Option BearerToken)
  | pass (microseconds : ℕ)

def signInStep (e : SignInEvent) (d : SignInStores) : SignInReply × SignInStores :=
  match e with
  | .login jti password mfaCode => Control.login checks jti password mfaCode d
  | .mfaSetup secret credentials => Control.mfaSetup secret credentials d
  | .mfaVerify code credentials => Control.mfaVerify checks code credentials d
  | .pass microseconds => (.none, { d with now := d.now + microseconds })

/-! ## What is watched -/

def wrongPassword (d : SignInStores) : SignInEvent → Bool
  | .login _ password _ =>
    d.account.isActive && !d.locked && !checks.password password d.account.passwordHash
  | _ => false

def wrongCode (d : SignInStores) : SignInEvent → Bool
  | .login _ password mfaCode =>
    d.account.isActive && !d.locked && checks.password password d.account.passwordHash
      && d.account.mfaEnabled && mfaCode.any fun code =>
        code ≠ "" && !checks.totp (d.account.mfaTotpSecret.getD "") code d.now
  | .mfaVerify code credentials =>
    (getCurrentStaff credentials d).1.isNone && d.account.mfaTotpSecret.any fun secret =>
      secret ≠ "" && !checks.totp secret code d.now
  | _ => false

/-- The account, how many wrong credentials were evaluated since a login succeeded or the account
was locked, until when it was locked last, and the secret that codes were enabled with last. -/
structure Watched where
  stores : SignInStores
  wrong : ℕ := 0
  lockEnds : Option Time := none
  enrolled : Option String := none

def locksOut (d d' : SignInStores) : Bool :=
  d'.account.lockedUntil = some (d.now + lockout) && d'.account.lockedUntil ≠ d.account.lockedUntil

def SignInReply.isTokens : SignInReply → Bool
  | .tokens _ => true
  | _ => false

def watchStep (e : SignInEvent) (w : Watched) : Watched :=
  let next := signInStep checks e w.stores
  let locks := locksOut w.stores next.2
  { stores := next.2
    wrong :=
      if next.1.isTokens || locks then 0
      else if wrongPassword checks w.stores e || wrongCode checks w.stores e then w.wrong + 1
      else w.wrong
    lockEnds := if locks then next.2.account.lockedUntil else w.lockEnds
    enrolled := if next.1 = .mfaEnabled then next.2.account.mfaTotpSecret else w.enrolled }

/-- **Sign-in is guarded**: fewer wrong credentials than the attempts that lock the account were
evaluated since a login succeeded or the account was locked; until a lockout ends every login is
refused; and a login succeeds only with a code of the secret that codes were enabled with. -/
structure SignInGuarded (w : Watched) : Prop where
  counted : w.wrong < maxFailedAttempts
  locked : ∀ t, w.lockEnds = some t → w.stores.now < t → ∀ jti password mfaCode,
    (login checks jti password mfaCode w.stores).1 = .refused 423 "Account temporarily locked"
      ∨ w.stores.account.isActive = false
  coded : ∀ secret, w.enrolled = some secret → ∀ jti password mfaCode,
    (login checks jti password mfaCode w.stores).1.isTokens = true →
      ∃ code, mfaCode = some code ∧ checks.totp secret code w.stores.now = true

/-- The request has no wrong code evaluated, and is no setup that is accepted while codes are asked
for. -/
def SignInOk (w : Watched) (e : SignInEvent) : Prop :=
  wrongCode checks w.stores e = false
    ∧ (w.stores.account.mfaEnabled = true → ∀ secret credentials,
      e = .mfaSetup secret credentials → (getCurrentStaff credentials w.stores).1.isSome = true)

/-! ## The requests, case by case -/

variable {checks} {d : SignInStores} {w : Watched}

def StaffAccount.countWrong (account : StaffAccount) (now : Time) : StaffAccount :=
  if maxFailedAttempts ≤ account.failedLoginAttempts + 1 then
    { account with failedLoginAttempts := 0, lockedUntil := some (now + lockout) }
  else { account with failedLoginAttempts := account.failedLoginAttempts + 1 }

/-- A login evaluates nothing, a wrong password, a wrong code, or succeeds. -/
theorem login_cases (checks : SignInChecks) (jti password : String) (mfaCode : Option String)
    (d : SignInStores) :
    (login checks jti password mfaCode d).1.isTokens = false
        ∧ (login checks jti password mfaCode d).1 ≠ .mfaEnabled
        ∧ (((login checks jti password mfaCode d).2 = d
            ∧ wrongPassword checks d (.login jti password mfaCode) = false)
          ∨ d.locked = false ∧ wrongPassword checks d (.login jti password mfaCode) = true
            ∧ (login checks jti password mfaCode d).2
              = { d with account := d.account.countWrong d.now })
      ∨ d.locked = false ∧ (∃ sessions, login checks jti password mfaCode d = (.tokens jti,
          { d with
            account := { d.account with
              failedLoginAttempts := 0, lockedUntil := none, lastLoginAt := some d.now }
            sessions }))
        ∧ (d.account.mfaEnabled = true → ∃ code, mfaCode = some code
          ∧ checks.totp (d.account.mfaTotpSecret.getD "") code d.now = true) := by
  simp only [login]
  split
  · rename_i hactive
    exact Or.inl ⟨rfl, nofun, Or.inl ⟨rfl, by simp [wrongPassword, hactive]⟩⟩
  rename_i hactive
  split
  · rename_i hlocked
    exact Or.inl ⟨rfl, nofun, Or.inl ⟨rfl, by simp [wrongPassword, hlocked]⟩⟩
  rename_i hlocked
  rw [Bool.not_eq_true] at hlocked
  rw [Bool.not_eq_false] at hactive
  simp only [logIn]
  split
  · rename_i hwrong
    refine Or.inl ⟨rfl, nofun, Or.inr ⟨hlocked, ?_, rfl⟩⟩
    simp [wrongPassword, hactive, hlocked, hwrong]
  rename_i hright
  rw [Bool.not_eq_false] at hright
  have hnone : wrongPassword checks d (.login jti password mfaCode) = false := by
    simp [wrongPassword, hright]
  split
  · split
    · exact Or.inl ⟨rfl, nofun, Or.inl ⟨rfl, hnone⟩⟩
    rename_i code hcode
    split
    · rename_i hvalid
      refine Or.inr ⟨hlocked, ⟨_, rfl⟩, fun _ => ⟨code, ?_, hvalid⟩⟩
      exact (Option.filter_eq_some_iff.1 hcode).1
    · exact Or.inl ⟨rfl, nofun, Or.inl ⟨rfl, hnone⟩⟩
  rename_i hoff
  exact Or.inr ⟨hlocked, ⟨_, rfl⟩, fun hon => absurd hon hoff⟩

/-- Whoever asks, the account stays as it is. -/
theorem getCurrentStaff_frame (credentials : Option BearerToken) (d : SignInStores) :
    (getCurrentStaff credentials d).2.account = d.account
      ∧ (getCurrentStaff credentials d).2.now = d.now := by
  unfold getCurrentStaff
  split
  · exact ⟨rfl, rfl⟩
  split
  · exact ⟨rfl, rfl⟩
  split
  · exact ⟨rfl, rfl⟩
  split
  · exact ⟨rfl, rfl⟩
  split
  · exact ⟨rfl, rfl⟩
  dsimp only
  split
  · exact ⟨rfl, rfl⟩
  split
  · exact ⟨rfl, rfl⟩
  split
  · exact ⟨rfl, rfl⟩
  · split <;> exact ⟨rfl, rfl⟩

/-- A setup is refused, or turns the codes off. -/
theorem mfaSetup_cases (secret : String) (credentials : Option BearerToken) (d : SignInStores) :
    (mfaSetup secret credentials d).2.now = d.now
      ∧ ((getCurrentStaff credentials d).1.isSome = true
          ∧ (∃ status detail, (mfaSetup secret credentials d).1 = .refused status detail)
          ∧ (mfaSetup secret credentials d).2.account = d.account
        ∨ (getCurrentStaff credentials d).1.isSome = false
          ∧ (mfaSetup secret credentials d).1 = .secret secret
          ∧ (mfaSetup secret credentials d).2.account
            = { d.account with mfaTotpSecret := some secret, mfaEnabled := false }) := by
  obtain ⟨haccount, hnow⟩ := getCurrentStaff_frame credentials d
  cases hstaff : getCurrentStaff credentials d with
  | mk refusal d' =>
    rw [hstaff] at haccount hnow
    cases refusal with
    | some refusal =>
      simp only [mfaSetup, hstaff]
      exact ⟨hnow, Or.inl ⟨by simp, ⟨_, _, rfl⟩, haccount⟩⟩
    | none =>
      simp only [mfaSetup, hstaff]
      refine ⟨hnow, Or.inr ⟨by simp, by simp, ?_⟩⟩
      rw [← haccount]

/-- A verification is refused, evaluates a wrong code, or turns the codes on. -/
theorem mfaVerify_cases (checks : SignInChecks) (code : String)
    (credentials : Option BearerToken) (d : SignInStores) :
    (mfaVerify checks code credentials d).2.now = d.now
      ∧ ((∃ status detail, (mfaVerify checks code credentials d).1 = .refused status detail)
          ∧ (mfaVerify checks code credentials d).2.account = d.account
        ∨ ∃ secret, d.account.mfaTotpSecret = some secret
          ∧ (mfaVerify checks code credentials d).1 = .mfaEnabled
          ∧ (mfaVerify checks code credentials d).2.account
            = { d.account with mfaEnabled := true }) := by
  obtain ⟨haccount, hnow⟩ := getCurrentStaff_frame credentials d
  cases hstaff : getCurrentStaff credentials d with
  | mk refusal d' =>
    rw [hstaff] at haccount hnow
    cases refusal with
    | some refusal =>
      simp only [mfaVerify, hstaff]
      exact ⟨hnow, Or.inl ⟨⟨_, _, rfl⟩, haccount⟩⟩
    | none =>
      simp only [mfaVerify, hstaff]
      split
      · exact ⟨hnow, Or.inl ⟨⟨_, _, rfl⟩, haccount⟩⟩
      rename_i secret hsecret
      have hstored : d.account.mfaTotpSecret = some secret :=
        haccount ▸ (Option.filter_eq_some_iff.1 hsecret).1
      split
      · exact ⟨hnow, Or.inr ⟨secret, hstored, rfl, by rw [← haccount]⟩⟩
      · exact ⟨hnow, Or.inl ⟨⟨_, _, rfl⟩, haccount⟩⟩

/-! ## What every request keeps -/

/-- The wrong credentials are the ones that the account has counted, a lockout that has not ended
is the account's, and the secret that codes were enabled with is asked for. -/
structure WatchedOk (w : Watched) : Prop where
  counted : w.wrong = w.stores.account.failedLoginAttempts
  few : w.stores.account.failedLoginAttempts < maxFailedAttempts
  locked : ∀ t, w.lockEnds = some t → w.stores.now < t → w.stores.account.lockedUntil = some t
  coded : ∀ secret, w.enrolled = some secret →
    w.stores.account.mfaEnabled = true ∧ w.stores.account.mfaTotpSecret = some secret

/-- An account that is not locked is locked out by a new time. -/
theorem locksOut_countWrong (hlocked : d.locked = false) :
    locksOut d { d with account := d.account.countWrong d.now }
      = decide (maxFailedAttempts ≤ d.account.failedLoginAttempts + 1) := by
  simp only [locksOut, StaffAccount.countWrong]
  split
  · rename_i hmany
    have hnew : some (d.now + lockout) ≠ d.account.lockedUntil := by
      intro heq
      rw [SignInStores.locked, ← heq, Option.any_some, decide_eq_false_iff_not] at hlocked
      have hpos : 0 < lockout := by decide
      exact hlocked (Int.lt_add_of_pos_right _ hpos)
    simp [hmany, hnew]
  rename_i hfew
  simp [hfew]

theorem locksOut_self {d' : SignInStores} (h : d'.account.lockedUntil = d.account.lockedUntil) :
    locksOut d d' = false := by
  simp [locksOut, h]

/-! The kinds of steps, as they are watched. -/

variable {e : SignInEvent} {d' : SignInStores} {reply : SignInReply}

theorem watchStep_quiet (hnext : signInStep checks e w.stores = (reply, d'))
    (htokens : reply.isTokens = false) (henabled : reply ≠ .mfaEnabled)
    (hlocked : d'.account.lockedUntil = w.stores.account.lockedUntil)
    (hpassword : wrongPassword checks w.stores e = false)
    (hcode : wrongCode checks w.stores e = false) :
    watchStep checks e w = { w with stores := d' } := by
  simp [watchStep, hnext, htokens, henabled, locksOut_self hlocked, hpassword, hcode]

theorem watchStep_wrong (hnext : signInStep checks e w.stores = (reply, d'))
    (htokens : reply.isTokens = false) (henabled : reply ≠ .mfaEnabled)
    (hlocks : locksOut w.stores d' = false) (hpassword : wrongPassword checks w.stores e = true) :
    watchStep checks e w = { w with stores := d', wrong := w.wrong + 1 } := by
  simp [watchStep, hnext, htokens, henabled, hlocks, hpassword]

theorem watchStep_locked (hnext : signInStep checks e w.stores = (reply, d'))
    (henabled : reply ≠ .mfaEnabled) (hlocks : locksOut w.stores d' = true) :
    watchStep checks e w
      = { w with stores := d', wrong := 0, lockEnds := d'.account.lockedUntil } := by
  simp [watchStep, hnext, henabled, hlocks]

theorem watchStep_tokens {jti : String} (hnext : signInStep checks e w.stores = (.tokens jti, d'))
    (hlocks : d'.account.lockedUntil = none) :
    watchStep checks e w = { w with stores := d', wrong := 0 } := by
  simp [watchStep, hnext, SignInReply.isTokens, locksOut, hlocks]

theorem watchStep_enabled (hnext : signInStep checks e w.stores = (.mfaEnabled, d'))
    (hlocked : d'.account.lockedUntil = w.stores.account.lockedUntil)
    (hpassword : wrongPassword checks w.stores e = false)
    (hcode : wrongCode checks w.stores e = false) :
    watchStep checks e w = { w with stores := d', enrolled := d'.account.mfaTotpSecret } := by
  simp [watchStep, hnext, SignInReply.isTokens, locksOut_self hlocked, hpassword, hcode]

theorem WatchedOk.keep (h : WatchedOk w) (haccount : d'.account = w.stores.account)
    (hnow : w.stores.now ≤ d'.now) : WatchedOk { w with stores := d' } where
  counted := haccount ▸ h.counted
  few := haccount ▸ h.few
  locked t ht hlt := haccount ▸ h.locked t ht (Int.lt_of_le_of_lt hnow hlt)
  coded := haccount ▸ h.coded

theorem watchStep_login_ok (jti password : String) (mfaCode : Option String) (h : WatchedOk w)
    (hcode : wrongCode checks w.stores (.login jti password mfaCode) = false) :
    WatchedOk (watchStep checks (.login jti password mfaCode) w) := by
  have hstep : signInStep checks (.login jti password mfaCode) w.stores
      = ((login checks jti password mfaCode w.stores).1,
        (login checks jti password mfaCode w.stores).2) := rfl
  rcases login_cases checks jti password mfaCode w.stores with
    ⟨htokens, hnotEnabled, hrest⟩ | ⟨hlocked, ⟨sessions, hnext⟩, -⟩
  · rcases hrest with ⟨hsame, hnone⟩ | ⟨hlocked, hwrong, hcounted⟩
    · -- nothing was evaluated
      rw [hsame] at hstep
      rw [watchStep_quiet hstep htokens hnotEnabled rfl hnone hcode]
      exact h
    -- a wrong password is counted, and the last one locks
    rw [hcounted] at hstep
    have hlocks := locksOut_countWrong hlocked
    by_cases hmany : maxFailedAttempts ≤ w.stores.account.failedLoginAttempts + 1
    · rw [decide_eq_true hmany] at hlocks
      rw [watchStep_locked hstep hnotEnabled hlocks]
      simp only [StaffAccount.countWrong, if_pos hmany]
      exact ⟨rfl, maxFailedAttempts_pos, fun t ht _ => ht, h.coded⟩
    rw [decide_eq_false hmany] at hlocks
    rw [watchStep_wrong hstep htokens hnotEnabled hlocks hwrong]
    simp only [StaffAccount.countWrong, if_neg hmany]
    exact ⟨congrArg (· + 1) h.counted, not_le.1 hmany, h.locked, h.coded⟩
  rw [hnext] at hstep
  rw [watchStep_tokens hstep rfl]
  refine ⟨rfl, maxFailedAttempts_pos, ?_, h.coded⟩
  -- a lockout that has not ended would have refused this login
  intro t ht hlt
  rw [SignInStores.locked, h.locked t ht hlt, Option.any_some, decide_eq_false_iff_not] at hlocked
  exact absurd hlt hlocked

/-- **Every request that keeps to the conditions keeps sign-in in order.** -/
theorem watchStep_ok (hok : SignInOk checks w e) (h : WatchedOk w) :
    WatchedOk (watchStep checks e w) := by
  obtain ⟨hcode, hsetup⟩ := hok
  cases e with
  | login jti password mfaCode => exact watchStep_login_ok jti password mfaCode h hcode
  | mfaSetup secret credentials =>
    have hstep : signInStep checks (.mfaSetup secret credentials) w.stores
        = ((mfaSetup secret credentials w.stores).1, (mfaSetup secret credentials w.stores).2) :=
      rfl
    obtain ⟨hnow, hrest⟩ := mfaSetup_cases secret credentials w.stores
    rcases hrest with ⟨-, ⟨status, detail, hreply⟩, haccount⟩ | ⟨hstaff, hreply, haccount⟩
    · rw [watchStep_quiet hstep (by rw [hreply]; rfl) (by rw [hreply]; nofun)
        (by rw [haccount]) rfl hcode]
      exact h.keep haccount hnow.ge
    -- codes were off, so that none had been enabled
    rw [watchStep_quiet hstep (by rw [hreply]; rfl) (by rw [hreply]; nofun)
      (by rw [haccount]) rfl hcode]
    refine ⟨?_, ?_, ?_, ?_⟩
    · simpa [haccount] using h.counted
    · simpa [haccount] using h.few
    · simpa [haccount, hnow] using h.locked
    intro secret' henrolled
    have hon := (h.coded secret' henrolled).1
    rw [hsetup hon secret credentials rfl] at hstaff
    cases hstaff
  | mfaVerify code credentials =>
    have hstep : signInStep checks (.mfaVerify code credentials) w.stores
        = ((mfaVerify checks code credentials w.stores).1,
          (mfaVerify checks code credentials w.stores).2) := rfl
    obtain ⟨hnow, hrest⟩ := mfaVerify_cases checks code credentials w.stores
    rcases hrest with ⟨⟨status, detail, hreply⟩, haccount⟩ | ⟨secret, hsecret, hreply, haccount⟩
    · rw [watchStep_quiet hstep (by rw [hreply]; rfl) (by rw [hreply]; nofun)
        (by rw [haccount]) rfl hcode]
      exact h.keep haccount hnow.ge
    rw [hreply] at hstep
    rw [watchStep_enabled hstep (by rw [haccount]) rfl hcode]
    refine ⟨?_, ?_, ?_, ?_⟩
    · simpa [haccount] using h.counted
    · simpa [haccount] using h.few
    · simpa [haccount, hnow] using h.locked
    intro secret' henrolled
    rw [haccount] at henrolled ⊢
    exact ⟨rfl, henrolled⟩
  | pass microseconds =>
    have hstep : signInStep checks (.pass microseconds) w.stores
        = (.none, { w.stores with now := w.stores.now + microseconds }) := rfl
    rw [watchStep_quiet hstep rfl nofun rfl rfl rfl]
    exact h.keep rfl (Int.le_add_of_nonneg_right (Int.natCast_nonneg microseconds))

/-- Sign-in that is in order is guarded. -/
theorem WatchedOk.guarded (h : WatchedOk w) : SignInGuarded checks w where
  counted := h.counted ▸ h.few
  locked := by
    intro t ht hlt jti password mfaCode
    by_cases hactive : w.stores.account.isActive = false
    · exact Or.inr hactive
    have hlocked : w.stores.locked = true := by
      rw [SignInStores.locked, h.locked t ht hlt, Option.any_some]
      exact decide_eq_true hlt
    refine Or.inl ?_
    rw [login, if_neg hactive, hlocked, if_pos rfl]
  coded := by
    intro secret henrolled jti password mfaCode htokens
    obtain ⟨hon, hsecret⟩ := h.coded secret henrolled
    rcases login_cases checks jti password mfaCode w.stores with
      ⟨hnone, -⟩ | ⟨-, -, hcode⟩
    · rw [hnone] at htokens
      cases htokens
    obtain ⟨code, hgiven, hvalid⟩ := hcode hon
    rw [hsecret] at hvalid
    exact ⟨code, hgiven, hvalid⟩

end Requests

/-! ## Runs -/

/-- An account as it is created. -/
def signInStart (passwordHash : String) (isActive : Bool) (idleMinutes refreshTokenDays : ℕ)
    (now : Time) : Watched :=
  { stores := { account := { passwordHash, isActive }, idleMinutes, refreshTokenDays, now } }

/-- **Sign-in is guarded throughout a run** in which no wrong code is evaluated, and no setup is
accepted while codes are asked for: fewer than `maxFailedAttempts` wrong credentials are evaluated
before a login succeeds or the account is locked, a lockout lasts, and an account that has codes
enabled asks for a code of that secret. -/
theorem sign_in_guarded (checks : SignInChecks) (passwordHash : String) (isActive : Bool)
    (idleMinutes refreshTokenDays : ℕ) (now : Time) (es : List SignInEvent)
    (hes : Along (watchStep checks) (SignInOk checks)
      (signInStart passwordHash isActive idleMinutes refreshTokenDays now) es) :
    ∀ pre, pre <+: es → SignInGuarded checks (run (watchStep checks)
      (signInStart passwordHash isActive idleMinutes refreshTokenDays now) pre) := by
  intro pre hpre
  have hstart : WatchedOk
      (signInStart passwordHash isActive idleMinutes refreshTokenDays now) :=
    ⟨rfl, maxFailedAttempts_pos, nofun, nofun⟩
  exact (along_invariant_throughout (fun w e h hok => watchStep_ok hok h) hstart hes hpre).guarded

namespace Example

/-- A password is its hash, and a code is its secret. -/
def plainChecks : SignInChecks where
  password plain hashed := plain = hashed
  totp secret code _ := code = secret

def openToken : BearerToken := { jti := some "s1", expiresAt := 1 }

/-- An operator signs in, after a slip, and enrols. -/
def enrolment : List SignInEvent :=
  [.login "s0" "slip" none, .login "s1" "password" none, .mfaSetup "secret" (some openToken),
    .mfaVerify "secret" (some openToken)]

/-- The right password is tried with five wrong codes. -/
def grinding : List SignInEvent :=
  enrolment ++ ["1", "2", "3", "4", "5"].map fun code => .login "s2" "password" (some code)

/-- The session from before the enrolment sets codes up again. -/
def resetUp : List SignInEvent := enrolment ++ [.mfaSetup "other" (some openToken)]

end Example

/-- An operator enrols, and signs in with a code. -/
theorem sign_in_guarded_enrolment :
    SignInGuarded Example.plainChecks (run (watchStep Example.plainChecks)
      (signInStart "password" true 30 7 0)
      (Example.enrolment ++ [.login "s2" "password" (some "secret")])) := by
  refine sign_in_guarded Example.plainChecks "password" true 30 7 0
    (Example.enrolment ++ [.login "s2" "password" (some "secret")]) ?_ _ List.prefix_rfl
  refine ⟨⟨by decide, fun _ => nofun⟩, ⟨by decide, fun _ => nofun⟩, ⟨by decide, ?_⟩,
    ⟨by decide, fun _ => nofun⟩, ⟨by decide, fun _ => nofun⟩, trivial⟩
  -- codes are not asked for yet
  intro hon
  cases hon

/-- Sign-in is not always guarded: five wrong codes do not lock the account, and an open session
turns the codes off. -/
theorem not_sign_in_guarded :
    ((run (watchStep Example.plainChecks) (signInStart "password" true 30 7 0)
          Example.grinding).wrong = maxFailedAttempts
        ∧ (run (watchStep Example.plainChecks) (signInStart "password" true 30 7 0)
          Example.grinding).stores.account.lockedUntil = none)
      ∧ (run (watchStep Example.plainChecks) (signInStart "password" true 30 7 0)
          Example.resetUp).enrolled = some "secret"
      ∧ (login Example.plainChecks "s3" "password" none
        (run (watchStep Example.plainChecks) (signInStart "password" true 30 7 0)
          Example.resetUp).stores).1 = .tokens "s3" := by
  refine ⟨⟨?_, ?_⟩, ?_, ?_⟩
  · decide
  · decide
  · decide
  · decide

end MultiAcademy.Control
