import MultiAcademy.Lib.Reach
import MultiAcademy.School.OnboardingRequests

/-!
# Whether onboarding can be completed

From the states that the requests leave behind, each up to where it failed, whether the owner of an
address can still come to log in by requests of their own.
-/

namespace MultiAcademy.School

open MultiAcademy.Lib

/-- The owner of an address makes the request; a code is the one last sent to them. -/
def OwnRequest (email : String) (s : OnboardingStores) : OnboardingEvent → Prop
  | .register _ _ input => normalizedEmail input.email = email
  | .resend _ _ address => normalizedEmail address = email
  | .verify _ token => ∃ sent ∈ s.registrations.lastSent email, sent.token = token
  | .step2 _ _ address _ => address = email
  | .login address _ _ => address = email
  | .wait _ => True

/-! ## A free slug -/

section Slug

theorem strip_ends {p : Char → Bool} {c c' : Char} (middle : List Char) (hc : p c = false)
    (hc' : p c' = false) :
    (((c :: (middle ++ [c'])).dropWhile p).reverse.dropWhile p).reverse
      = c :: (middle ++ [c']) := by
  rw [List.dropWhile_cons_of_neg (Bool.eq_false_iff.1 hc), List.reverse_cons, List.reverse_append,
    List.reverse_singleton, List.singleton_append, List.cons_append,
    List.dropWhile_cons_of_neg (Bool.eq_false_iff.1 hc')]
  simp

theorem dashes_replicate (n : ℕ) (rest : List Char) :
    dashes (List.replicate n 'a' ++ rest) = List.replicate n 'a' ++ dashes rest := by
  induction n with
  | zero => rfl
  | succ n ih =>
    have ha : isSlugChar 'a' = true := by decide
    rw [List.replicate_succ, List.cons_append, dashes, if_pos ha, ih, List.cons_append]

/-- The name of an owner who has `n + 1` letters. -/
def nameOf (n : ℕ) : String := String.ofList (List.replicate (n + 1) 'a')

theorem slug_nameOf (n : ℕ) :
    generateSlugFromName (nameOf n ++ "'s Organization")
      = String.ofList (List.replicate (n + 1) 'a' ++ "-s-organization".toList) := by
  have hlower : ((nameOf n ++ "'s Organization").toLower).toList
      = 'a' :: ((List.replicate n 'a' ++ "'s organizatio".toList) ++ ['n']) := by
    have hrest : ("'s Organization".toList).map Char.toLower
        = "'s organizatio".toList ++ ['n'] := by decide
    have ha : Char.toLower 'a' = 'a' := by decide
    rw [String.toLower, String.toList_map, String.toList_append, List.map_append, hrest, nameOf,
      String.toList_ofList, List.map_replicate, ha, List.replicate_succ]
    simp
  have htrim : trim (nameOf n ++ "'s Organization").toLower
      = String.ofList ('a' :: ((List.replicate n 'a' ++ "'s organizatio".toList) ++ ['n'])) := by
    rw [trim, hlower, strip_ends _ (by decide) (by decide)]
  have hdashes : dashes ('a' :: ((List.replicate n 'a' ++ "'s organizatio".toList) ++ ['n']))
      = 'a' :: ((List.replicate n 'a' ++ "-s-organizatio".toList) ++ ['n']) := by
    have hrest : dashes ("'s organizatio".toList ++ ['n'])
        = "-s-organizatio".toList ++ ['n'] := by decide
    have hsplit := dashes_replicate (n + 1) ("'s organizatio".toList ++ ['n'])
    rw [hrest, List.replicate_succ] at hsplit
    simpa using hsplit
  rw [generateSlugFromName, htrim, String.toList_ofList, hdashes, stripDashes,
    strip_ends _ (by decide) (by decide), List.replicate_succ]
  congr 1
  simp

/-- **Some name has a free slug**, since there are names of every length. -/
theorem exists_free_slug (tenants : Keyed SchoolTenant.slug) :
    ∃ n, ∀ row : RegistrationStaging, row.organizationName = nameOf n ++ "'s Organization" →
      tenants.find? row.slug = none := by
  let n := (tenants.rows.map fun tenant => tenant.slug.length).sum
  refine ⟨n, ?_⟩
  intro row hname
  have hslug : row.slug
      = String.ofList (List.replicate (n + 1) 'a' ++ "-s-organization".toList) := by
    rw [RegistrationStaging.slug, hname, slug_nameOf, ensureUniqueSlug, if_neg]
    intro hempty
    have hlength := congrArg String.length hempty
    simp at hlength
  rw [Keyed.find?_eq_none]
  intro tenant htenant hsame
  have hle : tenant.slug.length ≤ n := List.le_sum_of_mem (List.mem_map.2 ⟨tenant, htenant, rfl⟩)
  have hlength : tenant.slug.length = n + 1 + 15 := by
    rw [hsame, hslug]
    simp
    decide
  omega

end Slug

/-! ## Completion -/

section Completion
variable {env : OnboardingEnv} {s : OnboardingStores}

theorem stamped_eq (row : RegistrationStaging) (d : RegistrationStores) :
    ∃ createdAt, d.stamped row = { row with createdAt } := by
  unfold RegistrationStores.stamped
  split
  · exact ⟨row.createdAt, rfl⟩
  · exact ⟨d.now, rfl⟩

/-- A code that is left, or that the address has already. -/
theorem exists_code (h : OnboardingOk env s)
    (hleft : CodeLeft env.crypto.toRegistrationCrypto s.registrations) (email : String) :
    ∃ number, ∀ other ∈ s.registrations.stagings.rows,
      other.verificationTokenHash = env.crypto.sha256 (codeOf number) → other.email = email := by
  by_cases hrow : ∃ row ∈ s.registrations.stagings.rows, row.email = email
  · obtain ⟨row, hrow, hemail⟩ := hrow
    obtain ⟨number, hcode⟩ := (h.registrations.rows row hrow).coded
    refine ⟨number, ?_⟩
    intro other hother hsame
    rw [Keyed.eq_of_key hother hrow (hsame.trans hcode.symm)]
    exact hemail
  obtain ⟨number, hunused⟩ := hleft
  exact ⟨number, fun other hother hsame => absurd hsame (hunused other hother)⟩

/-- A registration under a free name, with a code that is no one else's, is found by its code. -/
theorem registerStep1_found (h : OnboardingOk env s) {address : String} {number : Fin 1000000}
    {n : ℕ}
    (hopen : ¬ ∃ row ∈ s.registrations.stagings.rows,
      row.email = normalizedEmail address ∧ row.consumedAt.isSome = true)
    (hcode : ∀ other ∈ s.registrations.stagings.rows,
      other.verificationTokenHash = env.crypto.sha256 (codeOf number) →
        other.email = normalizedEmail address) :
    let s' := (registerStep1 env number none
      { fullName := nameOf n, email := address, password := some "password" } s).2
    s'.registrations.tenants = s.registrations.tenants
      ∧ (∃ sent ∈ s'.registrations.lastSent (normalizedEmail address), sent.token = codeOf number)
      ∧ ∃ row, findStaging env.crypto.toRegistrationCrypto (codeOf number) s'.registrations
          = .found row
        ∧ row.email = normalizedEmail address
        ∧ row.organizationName = nameOf n ++ "'s Organization" := by
  intro s'
  let input : OwnerInput := { fullName := nameOf n, email := address, password := some "password" }
  rcases stageOwner_cases h.registrations input.passedOn number (s.registrations.now + 15 * 60000)
    with ⟨hconsumed, -⟩ | ⟨-, row, hstaged, hrow⟩
  · exact absurd hconsumed hopen
  cases hsave : (s.draw (normalizedEmail address)).registrations.save row with
  | none =>
    refine absurd ?_ (not_codeFree hsave)
    intro other hother hsame
    have hemail := hcode other hother (hsame.trans hrow.code)
    exact hrow.one other hother (hemail.trans hrow.email.symm)
  | some d =>
    obtain ⟨-, hd, hmem⟩ := save_eq_some hsave
    have hs' : s' = { s with registrations := d.send row.email (codeOf number) } := by
      have hnone : ∀ point, strikes none point = false := fun _ => rfl
      have hstaged' : stageOwner env.crypto.toRegistrationCrypto
          (OwnerInput.passedOn
            { fullName := nameOf n, email := address, password := some "password" })
          (codeOf number) (s.registrations.now + 15 * 60000) s.registrations.drawn.length
          s.registrations = .staging row (codeOf number) := hstaged
      simp only [s', registerStep1, saveAndSend, hnone, if_neg Bool.false_ne_true, hstaged',
        hsave]
      rfl
    obtain ⟨createdAt, hstamped⟩ :=
      stamped_eq row (s.draw (normalizedEmail address)).registrations
    rw [hs']
    refine ⟨?_, ⟨⟨codeOf number, d.now⟩, ?_, rfl⟩, { row with createdAt }, ?_, hrow.email, ?_⟩
    · rw [hd]
      rfl
    · exact if_pos hrow.email.symm
    · refine findStaging_eq_found.2 ⟨?_, hrow.opened, ?_, ?_⟩
      · exact Keyed.find?_eq_some.2 ⟨(hmem _).2 (Or.inr hstamped.symm), hrow.code⟩
      · have hnow : d.now = s.registrations.now := by rw [hd]; rfl
        rw [show (d.send row.email (codeOf number)).now = d.now from rfl, hnow,
          show ({ row with createdAt } : RegistrationStaging).verificationExpiresAt
            = row.verificationExpiresAt from rfl, hrow.expires]
        omega
      rw [show ({ row with createdAt } : RegistrationStaging).encryptedPassword
        = row.encryptedPassword from rfl, hrow.password]
      exact env.crypto.encrypt_ne "password"
    · exact hrow.name

/-- **From where who has consumed their registration can log in, everyone can come to.** -/
theorem canReach_of_ok (h : OnboardingOk env s)
    (hleft : CodeLeft env.crypto.toRegistrationCrypto s.registrations) (address : String) :
    CanReach (onboardingStep env) (OwnRequest (normalizedEmail address))
      (CanLogIn env (normalizedEmail address)) s := by
  by_cases hopen : ∃ row ∈ s.registrations.stagings.rows,
      row.email = normalizedEmail address ∧ row.consumedAt.isSome = true
  · obtain ⟨row, hrow, hemail, hconsumed⟩ := hopen
    obtain ⟨tenantId, howner⟩ := h.owners row hrow hconsumed
    rw [← hemail]
    exact .now (howner.login (h.registrations.rows row hrow).lower)
  -- register under a free name, and verify the code
  obtain ⟨number, hcode⟩ := exists_code h hleft (normalizedEmail address)
  obtain ⟨n, hfree⟩ := exists_free_slug s.registrations.tenants
  let input : OwnerInput :=
    { fullName := nameOf n, email := address, password := some "password" }
  obtain ⟨htenants, hsent, row, hfound, hemail, hname⟩ :=
    registerStep1_found (n := n) h hopen hcode
  have hok : OnboardingOk env (onboardingStep env (.register number none input) s) :=
    registerStep1_ok h number none input
  have hregister : OwnRequest (normalizedEmail address) s (.register number none input) := rfl
  refine .cons hregister (.cons (e := .verify none (codeOf number)) hsent (.now ?_))
  rw [← hemail]
  exact verifyEmail_completes hok hfound (htenants ▸ hfree row hname)

theorem resolveTenantBySboId_eq_ok {sboId : String} {tenant : OwnedTenant} {d : LoginStores}
    (h : resolveTenantBySboId sboId d = .ok tenant) :
    tenant ∈ d.tenants.rows ∧ tenant.status = "active" := by
  unfold resolveTenantBySboId at h
  split at h
  · cases h
  rename_i found hfound
  split at h
  · cases h
  rename_i hactive
  cases h
  exact ⟨List.mem_of_find?_eq_some hfound, not_not.1 hactive⟩

/-- The second step changes nothing: tenants that are active are ready. -/
theorem registerStep2_eq (hready : ∀ tenant ∈ s.logins.tenants.rows, tenant.status = "active" →
      tenant.provisioningStatus = "ready") (fault : Option Fault) (sboId email password : String) :
    (registerStep2 env fault sboId email password s).2 = s := by
  unfold registerStep2
  cases hresolve : resolveTenantBySboId sboId s.logins with
  | error refusal => rfl
  | ok tenant =>
    obtain ⟨hmem, hactive⟩ := resolveTenantBySboId_eq_ok hresolve
    simp only
    rw [if_pos (hready tenant hmem hactive)]
    split
    · rfl
    · split <;> rfl

/-- A step that goes on. -/
theorem onboardingStep_ok {e : OnboardingEvent}
    (h : OnboardingOk env s ∧ CodeLeft env.crypto.toRegistrationCrypto s.registrations)
    (hgo : OnboardingGoesOn env s e) :
    OnboardingOk env (onboardingStep env e s)
      ∧ CodeLeft env.crypto.toRegistrationCrypto (onboardingStep env e s).registrations := by
  obtain ⟨hok, hleft⟩ := h
  cases e with
  | register number fault input =>
    exact ⟨registerStep1_ok hok number fault input, registerStep1_left hok hleft hgo⟩
  | resend number fault email =>
    exact ⟨resendVerificationEmail_ok hok number fault email,
      resendVerificationEmail_left hok number fault email hleft⟩
  | verify fault token =>
    exact ⟨verifyEmail_ok hok hgo, verifyEmail_left hok fault token hleft⟩
  | step2 fault sboId email password =>
    simp only [onboardingStep]
    rw [registerStep2_eq hok.logins.ready fault sboId email password]
    exact ⟨hok, hleft⟩
  | login email password sboId => exact ⟨hok, hleft⟩
  | wait milliseconds => exact ⟨hok.mono rfl rfl List.prefix_rfl, hleft.congr rfl⟩

end Completion

/-- No registration, no tenant and no user, at a time. -/
def onboardingStart (now : ℕ) : OnboardingStores := { registrations := { now } }

/-- **In every state of a run that goes on, the owner of every address can come to log in by
requests of their own.** -/
theorem onboarding_completes (env : OnboardingEnv) (now : ℕ) (es : List OnboardingEvent)
    (h : Along (onboardingStep env) (OnboardingGoesOn env) (onboardingStart now) es) :
    ∀ pre, pre <+: es → ∀ address,
      CanReach (onboardingStep env) (OwnRequest (normalizedEmail address))
        (CanLogIn env (normalizedEmail address))
        (run (onboardingStep env) (onboardingStart now) pre) := by
  have hregistrations : RegistrationsSound env.crypto.toRegistrationCrypto
      (onboardingStart now).registrations := ⟨nofun, nofun⟩
  have hlogins : LoginsDrawn 0 (onboardingStart now).logins :=
    ⟨nofun, nofun, nofun, fun _ hkey => absurd rfl hkey⟩
  have hstart : OnboardingOk env (onboardingStart now) := ⟨hregistrations, hlogins, nofun⟩
  have hleft : CodeLeft env.crypto.toRegistrationCrypto (onboardingStart now).registrations :=
    ⟨0, nofun⟩
  have hstep : ∀ s e, OnboardingOk env s
      ∧ CodeLeft env.crypto.toRegistrationCrypto s.registrations → OnboardingGoesOn env s e →
      OnboardingOk env (onboardingStep env e s)
        ∧ CodeLeft env.crypto.toRegistrationCrypto (onboardingStep env e s).registrations :=
    fun _ _ => onboardingStep_ok
  intro pre hpre address
  obtain ⟨hok, hleft⟩ := along_invariant_throughout hstep ⟨hstart, hleft⟩ h hpre
  exact canReach_of_ok hok hleft address

/-! ## Stranded -/

/-- The address has a registration, every one is consumed, and no tenant has users. -/
structure Stranded (email : String) (s : OnboardingStores) : Prop where
  registered : ∃ row ∈ s.registrations.stagings.rows, row.email = email
  consumed : ∀ row ∈ s.registrations.stagings.rows, row.consumedAt.isSome = true
  ready : ∀ tenant ∈ s.logins.tenants.rows, tenant.status = "active" →
    tenant.provisioningStatus = "ready"
  users : ∀ key, (s.logins.users key).rows = []

section Stranded
variable {env : OnboardingEnv} {s s' : OnboardingStores} {email : String}

theorem Stranded.congr (h : Stranded email s) (hlogins : s'.logins = s.logins)
    (hstagings : s'.registrations.stagings = s.registrations.stagings) : Stranded email s' := by
  obtain ⟨hregistered, hconsumed, hready, husers⟩ := h
  constructor
  · rwa [hstagings]
  · rwa [hstagings]
  · rwa [hlogins]
  · rwa [hlogins]

/-- **No request of the owner helps.** -/
theorem Stranded.step (h : Stranded email s) {e : OnboardingEvent} (hown : OwnRequest email s e) :
    Stranded email (onboardingStep env e s) := by
  cases e with
  | register number fault input =>
    obtain ⟨row, hrow, hemail⟩ := h.registered
    have hown' : normalizedEmail input.passedOn.email = email := hown
    have hconflict : (s.registrations.stagings.rows.any fun row =>
        row.email = normalizedEmail input.passedOn.email && row.consumedAt.isSome) = true := by
      refine List.any_eq_true.2 ⟨row, hrow, ?_⟩
      simp [hown', hemail, h.consumed row hrow]
    simp only [onboardingStep, registerStep1, stageOwner, if_pos hconflict]
    split
    · exact h
    · exact h.congr rfl rfl
  | resend number fault address =>
    have hnothing : refreshToken env.crypto.toRegistrationCrypto address (codeOf number)
        s.registrations = .nothing := by
      unfold refreshToken
      cases hlatest : s.registrations.latest (normalizedEmail address) with
      | none => rfl
      | some row =>
        exact if_pos (Or.inl (h.consumed row (latest_eq_some hlatest).1))
    simp only [onboardingStep, resendVerificationEmail, hnothing]
    exact h
  | verify fault token =>
    rcases verifyEmail_cases fault token s with ⟨hs', -⟩ | ⟨row, saved, hfound, -⟩
    · simp only [onboardingStep]
      rw [hs']
      exact h
    -- a registration that is consumed is not found
    obtain ⟨hfind, hopen, -⟩ := findStaging_eq_found.1 hfound
    have hconsumed := h.consumed row (Keyed.find?_eq_some.1 hfind).1
    rw [hopen] at hconsumed
    cases hconsumed
  | step2 fault sboId address password =>
    simp only [onboardingStep]
    rw [registerStep2_eq h.ready fault sboId address password]
    exact h
  | login address password sboId => exact h
  | wait milliseconds => exact h.congr rfl rfl

theorem Stranded.not_canLogIn (h : Stranded email s) : ¬ CanLogIn env email s := by
  rintro ⟨password, hlogin⟩
  unfold login at hlogin
  simp only at hlogin
  split at hlogin
  · cases hlogin
  rename_i tenant _
  have hnone : ∀ user, validateUserByTenant env tenant.id email password s.logins ≠ .ok user := by
    intro user
    simp only [validateUserByTenant, h.users tenant.id, List.find?_nil]
    split <;> simp
  split at hlogin
  · cases hlogin
  rename_i user huser
  exact hnone user huser

/-- **Who is stranded stays so.** -/
theorem Stranded.not_canReach (h : Stranded email s) :
    ¬ CanReach (onboardingStep env) (OwnRequest email) (CanLogIn env email) s :=
  Lib.not_canReach (fun _ _ h hown => h.step hown) (fun _ h => h.not_canLogIn) h

end Stranded

/-! ### No user comes of it -/

section Abandoned
variable {env : OnboardingEnv} {fault : Option Fault}

theorem createOwner_users (h : (releaseFault fault).isSome = true ∨ strikes fault .mapping = true
      ∨ strikes fault .user = true) (userId mappingId sboId email : String) (d : LoginStores) :
    (createOwner fault userId mappingId sboId email d).2.users = d.users := by
  unfold createOwner
  cases stagedOwner sboId email d with
  | error refusal => rfl
  | ok owner =>
    cases hrelease : releaseFault fault with
    | some given => rfl
    | none =>
      simp only
      split
      · rfl
      rename_i hmapping
      rcases h with h | h | h
      · rw [hrelease] at h
        cases h
      · exact absurd h hmapping
      rw [if_pos h]
      rfl

/-- **A verification that is abandoned creates no user.** -/
theorem verifyEmail_users (habandons : abandons env fault = true) (token : String)
    (s : OnboardingStores) :
    (verifyEmail env fault token s).2.logins.users = s.logins.users := by
  have hsavedUsers : ∀ {row : RegistrationStaging} {saved : OnboardingStores},
      (s.draw row.email).saveTenant (s.tenantFor env row) = some saved →
        saved.logins.users = s.logins.users := by
    intro row saved hsaved
    rcases saveTenant_cases (s.tenantFor env row) (s.draw row.email) with
      ⟨hnone, -⟩ | ⟨-, saved', hsaved', hlogins, -⟩
    · rw [hnone] at hsaved
      cases hsaved
    obtain rfl : saved = saved' := Option.some.inj (hsaved.symm.trans hsaved')
    rw [hlogins]
    rfl
  rcases verifyEmail_cases fault token s with
    ⟨hs', -⟩ | ⟨row, saved, -, -, hsaved, ⟨hs', -⟩ | ⟨d, -, hs'⟩⟩ <;> rw [hs']
  · exact hsavedUsers hsaved
  have husers := hsavedUsers hsaved
  split
  · exact husers
  rename_i hcontrol
  rw [← husers]
  unfold finishVerifiedTenantOnboarding provisionVerifiedTenant
  simp only
  by_cases hprovision : (strikes fault .provision || strikes fault .ready) = true
  · rw [if_pos hprovision]
    simp only
    split <;> rfl
  rw [if_neg hprovision]
  refine createOwner_users ?_ _ _ _ _ _
  rw [Bool.or_eq_true, not_or] at hprovision
  simpa [abandons, hcontrol, hprovision.1, hprovision.2, or_assoc] using habandons

end Abandoned

/-! ## A school whose onboarding is interrupted -/

namespace Example

/-- The passwords are marked as encrypted, and as hashed. -/
def marking : OnboardingCrypto where
  sha256 text := text
  encrypt text := "e" ++ text
  decrypt text := String.ofList text.toList.tail
  hashPassword password := "h" ++ password
  verifyPassword password hash := hash = "h" ++ password
  encrypt_ne text := by
    intro h
    simpa using congrArg String.length h
  decrypt_encrypt text := by simp
  hashPassword_ne password := by
    intro h
    simpa using congrArg String.length h
  verify_hashPassword password := by simp

def onboarding : OnboardingEnv := { crypto := marking }

/-- Where a verification fails once the registration is consumed, before there is a user. -/
def interruptions : List OnboardingPoint :=
  [.registerTenant, .activateTenant, .provision, .ready, .release 0, .mapping, .user]

/-- Ada registers, and her code is verified up to a point. -/
def interrupted (point : OnboardingPoint) : List OnboardingEvent :=
  [.register firstDraw none (owner "Ada Obi" "ada@one.ng"), .verify (some { point }) "000001"]

/-- The process stops before the registration is consumed, and Ada begins again under another
name. -/
def resumed : List OnboardingEvent :=
  [.register firstDraw none (owner "Ada Obi" "ada@one.ng"),
    .verify (some { point := .consumption, stops := true }) "000001",
    .register secondDraw none (owner "Ada Eze" "ada@one.ng"), .verify none "000002"]

end Example

theorem onboarding_completes_resumed :
    CanLogIn Example.onboarding "ada@one.ng"
        (run (onboardingStep Example.onboarding) (onboardingStart 0) Example.resumed)
      ∧ ∀ pre, pre <+: Example.resumed → ∀ address,
        CanReach (onboardingStep Example.onboarding) (OwnRequest (normalizedEmail address))
          (CanLogIn Example.onboarding (normalizedEmail address))
          (run (onboardingStep Example.onboarding) (onboardingStart 0) pre) := by
  refine ⟨⟨"secret", by decide +kernel⟩,
    onboarding_completes Example.onboarding 0 _ ⟨?_, ?_, ?_, ?_, trivial⟩⟩
  · exact fun _ _ _ => ⟨7, nofun, by decide⟩
  · exact fun _ _ _ => by decide
  · have hunused : ∀ row ∈ (run (onboardingStep Example.onboarding) (onboardingStart 0)
        (Example.resumed.take 2)).registrations.stagings.rows,
        row.verificationTokenHash ≠ Example.onboarding.crypto.sha256 (codeOf 7) := by
      decide
    exact fun _ _ _ => ⟨7, hunused, by decide⟩
  · exact fun _ _ _ => by decide

/-- Wherever a verification stops once the registration is consumed and before there is a user, the
owner can do nothing more. -/
theorem not_onboarding_completes :
    (¬ ∀ (env : OnboardingEnv) (now : ℕ) (es : List OnboardingEvent) (address : String),
      CanReach (onboardingStep env) (OwnRequest (normalizedEmail address))
        (CanLogIn env (normalizedEmail address))
        (run (onboardingStep env) (onboardingStart now) es))
    ∧ ∀ point ∈ Example.interruptions,
      ¬ CanReach (onboardingStep Example.onboarding) (OwnRequest (normalizedEmail "ada@one.ng"))
        (CanLogIn Example.onboarding (normalizedEmail "ada@one.ng"))
        (run (onboardingStep Example.onboarding) (onboardingStart 0)
          (Example.interrupted point)) := by
  have hconsumed : ∀ point ∈ Example.interruptions,
      ∀ row ∈ (run (onboardingStep Example.onboarding) (onboardingStart 0)
        (Example.interrupted point)).registrations.stagings.rows, row.consumedAt.isSome = true := by
    decide
  have hready : ∀ point ∈ Example.interruptions,
      ∀ tenant ∈ (run (onboardingStep Example.onboarding) (onboardingStart 0)
        (Example.interrupted point)).logins.tenants.rows, tenant.status = "active" →
          tenant.provisioningStatus = "ready" := by
    decide +kernel
  have habandons : ∀ point ∈ Example.interruptions,
      abandons Example.onboarding (some { point }) = true := by
    decide
  have hstranded : ∀ point ∈ Example.interruptions, Stranded (normalizedEmail "ada@one.ng")
      (run (onboardingStep Example.onboarding) (onboardingStart 0)
        (Example.interrupted point)) := by
    intro point hpoint
    refine ⟨?_, hconsumed point hpoint, hready point hpoint, ?_⟩
    · have hemails : (run (onboardingStep Example.onboarding) (onboardingStart 0)
          (Example.interrupted point)).registrations.stagings.rows.map RegistrationStaging.email
          = [normalizedEmail "ada@one.ng"] := by
        fin_cases hpoint <;> rfl
      exact List.mem_map.1 (hemails ▸ List.mem_singleton_self _)
    intro key
    simp only [run_cons, run_nil, Example.interrupted, onboardingStep,
      verifyEmail_users (habandons point hpoint)]
    rfl
  refine ⟨?_, fun point hpoint => (hstranded point hpoint).not_canReach⟩
  intro h
  exact (hstranded .provision (by decide)).not_canReach (h _ _ _ _)

end MultiAcademy.School
