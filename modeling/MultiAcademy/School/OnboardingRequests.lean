import MultiAcademy.School.OnboardingOwners

/-!
# What the requests of onboarding keep

Registrations stay sound, and who has consumed their registration can log in, as long as
verifications are not abandoned once they have consumed one.
-/

namespace MultiAcademy.School

open MultiAcademy.Lib

/-! ## Going on -/

/-- The hash of the code is no registration's. -/
def CodeUnused (crypto : RegistrationCrypto) (number : Fin 1000000) (d : RegistrationStores) :
    Prop :=
  ∀ row ∈ d.stagings.rows, row.verificationTokenHash ≠ crypto.sha256 (codeOf number)

def CodeLeft (crypto : RegistrationCrypto) (d : RegistrationStores) : Prop :=
  ∃ number, CodeUnused crypto number d

/-- A registration of a new address that is saved leaves another code, and the verification of a
registration whose slug is free goes on until the owner is created. -/
def OnboardingGoesOn (env : OnboardingEnv) (s : OnboardingStores) : OnboardingEvent → Prop
  | .register number fault input =>
    strikes fault .check = false → strikes fault .staging = false →
      (∀ row ∈ s.registrations.stagings.rows, row.email ≠ normalizedEmail input.email) →
      ∃ other, CodeUnused env.crypto.toRegistrationCrypto other s.registrations
        ∧ env.crypto.sha256 (codeOf other) ≠ env.crypto.sha256 (codeOf number)
  | .verify fault token =>
    ∀ row, findStaging env.crypto.toRegistrationCrypto token s.registrations = .found row →
      s.registrations.tenants.find? row.slug = none → abandons env fault = false
  | _ => True


/-! ## The registrations -/

/-- The address is the one its id was drawn for, in lower case; the code is one of six digits, and
the password is encrypted. -/
structure StagingSound (crypto : RegistrationCrypto) (drawn : List String)
    (row : RegistrationStaging) : Prop where
  owner : drawn[row.id]? = some row.email
  lower : lowerCase row.email = row.email
  coded : ∃ number, row.verificationTokenHash = crypto.sha256 (codeOf number)
  sealed : row.encryptedPassword ≠ "" →
    ∃ password, row.encryptedPassword = crypto.encrypt password

structure RegistrationsSound (crypto : RegistrationCrypto) (d : RegistrationStores) : Prop where
  rows : ∀ row ∈ d.stagings.rows, StagingSound crypto d.drawn row
  one : ∀ row ∈ d.stagings.rows, ∀ other ∈ d.stagings.rows, other.email = row.email → other = row

section Registrations
variable {crypto : RegistrationCrypto} {d d' : RegistrationStores} {row : RegistrationStaging}
  {input : OwnerInput} {number : Fin 1000000} {expiresAt : ℕ} {token : String}

theorem StagingSound.mono {drawn drawn' : List String} (h : StagingSound crypto drawn row)
    (hdrawn : drawn <+: drawn') : StagingSound crypto drawn' row := by
  refine ⟨?_, h.lower, h.coded, h.sealed⟩
  obtain ⟨more, rfl⟩ := hdrawn
  exact (List.getElem?_append_left (List.getElem?_eq_some_iff.1 h.owner).1).trans h.owner

theorem RegistrationsSound.mono (h : RegistrationsSound crypto d)
    (hstagings : d'.stagings = d.stagings) (hdrawn : d.drawn <+: d'.drawn) :
    RegistrationsSound crypto d' := by
  constructor
  · intro row hrow
    rw [hstagings] at hrow
    exact (h.rows row hrow).mono hdrawn
  rw [hstagings]
  exact h.one

theorem StagingSound.stamped {drawn : List String} (h : StagingSound crypto drawn row)
    (d : RegistrationStores) : StagingSound crypto drawn (d.stamped row) := by
  simp only [RegistrationStores.stamped]
  split
  · exact h
  · exact ⟨h.owner, h.lower, h.coded, h.sealed⟩

/-- A sound registration is saved in the place of the one of its address. -/
theorem RegistrationsSound.save (h : RegistrationsSound crypto d) (hsave : d.save row = some d')
    (hrow : StagingSound crypto d.drawn row)
    (hone : ∀ other ∈ d.stagings.rows, other.email = row.email → other.id = row.id) :
    RegistrationsSound crypto d' := by
  obtain ⟨-, hd', hmem⟩ := save_eq_some hsave
  have hdrawn : d'.drawn = d.drawn := by rw [hd']
  constructor
  · intro r hr
    rw [hdrawn]
    rcases (hmem r).1 hr with ⟨hold, -⟩ | rfl
    · exact h.rows r hold
    · exact hrow.stamped d
  intro r hr other hother hsame
  rcases (hmem r).1 hr with ⟨hold, hid⟩ | rfl
  · rcases (hmem other).1 hother with ⟨hold', -⟩ | rfl
    · exact h.one r hold other hold' hsame
    rw [RegistrationStores.stamped_email] at hsame
    exact absurd (hone r hold hsame.symm) hid
  rcases (hmem other).1 hother with ⟨hold', hid'⟩ | rfl
  · rw [RegistrationStores.stamped_email] at hsame
    exact absurd (hone other hold' hsame) hid'
  · rfl

/-- What `createTenantWithOwnerStaging` saves. -/
structure StagedFor (crypto : RegistrationCrypto) (input : OwnerInput) (number : Fin 1000000)
    (expiresAt : ℕ) (d : RegistrationStores) (row : RegistrationStaging) : Prop where
  email : row.email = normalizedEmail input.email
  code : row.verificationTokenHash = crypto.sha256 (codeOf number)
  opened : row.consumedAt = none
  expires : row.verificationExpiresAt = expiresAt
  password : row.encryptedPassword = ((orNull input.password).map crypto.encrypt).getD ""
  name : row.organizationName
    = textOrElse input.organizationName (input.fullName ++ "'s Organization")
  sound : StagingSound crypto (d.drawn ++ [normalizedEmail input.email]) row
  one : ∀ other ∈ d.stagings.rows, other.email = row.email → other.id = row.id

theorem lowerCase_eq_self {text : String} (h : ∀ c ∈ text.toList, c.toLower = c) :
    lowerCase text = text := by
  rw [lowerCase, List.map_congr_left (g := id) h, List.map_id, String.ofList_toList]

theorem lowerCase_normalizedEmail (email : String) :
    lowerCase (normalizedEmail email) = normalizedEmail email := by
  apply lowerCase_eq_self
  intro c hc
  have hmem : c ∈ email.toLower.toList := by
    simp only [normalizedEmail, trim, String.toList_ofList, List.mem_reverse] at hc
    have hback := (List.dropWhile_sublist _).subset hc
    exact (List.dropWhile_sublist _).subset (List.mem_reverse.1 hback)
  rw [String.toLower, String.toList_map] at hmem
  obtain ⟨c', -, rfl⟩ := List.mem_map.1 hmem
  exact charToLower_charToLower c'

theorem latest_eq_none {email : String} (h : d.latest email = none) :
    ∀ row ∈ d.stagings.rows, row.email ≠ email := by
  intro row hrow hemail
  have hmem : row ∈ d.stagings.rows.filter fun row => row.email = email :=
    List.mem_filter.2 ⟨hrow, decide_eq_true hemail⟩
  have hsome : (d.latest email).isSome = true := List.isSome_maxOn?_of_mem hmem
  rw [h] at hsome
  cases hsome

/-- **An address registers again until its registration is consumed.** -/
theorem stageOwner_cases (hd : RegistrationsSound crypto d) (input : OwnerInput)
    (number : Fin 1000000) (expiresAt : ℕ) :
    ((∃ row ∈ d.stagings.rows, row.email = normalizedEmail input.email
        ∧ row.consumedAt.isSome = true)
      ∧ ∃ status message, stageOwner crypto input (codeOf number) expiresAt d.drawn.length d
        = .failed status message)
    ∨ (∀ row ∈ d.stagings.rows, row.email = normalizedEmail input.email → row.consumedAt = none)
      ∧ ∃ row, stageOwner crypto input (codeOf number) expiresAt d.drawn.length d
          = .staging row (codeOf number)
        ∧ StagedFor crypto input number expiresAt d row := by
  unfold stageOwner
  simp only
  split
  · rename_i hconsumed
    obtain ⟨row, hrow, hboth⟩ := List.any_eq_true.1 hconsumed
    simp only [Bool.and_eq_true, decide_eq_true_eq] at hboth
    exact Or.inl ⟨⟨row, hrow, hboth⟩, _, _, rfl⟩
  rename_i hopen
  refine Or.inr ⟨?_, _, rfl, ?_⟩
  · intro row hrow hemail
    by_contra hconsumed
    refine hopen (List.any_eq_true.2 ⟨row, hrow, ?_⟩)
    simpa [hemail, Option.isSome_iff_ne_none] using hconsumed
  refine ⟨rfl, rfl, rfl, rfl, rfl, rfl,
    ⟨?_, lowerCase_normalizedEmail _, ⟨number, rfl⟩, ?_⟩, ?_⟩
  · cases hlatest : d.latest (normalizedEmail input.email) with
    | none => exact List.getElem?_concat_length
    | some old =>
      obtain ⟨hold, hemail⟩ := latest_eq_some hlatest
      have howner := ((hd.rows old hold).mono
        (List.prefix_append d.drawn [normalizedEmail input.email])).owner
      rw [hemail] at howner
      exact howner
  · intro hpassword
    cases hinput : orNull input.password with
    | none => simp [hinput] at hpassword
    | some password => exact ⟨password, by simp⟩
  intro other hother hsame
  cases hlatest : d.latest (normalizedEmail input.email) with
  | none => exact absurd hsame (latest_eq_none hlatest other hother)
  | some old =>
    obtain ⟨hold, hemail⟩ := latest_eq_some hlatest
    rw [hd.one old hold other hother (hsame.trans hemail.symm)]
    rfl

/-- What `refreshOwnerVerificationToken` saves. -/
theorem refreshToken_cases (hd : RegistrationsSound crypto d) (email : String)
    (number : Fin 1000000) :
    refreshToken crypto email (codeOf number) d = .nothing
      ∨ ∃ row, refreshToken crypto email (codeOf number) d = .staging row (codeOf number)
        ∧ StagingSound crypto d.drawn row ∧ row.consumedAt = none
        ∧ (∃ old ∈ d.stagings.rows, old.id = row.id)
        ∧ ∀ other ∈ d.stagings.rows, other.email = row.email → other.id = row.id := by
  unfold refreshToken
  cases hlatest : d.latest (normalizedEmail email) with
  | none => exact Or.inl rfl
  | some old =>
    simp only
    split
    · exact Or.inl rfl
    rename_i hopen
    obtain ⟨hold, -⟩ := latest_eq_some hlatest
    have hsound := hd.rows old hold
    refine Or.inr ⟨_, rfl, ⟨hsound.owner, hsound.lower, ⟨number, rfl⟩, hsound.sealed⟩, ?_,
      ⟨old, hold, rfl⟩, ?_⟩
    · simpa using fun h => hopen (Or.inl h)
    intro other hother hsame
    rw [hd.one old hold other hother hsame]

/-- The registration that a code finds is open. -/
theorem findStaging_eq_found :
    findStaging crypto token d = .found row
      ↔ d.stagings.find? (crypto.sha256 token) = some row ∧ row.consumedAt = none
        ∧ d.now ≤ row.verificationExpiresAt ∧ row.encryptedPassword ≠ "" := by
  unfold findStaging
  cases d.stagings.find? (crypto.sha256 token) with
  | none => simp
  | some row' =>
    simp only [Option.some.injEq]
    split
    · rename_i hclosed
      simp only [reduceCtorEq, false_iff]
      rintro ⟨rfl, hopen, hnow, -⟩
      rcases hclosed with hconsumed | hexpired
      · rw [hopen] at hconsumed
        cases hconsumed
      · omega
    rename_i hopen
    have hopen' : row'.consumedAt = none ∧ d.now ≤ row'.verificationExpiresAt := by
      simpa [not_or] using hopen
    split
    · rename_i hincomplete
      simp only [reduceCtorEq, false_iff]
      rintro ⟨rfl, -, -, hcomplete⟩
      exact hcomplete hincomplete
    rename_i hcomplete
    simp only [RegistrationPhase.found.injEq]
    constructor
    · rintro rfl
      exact ⟨rfl, hopen'.1, hopen'.2, hcomplete⟩
    · exact fun h => h.1

/-! ### Codes -/

/-- A save in the place of another row leaves a code, if there was one: what the row had. -/
theorem CodeLeft.save (h : CodeLeft crypto d) (hd : RegistrationsSound crypto d)
    (hsave : d.save row = some d') (hold : ∃ old ∈ d.stagings.rows, old.id = row.id) :
    CodeLeft crypto d' := by
  obtain ⟨hfree, -, hmem⟩ := save_eq_some hsave
  obtain ⟨number, hunused⟩ := h
  obtain ⟨old, hold, hid⟩ := hold
  by_cases hsame : row.verificationTokenHash = crypto.sha256 (codeOf number)
  · -- the code that was left is taken, and the old one is given back
    obtain ⟨number', hcode⟩ := (hd.rows old hold).coded
    refine ⟨number', ?_⟩
    intro r hr
    rw [← hcode]
    rcases (hmem r).1 hr with ⟨hr', hne⟩ | rfl
    · intro hcode'
      exact hne (Keyed.eq_of_key hr' hold hcode' ▸ hid)
    rw [RegistrationStores.stamped_verificationTokenHash, hsame]
    exact (hunused old hold).symm
  refine ⟨number, ?_⟩
  intro r hr
  rcases (hmem r).1 hr with ⟨hr', -⟩ | rfl
  · exact hunused r hr'
  rw [RegistrationStores.stamped_verificationTokenHash]
  exact hsame

/-- A new row leaves the other codes that were left. -/
theorem codeLeft_save_new (hsave : d.save row = some d') {other : Fin 1000000}
    (hunused : CodeUnused crypto other d)
    (hother : crypto.sha256 (codeOf other) ≠ row.verificationTokenHash) : CodeLeft crypto d' := by
  obtain ⟨-, -, hmem⟩ := save_eq_some hsave
  refine ⟨other, ?_⟩
  intro r hr
  rcases (hmem r).1 hr with ⟨hold, -⟩ | rfl
  · exact hunused r hold
  rw [RegistrationStores.stamped_verificationTokenHash]
  exact hother.symm

theorem CodeLeft.congr (h : CodeLeft crypto d) (hstagings : d'.stagings = d.stagings) :
    CodeLeft crypto d' := by
  obtain ⟨number, hunused⟩ := h
  refine ⟨number, ?_⟩
  rw [CodeUnused, hstagings]
  exact hunused

end Registrations

/-! ## What the requests keep -/

/-- The registrations are sound, ids were drawn, and who has consumed their registration owns a
tenant. -/
structure OnboardingOk (env : OnboardingEnv) (s : OnboardingStores) : Prop where
  registrations : RegistrationsSound env.crypto.toRegistrationCrypto s.registrations
  logins : LoginsDrawn s.registrations.drawn.length s.logins
  owners : ∀ row ∈ s.registrations.stagings.rows, row.consumedAt.isSome = true →
    ∃ tenantId, OwnerOf env row.email tenantId s.logins

section Keep
variable {env : OnboardingEnv} {s s' : OnboardingStores} {fault : Option Fault}
  {row : RegistrationStaging} {d : RegistrationStores} {token : String}

theorem OnboardingOk.mono (h : OnboardingOk env s) (hlogins : s'.logins = s.logins)
    (hstagings : s'.registrations.stagings = s.registrations.stagings)
    (hdrawn : s.registrations.drawn <+: s'.registrations.drawn) : OnboardingOk env s' where
  registrations := h.registrations.mono hstagings hdrawn
  logins := by
    rw [hlogins]
    exact h.logins.mono hdrawn.length_le
  owners := by
    rw [hlogins, hstagings]
    exact h.owners

/-- A registration that is open is saved. -/
theorem OnboardingOk.save (h : OnboardingOk env s) (hsave : s.registrations.save row = some d)
    (hrow : StagingSound env.crypto.toRegistrationCrypto s.registrations.drawn row)
    (hone : ∀ other ∈ s.registrations.stagings.rows, other.email = row.email → other.id = row.id)
    (hopen : row.consumedAt = none) : OnboardingOk env { s with registrations := d } where
  registrations := h.registrations.save hsave hrow hone
  logins := by
    rw [(save_eq_some hsave).2.1]
    exact h.logins
  owners r hr hconsumed := by
    rcases ((save_eq_some hsave).2.2 r).1 hr with ⟨hold, -⟩ | rfl
    · exact h.owners r hold hconsumed
    rw [RegistrationStores.stamped_consumedAt, hopen] at hconsumed
    cases hconsumed

/-- The registration is saved and its code is sent, or the code is not sent, or it is not saved. -/
theorem saveAndSend_cases (fault : Option Fault) (saveRefusal : UserRefusal)
    (mailFailed : OnboardingAnswer) (row : RegistrationStaging) (token : String)
    (d : RegistrationStores) :
    (saveAndSend fault saveRefusal mailFailed row token d).2 = d
      ∨ strikes fault .staging = false ∧ ∃ d', d.save row = some d'
        ∧ ((saveAndSend fault saveRefusal mailFailed row token d).2 = d'
          ∨ (saveAndSend fault saveRefusal mailFailed row token d).2
            = d'.send row.email token) := by
  unfold saveAndSend
  split
  · exact Or.inl rfl
  rename_i hstaging
  cases hsave : d.save row with
  | none => exact Or.inl rfl
  | some d' =>
    refine Or.inr ⟨Bool.eq_false_iff.2 hstaging, d', rfl, ?_⟩
    simp only
    split
    · exact Or.inl rfl
    · exact Or.inr rfl

/-- `registerStep1` leaves the registrations alone, or saves what is staged. -/
theorem registerStep1_cases (h : OnboardingOk env s) (number : Fin 1000000)
    (fault : Option Fault) (input : OwnerInput) :
    let s' := (registerStep1 env number fault input s).2
    s'.logins = s.logins
      ∧ (s'.registrations.stagings = s.registrations.stagings
          ∧ s.registrations.drawn <+: s'.registrations.drawn
        ∨ strikes fault .check = false ∧ strikes fault .staging = false ∧ ∃ row d,
          StagedFor env.crypto.toRegistrationCrypto input.passedOn number
            (s.registrations.now + 15 * 60000) s.registrations row
          ∧ (s.draw (normalizedEmail input.email)).registrations.save row = some d
          ∧ s'.registrations.stagings = d.stagings ∧ s'.registrations.drawn = d.drawn) := by
  intro s'
  have hdrawn : s.registrations.drawn
      <+: (s.draw (normalizedEmail input.email)).registrations.drawn := List.prefix_append _ _
  by_cases hcheck : strikes fault .check = true
  · have hs' : s' = s := by
      simp only [s', registerStep1, if_pos hcheck]
    rw [hs']
    exact ⟨rfl, Or.inl ⟨rfl, List.prefix_rfl⟩⟩
  rcases stageOwner_cases h.registrations input.passedOn number
    (s.registrations.now + 15 * 60000) with
    ⟨-, status, message, hfailed⟩ | ⟨-, row, hstaged, hrow⟩
  · have hs' : s' = s.draw (normalizedEmail input.email) := by
      simp only [s', registerStep1, if_neg hcheck, hfailed]
    rw [hs']
    exact ⟨rfl, Or.inl ⟨rfl, hdrawn⟩⟩
  obtain ⟨mailFailed, hs'⟩ : ∃ mailFailed, s' = { s with registrations :=
      (saveAndSend fault (400, "Failed to setup") mailFailed row (codeOf number)
        (s.draw (normalizedEmail input.email)).registrations).2 } := by
    simp only [s', registerStep1, if_neg hcheck, hstaged]
    exact ⟨_, rfl⟩
  rw [hs']
  refine ⟨rfl, ?_⟩
  rcases saveAndSend_cases fault (400, "Failed to setup") mailFailed row (codeOf number)
    (s.draw (normalizedEmail input.email)).registrations with hnot | ⟨hstaging, d, hsave, hd⟩
  · rw [hnot]
    exact Or.inl ⟨rfl, hdrawn⟩
  refine Or.inr ⟨Bool.eq_false_iff.2 hcheck, hstaging, row, d, hrow, hsave, ?_⟩
  rcases hd with hd | hd <;> rw [hd] <;> exact ⟨rfl, rfl⟩

theorem OnboardingOk.draw (h : OnboardingOk env s) (email : String) :
    OnboardingOk env (s.draw email) := h.mono rfl rfl (List.prefix_append _ _)

theorem registerStep1_ok (h : OnboardingOk env s) (number : Fin 1000000) (fault : Option Fault)
    (input : OwnerInput) : OnboardingOk env (registerStep1 env number fault input s).2 := by
  obtain ⟨hlogins, ⟨hstagings, hdrawn⟩ | ⟨-, -, row, d, hrow, hsave, hstagings, hdrawn⟩⟩ :=
    registerStep1_cases h number fault input
  · exact h.mono hlogins hstagings hdrawn
  refine ((h.draw _).save hsave hrow.sound hrow.one hrow.opened).mono hlogins hstagings ?_
  rw [hdrawn]

theorem registerStep1_left (h : OnboardingOk env s) {number : Fin 1000000} {input : OwnerInput}
    (hleft : CodeLeft env.crypto.toRegistrationCrypto s.registrations)
    (hgo : OnboardingGoesOn env s (.register number fault input)) :
    CodeLeft env.crypto.toRegistrationCrypto
      (registerStep1 env number fault input s).2.registrations := by
  obtain ⟨-, ⟨hstagings, -⟩ | ⟨hcheck, hstaging, row, d, hrow, hsave, hstagings, -⟩⟩ :=
    registerStep1_cases h number fault input
  · exact hleft.congr hstagings
  refine CodeLeft.congr ?_ hstagings
  by_cases hnew : ∀ row ∈ s.registrations.stagings.rows,
      row.email ≠ normalizedEmail input.email
  · obtain ⟨other, hunused, hother⟩ := hgo hcheck hstaging hnew
    exact codeLeft_save_new hsave hunused (hrow.code ▸ hother)
  push Not at hnew
  obtain ⟨old, hold, hemail⟩ := hnew
  have hleft' : CodeLeft env.crypto.toRegistrationCrypto
      (s.draw (normalizedEmail input.email)).registrations := hleft
  exact hleft'.save (h.draw (normalizedEmail input.email)).registrations hsave
    ⟨old, hold, hrow.one old hold (hemail.trans hrow.email.symm)⟩

/-- `resendVerificationEmail` leaves the registrations alone, or saves one with another code. -/
theorem resendVerificationEmail_cases (h : OnboardingOk env s) (number : Fin 1000000)
    (fault : Option Fault) (email : String) :
    (resendVerificationEmail env number fault email s).2 = s
      ∨ ∃ row d, StagingSound env.crypto.toRegistrationCrypto s.registrations.drawn row
        ∧ row.consumedAt = none ∧ (∃ old ∈ s.registrations.stagings.rows, old.id = row.id)
        ∧ (∀ other ∈ s.registrations.stagings.rows, other.email = row.email → other.id = row.id)
        ∧ s.registrations.save row = some d
        ∧ ((resendVerificationEmail env number fault email s).2 = { s with registrations := d }
          ∨ (resendVerificationEmail env number fault email s).2
            = { s with registrations := d.send row.email (codeOf number) }) := by
  unfold resendVerificationEmail
  rcases refreshToken_cases h.registrations email number with
    hnothing | ⟨row, hstaged, hsound, hopen, hold, hone⟩
  · rw [hnothing]
    exact Or.inl rfl
  rw [hstaged]
  simp only
  rcases saveAndSend_cases fault (500, "Internal server error")
    (faultAnswer fault (500, "Internal server error")) row (codeOf number) s.registrations with
    hnot | ⟨-, d, hsave, hd⟩
  · rw [hnot]
    exact Or.inl rfl
  refine Or.inr ⟨row, d, hsound, hopen, hold, hone, hsave, ?_⟩
  rcases hd with hd | hd <;> rw [hd]
  · exact Or.inl rfl
  · exact Or.inr rfl

theorem resendVerificationEmail_ok (h : OnboardingOk env s) (number : Fin 1000000)
    (fault : Option Fault) (email : String) :
    OnboardingOk env (resendVerificationEmail env number fault email s).2 := by
  rcases resendVerificationEmail_cases h number fault email with
    hs' | ⟨row, d, hsound, hopen, -, hone, hsave, hs' | hs'⟩ <;> rw [hs']
  · exact h
  · exact h.save hsave hsound hone hopen
  · exact (h.save hsave hsound hone hopen).mono rfl rfl List.prefix_rfl

theorem resendVerificationEmail_left (h : OnboardingOk env s) (number : Fin 1000000)
    (fault : Option Fault) (email : String)
    (hleft : CodeLeft env.crypto.toRegistrationCrypto s.registrations) :
    CodeLeft env.crypto.toRegistrationCrypto
      (resendVerificationEmail env number fault email s).2.registrations := by
  rcases resendVerificationEmail_cases h number fault email with
    hs' | ⟨row, d, -, -, hold, -, hsave, hs' | hs'⟩ <;> rw [hs']
  · exact hleft
  · exact hleft.save h.registrations hsave hold
  · exact (hleft.save h.registrations hsave hold).congr rfl

/-! ### Verification -/

def OnboardingStores.tenantFor (env : OnboardingEnv) (row : RegistrationStaging)
    (s : OnboardingStores) : SchoolTenant :=
  tenantOf env.crypto.toRegistrationCrypto row s.registrations.drawn.length

theorem tenantFor_slug (env : OnboardingEnv) (row : RegistrationStaging) (s : OnboardingStores) :
    (s.tenantFor env row).slug = row.slug := tenantOf_slug _ _ _

/-- A tenant is saved when its slug is free. -/
theorem saveTenant_cases (tenant : SchoolTenant) (s : OnboardingStores) :
    s.saveTenant tenant = none ∧ s.registrations.tenants.find? tenant.slug ≠ none
      ∨ s.registrations.tenants.find? tenant.slug = none ∧ ∃ saved, s.saveTenant tenant = some saved
        ∧ saved.logins = { s.logins with tenants := s.logins.tenants.put tenant.owned }
        ∧ saved.registrations.stagings = s.registrations.stagings
        ∧ saved.registrations.drawn = s.registrations.drawn
        ∧ saved.registrations.now = s.registrations.now := by
  unfold OnboardingStores.saveTenant
  cases hinsert : s.registrations.tenants.insert? tenant with
  | none => exact Or.inl ⟨rfl, Keyed.insert?_eq_none hinsert⟩
  | some tenants => exact Or.inr ⟨(Keyed.insert?_eq_some hinsert).1, _, rfl, rfl, rfl, rfl, rfl⟩

/-- `verifyOwnerEmail` leaves nothing, or the tenant alone, or the tenant with the registration
consumed. -/
theorem verifyOwnerEmail_cases (fault : Option Fault) (token : String) (s : OnboardingStores) :
    (∃ answer, verifyOwnerEmail env fault token s = (.error answer, s))
      ∧ (∀ row, findStaging env.crypto.toRegistrationCrypto token s.registrations = .found row →
        strikes fault .tenant = true ∨ s.registrations.tenants.find? row.slug ≠ none)
    ∨ ∃ row saved, findStaging env.crypto.toRegistrationCrypto token s.registrations = .found row
      ∧ s.registrations.tenants.find? row.slug = none
      ∧ (s.draw row.email).saveTenant (s.tenantFor env row) = some saved
      ∧ ((∃ answer, verifyOwnerEmail env fault token s = (.error answer, saved))
          ∧ (strikes fault .consumption = true ∨ saved.registrations.save
            { row with consumedAt := some saved.registrations.now } = none)
        ∨ ∃ registrations, saved.registrations.save
            { row with consumedAt := some saved.registrations.now } = some registrations
          ∧ verifyOwnerEmail env fault token s
            = (.ok (s.tenantFor env row), { saved with registrations })) := by
  unfold verifyOwnerEmail
  cases hfind : findStaging env.crypto.toRegistrationCrypto token s.registrations with
  | found row =>
    simp only
    by_cases htenant : strikes fault .tenant = true
    · rw [if_pos htenant]
      exact Or.inl ⟨⟨_, rfl⟩, fun _ _ => Or.inl htenant⟩
    have htenantFor : tenantOf env.crypto.toRegistrationCrypto row
        s.registrations.drawn.length = s.tenantFor env row := rfl
    rw [if_neg htenant, htenantFor]
    have hcases := saveTenant_cases (s.tenantFor env row) (s.draw row.email)
    rw [tenantFor_slug] at hcases
    rcases hcases with ⟨hnone, htaken⟩ | ⟨hfree, saved, hsaved, -⟩
    · rw [hnone]
      refine Or.inl ⟨⟨_, rfl⟩, ?_⟩
      rintro row' hrow'
      cases hrow'
      exact Or.inr htaken
    rw [hsaved]
    refine Or.inr ⟨row, saved, rfl, hfree, hsaved, ?_⟩
    simp only
    by_cases hconsumption : strikes fault .consumption = true
    · rw [if_pos hconsumption]
      exact Or.inl ⟨⟨_, rfl⟩, Or.inl hconsumption⟩
    rw [if_neg hconsumption]
    cases hsave : saved.registrations.save
        { row with consumedAt := some saved.registrations.now } with
    | none => exact Or.inl ⟨⟨_, rfl⟩, Or.inr rfl⟩
    | some registrations => exact Or.inr ⟨registrations, rfl, rfl⟩
  | starting | drawn | staging | sent | nothing | consuming | verified | failed =>
    exact Or.inl ⟨⟨_, rfl⟩, by simp⟩

/-- **What a verification leaves**: nothing; the tenant alone; or the tenant with the registration
consumed, and what onboarding makes of them. -/
theorem verifyEmail_cases (fault : Option Fault) (token : String) (s : OnboardingStores) :
    let s' := (verifyEmail env fault token s).2
    s' = s ∧ (∀ row,
        findStaging env.crypto.toRegistrationCrypto token s.registrations = .found row →
          strikes fault .tenant = true ∨ s.registrations.tenants.find? row.slug ≠ none)
    ∨ ∃ row saved, findStaging env.crypto.toRegistrationCrypto token s.registrations = .found row
      ∧ s.registrations.tenants.find? row.slug = none
      ∧ (s.draw row.email).saveTenant (s.tenantFor env row) = some saved
      ∧ (s' = saved ∧ (strikes fault .consumption = true
          ∨ saved.registrations.save { row with consumedAt := some saved.registrations.now } = none)
        ∨ ∃ registrations, saved.registrations.save
              { row with consumedAt := some saved.registrations.now } = some registrations
          ∧ s' = if controlFails env fault then { saved with registrations }
            else finishVerifiedTenantOnboarding fault (s.tenantFor env row) (lowerCase row.email)
              { saved with registrations }) := by
  intro s'
  rcases verifyOwnerEmail_cases fault token s with
    ⟨⟨answer, herror⟩, hwhy⟩ | ⟨row, saved, hfound, hfree, hsaved, hend⟩
  · refine Or.inl ⟨?_, hwhy⟩
    simp only [s', verifyEmail, herror]
  refine Or.inr ⟨row, saved, hfound, hfree, hsaved, ?_⟩
  rcases hend with ⟨⟨answer, herror⟩, hwhy⟩ | ⟨registrations, hsave, hok⟩
  · refine Or.inl ⟨?_, hwhy⟩
    simp only [s', verifyEmail, herror]
  refine Or.inr ⟨registrations, hsave, ?_⟩
  simp only [s', verifyEmail, hok]
  split <;> rfl

theorem OwnerOf.isDrawn {email tenantId : String} {d : LoginStores} {n : ℕ}
    (h : OwnerOf env email tenantId d) (hd : LoginsDrawn n d) :
    IsDrawn generateTenantId n tenantId := by
  obtain ⟨tenant, htenant, -⟩ := h.ready
  obtain ⟨hmem, rfl⟩ := Keyed.find?_eq_some.1 htenant
  obtain ⟨k, hk, hid, -⟩ := hd.tenants tenant hmem
  exact ⟨k, hk, hid⟩

/-- The tenant is saved under the next id, which leaves the others alone. -/
theorem saveTenant_ok (h : OnboardingOk env s) {saved : OnboardingStores}
    (hsaved : (s.draw row.email).saveTenant (s.tenantFor env row) = some saved) :
    OnboardingOk env saved ∧ TenantSaved (s.tenantFor env row) saved.logins
      ∧ saved.registrations.stagings = s.registrations.stagings
      ∧ saved.registrations.drawn = s.registrations.drawn ++ [row.email]
      ∧ ∀ email tenantId, tenantId ≠ (s.tenantFor env row).owned.id →
        Untouched email tenantId s.logins saved.logins := by
  rcases saveTenant_cases (s.tenantFor env row) (s.draw row.email) with
    ⟨hnone, -⟩ | ⟨-, saved', hsaved', hlogins, hstagings, hdrawn, -⟩
  · rw [hnone] at hsaved
    cases hsaved
  obtain rfl : saved = saved' := Option.some.inj (hsaved.symm.trans hsaved')
  have huntouched : ∀ email tenantId, tenantId ≠ (s.tenantFor env row).owned.id →
      Untouched email tenantId s.logins saved.logins := by
    intro email tenantId hne
    rw [hlogins]
    refine untouched_tenants email ?_
    rw [Keyed.find?_put, if_neg hne.symm]
    rfl
  refine ⟨⟨?_, ?_, ?_⟩, ⟨?_, ?_, ?_⟩, hstagings, hdrawn, huntouched⟩
  · refine h.registrations.mono hstagings ?_
    rw [hdrawn]
    exact List.prefix_append _ _
  · rw [hlogins, hdrawn, show (s.draw row.email).registrations.drawn
      = s.registrations.drawn ++ [row.email] from rfl, List.length_append]
    have hstatus : (s.tenantFor env row).owned.status ≠ "active" := by
      rw [show (s.tenantFor env row).owned.status = "pending_verification" from rfl]
      decide
    exact h.logins.saveTenant rfl rfl hstatus
  · rw [hstagings]
    intro r hr hconsumed
    obtain ⟨tenantId, howner⟩ := h.owners r hr hconsumed
    have hne := (howner.isDrawn h.logins).ne generateTenantId_injective le_rfl
    exact ⟨tenantId, howner.untouched (huntouched r.email tenantId hne)⟩
  · rw [hlogins]
    exact Keyed.mem_put.2 (Or.inr rfl)
  · rw [hlogins]
    intro m hm
    exact (h.logins.mappings m hm).2.ne generateTenantId_injective le_rfl
  rw [hlogins]
  by_contra husers
  exact (h.logins.users _ husers).ne generateTenantId_injective le_rfl rfl

theorem finishVerifiedTenantOnboarding_registrations (fault : Option Fault) (tenant : SchoolTenant)
    (email : String) (s : OnboardingStores) :
    (finishVerifiedTenantOnboarding fault tenant email s).registrations
      = (s.draw email).registrations := by
  unfold finishVerifiedTenantOnboarding
  simp only
  split <;> rfl

/-- **A verification that goes on leaves an owner who can log in.** -/
theorem finished_ok (h : OnboardingOk env s) {saved : OnboardingStores} {now : ℕ}
    (hfound : findStaging env.crypto.toRegistrationCrypto token s.registrations = .found row)
    (hsaved : (s.draw row.email).saveTenant (s.tenantFor env row) = some saved)
    (hsave : saved.registrations.save { row with consumedAt := some now } = some d)
    (habandons : abandons env fault = false) :
    let s' := finishVerifiedTenantOnboarding fault (s.tenantFor env row) (lowerCase row.email)
      { saved with registrations := d }
    OnboardingOk env s' ∧ (∃ tenantId, OwnerOf env row.email tenantId s'.logins)
      ∧ s'.registrations.stagings = d.stagings := by
  obtain ⟨hok, htenant, hstagings, hdrawn, huntouched⟩ := saveTenant_ok h hsaved
  obtain ⟨hfind, -, -, hcomplete⟩ := findStaging_eq_found.1 hfound
  have hrow : row ∈ s.registrations.stagings.rows := (Keyed.find?_eq_some.1 hfind).1
  have hsound := hok.registrations.rows row (hstagings ▸ hrow)
  rw [hsound.lower]
  intro s'
  obtain ⟨password, hsealed⟩ := hsound.sealed hcomplete
  obtain ⟨-, hd, hmem⟩ := save_eq_some hsave
  have hd' : d.drawn = saved.registrations.drawn := by rw [hd]
  have hregistrations : s'.registrations
      = (OnboardingStores.draw { saved with registrations := d } row.email).registrations :=
    finishVerifiedTenantOnboarding_registrations _ _ _ _
  have hpassword : env.crypto.hashPassword password
      = (s.tenantFor env row).ownerStagedPasswordHash := by
    rw [OnboardingStores.tenantFor, tenantOf, hsealed, env.crypto.decrypt_encrypt]
  have hlast : (s.tenantFor env row).id < d.drawn.length := by
    rw [hd', hdrawn, List.length_append]
    exact Nat.lt_succ_self _
  obtain ⟨howner, hlogins, hothers⟩ := finishVerifiedTenantOnboarding_owner
    (s := { saved with registrations := d }) habandons (hd' ▸ hok.logins) hlast htenant
    hsound.lower rfl rfl hpassword
  refine ⟨⟨?_, hlogins, ?_⟩, ⟨_, howner⟩, ?_⟩
  · have hsaveSound := hok.registrations.save hsave
      ⟨hsound.owner, hsound.lower, hsound.coded, hsound.sealed⟩
      fun other hother hsame => by
        rw [hok.registrations.one row (hstagings ▸ hrow) other hother hsame]
    rw [hregistrations]
    exact hsaveSound.mono rfl (List.prefix_append _ _)
  · rw [hregistrations]
    intro r hr hconsumed
    rcases (hmem r).1 hr with ⟨hold, hid⟩ | rfl
    · -- the owner of another address
      rw [hstagings] at hold
      obtain ⟨tenantId, hother⟩ := h.owners r hold hconsumed
      have hne := (hother.isDrawn h.logins).ne generateTenantId_injective le_rfl
      have hemail : r.email ≠ row.email := by
        intro hsame
        rw [h.registrations.one row hrow r hold hsame] at hid
        exact hid rfl
      exact ⟨tenantId, (hother.untouched (huntouched r.email tenantId hne)).untouched
        (hothers r.email tenantId hemail hne)⟩
    rw [RegistrationStores.stamped_email]
    exact ⟨_, howner⟩
  rw [hregistrations]
  rfl

theorem verifyEmail_ok (h : OnboardingOk env s)
    (hgo : OnboardingGoesOn env s (.verify fault token)) :
    OnboardingOk env (verifyEmail env fault token s).2 := by
  rcases verifyEmail_cases fault token s with
    ⟨hs', -⟩ | ⟨row, saved, hfound, hfree, hsaved, ⟨hs', -⟩ | ⟨d, hsave, hs'⟩⟩ <;> rw [hs']
  · exact h
  · exact (saveTenant_ok h hsaved).1
  have habandons := hgo row hfound hfree
  have hcontrol : controlFails env fault = false := by
    simp only [abandons, Bool.or_eq_false_iff] at habandons
    exact habandons.1.1.1.1.1
  rw [if_neg (Bool.eq_false_iff.1 hcontrol)]
  exact (finished_ok h hfound hsaved hsave habandons).1

theorem verifyEmail_left (h : OnboardingOk env s) (fault : Option Fault) (token : String)
    (hleft : CodeLeft env.crypto.toRegistrationCrypto s.registrations) :
    CodeLeft env.crypto.toRegistrationCrypto (verifyEmail env fault token s).2.registrations := by
  rcases verifyEmail_cases fault token s with
    ⟨hs', -⟩ | ⟨row, saved, hfound, -, hsaved, ⟨hs', -⟩ | ⟨d, hsave, hs'⟩⟩ <;> rw [hs']
  · exact hleft
  · exact hleft.congr (saveTenant_ok h hsaved).2.2.1
  obtain ⟨hok, -, hstagings, -⟩ := saveTenant_ok h hsaved
  have hrow : row ∈ saved.registrations.stagings.rows := by
    rw [hstagings]
    exact (Keyed.find?_eq_some.1 (findStaging_eq_found.1 hfound).1).1
  have hsaveLeft := (hleft.congr hstagings).save hok.registrations hsave ⟨row, hrow, rfl⟩
  split
  · exact hsaveLeft
  rw [finishVerifiedTenantOnboarding_registrations]
  exact hsaveLeft.congr rfl

/-- **A verification without a fault brings the owner in**, when the slug is free. -/
theorem verifyEmail_completes (h : OnboardingOk env s)
    (hfound : findStaging env.crypto.toRegistrationCrypto token s.registrations = .found row)
    (hfree : s.registrations.tenants.find? row.slug = none) :
    CanLogIn env row.email (verifyEmail env none token s).2 := by
  rcases verifyEmail_cases none token s with
    ⟨-, hwhy⟩ | ⟨row', saved, hfound', -, hsaved, hend⟩
  · rcases hwhy row hfound with hstrikes | htaken
    · cases hstrikes
    · exact absurd hfree htaken
  obtain rfl : row' = row := by
    rw [hfound] at hfound'
    exact (RegistrationPhase.found.inj hfound').symm
  have hrow : row' ∈ saved.registrations.stagings.rows := by
    rw [(saveTenant_ok h hsaved).2.2.1]
    exact (Keyed.find?_eq_some.1 (findStaging_eq_found.1 hfound).1).1
  rcases hend with ⟨-, hstrikes | hnone⟩ | ⟨d, hsave, hs'⟩
  · cases hstrikes
  · -- no other registration has the code
    refine absurd ?_ (not_codeFree hnone)
    intro other hother hsame
    rw [Keyed.eq_of_key hother hrow hsame]
  have hcontrol : controlFails env none = false := by
    simp [controlFails, strikes]
  rw [hs', hcontrol, if_neg Bool.false_ne_true]
  have habandons : abandons env none = false := by
    simp [abandons, hcontrol, strikes, releaseFault]
  obtain ⟨hok, ⟨tenantId, howner⟩, -⟩ := finished_ok h hfound hsaved hsave habandons
  have hlower := (h.registrations.rows row'
    (Keyed.find?_eq_some.1 (findStaging_eq_found.1 hfound).1).1).lower
  exact howner.login hlower

end Keep

end MultiAcademy.School
