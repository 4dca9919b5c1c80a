import MultiAcademy.Lib.Flight
import MultiAcademy.School.AcademicCalendar
import MultiAcademy.School.SchoolSession

/-!
# School registrations

`control-plane/control-plane.service.ts`: `createTenantWithOwnerStaging`,
`refreshOwnerVerificationToken` and `verifyOwnerEmail`, as the steps between two awaits, and
the answers that `auth.service.ts` makes of their errors.  `verification_token_hash` and the
slug of a tenant are unique columns, so a save that repeats one of them fails.  A registration
is saved as it was read, whatever was written since.
-/

namespace MultiAcademy.School

open MultiAcademy.Lib

/-! ## The tables -/

/-- A row of `registration_staging`. -/
structure RegistrationStaging where
  id : ℕ
  fullName : String := ""
  email : String := ""
  phone : Option String := none
  installTokenHash : Option String := none
  deviceHash : Option String := none
  organizationName : String := ""
  schoolLevels : List String := []
  encryptedPassword : String := ""
  verificationTokenHash : String := ""
  verificationExpiresAt : ℕ := 0
  consumedAt : Option ℕ := none
  createdAt : ℕ := 0
  deriving DecidableEq

/-- `ownerRegistrationPayloadJson`. -/
structure OwnerPayload where
  fullName : String
  email : String
  phone : Option String
  installTokenHash : Option String
  deviceHash : Option String
  stagedAt : ℕ
  deriving DecidableEq

/-- A row of `tenants_configs`, and the registration that it comes from. -/
structure SchoolTenant where
  id : ℕ
  slug : String
  name : String
  status : String := "pending_verification"
  schoolLevels : List String
  ownerRegistrationPayload : OwnerPayload
  ownerStagedPasswordHash : String
  ownerEmailVerified : Bool := true
  provisioningStatus : String := "pending"
  registrationId : ℕ
  deriving DecidableEq

structure SentCode where
  token : String
  sentAt : ℕ

/-- The clock in milliseconds, the tables, the code last sent to each address, and the addresses
that ids were drawn for. -/
structure RegistrationStores where
  now : ℕ
  stagings : Keyed RegistrationStaging.verificationTokenHash := .empty
  tenants : Keyed SchoolTenant.slug := .empty
  lastSent : String → Option SentCode := fun _ => none
  drawn : List String := []

namespace RegistrationStores

/-- A row that is new is stamped with the time. -/
def stamped (row : RegistrationStaging) (d : RegistrationStores) : RegistrationStaging :=
  if d.stagings.rows.any fun other => other.id = row.id then row
  else { row with createdAt := d.now }

@[simp] theorem stamped_id (row : RegistrationStaging) (d : RegistrationStores) :
    (d.stamped row).id = row.id := by
  simp only [stamped]
  split <;> rfl

@[simp] theorem stamped_consumedAt (row : RegistrationStaging) (d : RegistrationStores) :
    (d.stamped row).consumedAt = row.consumedAt := by
  simp only [stamped]
  split <;> rfl

@[simp] theorem stamped_email (row : RegistrationStaging) (d : RegistrationStores) :
    (d.stamped row).email = row.email := by
  simp only [stamped]
  split <;> rfl

@[simp] theorem stamped_verificationTokenHash (row : RegistrationStaging)
    (d : RegistrationStores) :
    (d.stamped row).verificationTokenHash = row.verificationTokenHash := by
  simp only [stamped]
  split <;> rfl

/-- `stagingRepo.save(staging)`: the row is inserted, or written over the row of its id; `none`
when another row has its code. -/
def save (row : RegistrationStaging) (d : RegistrationStores) : Option RegistrationStores :=
  ((d.stagings.deleteWhere fun other => other.id = row.id).insert? (d.stamped row)).map
    fun stagings => { d with stagings }

/-- The code is sent. -/
def send (email token : String) (d : RegistrationStores) : RegistrationStores :=
  { d with
    lastSent := fun address =>
      if address = email then some { token, sentAt := d.now } else d.lastSent address }

/-- `find({ where: { email }, order: { createdAt: 'DESC' } })`, its first row. -/
def latest (email : String) (d : RegistrationStores) : Option RegistrationStaging :=
  (d.stagings.rows.filter fun row => row.email = email).maxOn? RegistrationStaging.createdAt

end RegistrationStores

/-! ## The requests -/

/-- The hash of a code, and how passwords are kept. -/
structure RegistrationCrypto where
  sha256 : String → String
  encrypt : String → String
  decrypt : String → String
  hashPassword : String → String

structure OwnerInput where
  organizationName : Option String := none
  schoolLevels : List String := []
  fullName : String
  email : String
  password : Option String := none
  phone : Option String := none
  installToken : Option String := none
  deviceHash : Option String := none
  deriving DecidableEq

inductive RegistrationRequest
  | register (input : OwnerInput)
  | refresh (email : String)
  | verify (token : String)
  deriving DecidableEq

/-- Where a request is. -/
inductive RegistrationPhase
  | starting
  | drawn (token : String) (expiresAt id : ℕ)
  | staging (row : RegistrationStaging) (token : String)
  | sent (registrationId : ℕ) (token : String)
  | nothing
  | found (row : RegistrationStaging)
  | consuming (row : RegistrationStaging) (tenant : SchoolTenant)
  | verified (tenant : SchoolTenant)
  | failed (status : ℕ) (message : String)
  deriving DecidableEq

structure RegistrationCall where
  request : RegistrationRequest
  phase : RegistrationPhase := .starting
  deriving DecidableEq

/-- `email.toLowerCase().trim()`. -/
def normalizedEmail (email : String) : String := trim email.toLower

/-- `randomInt(0, 1_000_000).toString().padStart(6, '0')`. -/
def codeOf (number : Fin 1000000) : String :=
  let digits := Nat.toDigits 10 number
  String.ofList (List.replicate (6 - digits.length) '0' ++ digits)

/-- `[a-z0-9]`. -/
def isSlugChar (c : Char) : Bool := c.isLower || c.isDigit

/-- `replace(/[^a-z0-9]+/g, '-')`. -/
def dashes : List Char → List Char
  | [] => []
  | c :: cs =>
    if isSlugChar c then c :: dashes cs
    else match dashes cs with
      | '-' :: rest => '-' :: rest
      | rest => '-' :: rest

/-- `replace(/(^-|-$)/g, '')`. -/
def stripDashes (cs : List Char) : List Char :=
  ((cs.dropWhile (· = '-')).reverse.dropWhile (· = '-')).reverse

def generateSlugFromName (name : String) : String :=
  String.ofList (stripDashes (dashes (trim name.toLower).toList))

/-- `slugBase || 'organization'`. -/
def ensureUniqueSlug (slugBase : String) : String :=
  if slugBase = "" then "organization" else slugBase

def RegistrationStaging.slug (row : RegistrationStaging) : String :=
  ensureUniqueSlug (generateSlugFromName row.organizationName)

section Crypto
variable (crypto : RegistrationCrypto)

/-- `createTenantWithOwnerStaging`, from the rows of the address to the save. -/
def stageOwner (input : OwnerInput) (token : String) (expiresAt id : ℕ)
    (d : RegistrationStores) : RegistrationPhase :=
  let email := normalizedEmail input.email
  if d.stagings.rows.any fun row => row.email = email && row.consumedAt.isSome then
    .failed 409 ("This email is already associated with a completed school registration. "
      ++ "Please use a different email address.")
  else
    .staging
      { (d.latest email).getD { id } with
        fullName := input.fullName
        email
        phone := orNull input.phone
        installTokenHash := (orNull input.installToken).map crypto.sha256
        deviceHash := orNull input.deviceHash
        organizationName := textOrElse input.organizationName (input.fullName ++ "'s Organization")
        schoolLevels := input.schoolLevels
        encryptedPassword := ((orNull input.password).map crypto.encrypt).getD ""
        verificationTokenHash := crypto.sha256 token
        verificationExpiresAt := expiresAt
        consumedAt := none }
      token

/-- `refreshOwnerVerificationToken`, up to the save. -/
def refreshToken (email token : String) (d : RegistrationStores) : RegistrationPhase :=
  match d.latest (normalizedEmail email) with
  | none => .nothing
  | some row =>
    if row.consumedAt.isSome ∨ row.encryptedPassword = "" then .nothing
    else
      .staging
        { row with
          verificationTokenHash := crypto.sha256 token
          verificationExpiresAt := d.now + 15 * 60000 }
        token

/-- `verifyOwnerEmail`, up to the tenant. -/
def findStaging (token : String) (d : RegistrationStores) : RegistrationPhase :=
  match d.stagings.find? (crypto.sha256 token) with
  | none => .failed 400 "Invalid or expired verification code"
  | some row =>
    if row.consumedAt.isSome ∨ row.verificationExpiresAt < d.now then
      .failed 400 "Invalid or expired verification code"
    else if row.encryptedPassword = "" then .failed 400 "Registration details are incomplete"
    else .found row

/-- The tenant that `verifyOwnerEmail` makes of a registration. -/
def tenantOf (row : RegistrationStaging) (id : ℕ) : SchoolTenant where
  id
  slug := row.slug
  name := row.organizationName
  schoolLevels := row.schoolLevels
  ownerRegistrationPayload :=
    { fullName := row.fullName
      email := row.email
      phone := row.phone
      installTokenHash := orNull row.installTokenHash
      deviceHash := orNull row.deviceHash
      stagedAt := row.createdAt }
  ownerStagedPasswordHash := crypto.hashPassword (crypto.decrypt row.encryptedPassword)
  registrationId := row.id

@[simp] theorem tenantOf_slug (row : RegistrationStaging) (id : ℕ) :
    (tenantOf crypto row id).slug = row.slug := by
  simp only [tenantOf]

@[simp] theorem tenantOf_registrationId (row : RegistrationStaging) (id : ℕ) :
    (tenantOf crypto row id).registrationId = row.id := rfl

def RegistrationRequest.saveFailed : RegistrationRequest → RegistrationPhase
  | .register _ => .failed 400 "Failed to setup"
  | .refresh _ => .failed 500 "Internal server error"
  | .verify _ => .failed 400 "Unable to verify email"

/-- The next step of a request; `number` is what `randomInt` gives. -/
def registrationStep (number : Fin 1000000) (request : RegistrationRequest)
    (phase : RegistrationPhase) (d : RegistrationStores) :
    RegistrationPhase × RegistrationStores :=
  match request, phase with
  | .register input, .starting =>
    (.drawn (codeOf number) (d.now + 15 * 60000) d.drawn.length,
      { d with drawn := d.drawn ++ [normalizedEmail input.email] })
  | .register input, .drawn token expiresAt id =>
    (stageOwner crypto input token expiresAt id d, d)
  | .refresh email, .starting => (refreshToken crypto email (codeOf number) d, d)
  | .verify token, .starting => (findStaging crypto token d, d)
  | request, .staging row token =>
    match d.save row with
    | none => (request.saveFailed, d)
    | some d' => (.sent row.id token, d'.send row.email token)
  | request, .found row =>
    match d.tenants.insert? (tenantOf crypto row d.drawn.length) with
    | none => (request.saveFailed, d)
    | some tenants =>
      (.consuming row (tenantOf crypto row d.drawn.length),
        { d with tenants, drawn := d.drawn ++ [row.email] })
  | request, .consuming row tenant =>
    match d.save { row with consumedAt := some d.now } with
    | none => (request.saveFailed, d)
    | some d' => (.verified tenant, d')
  | _, phase => (phase, d)

/-- The requests of all owners; besides them, time goes by. -/
def registrationService :
    Service RegistrationRequest (Fin 1000000) ℕ RegistrationStores RegistrationCall where
  start request := { request }
  next number call d :=
    let next := registrationStep crypto number call.request call.phase d
    ({ call with phase := next.1 }, next.2)
  other milliseconds d := { d with now := d.now + milliseconds }

abbrev RegistrationState := Flight RegistrationStores RegistrationCall
abbrev RegistrationEvent := FlightEvent RegistrationRequest (Fin 1000000) ℕ

/-! ## What a code is for -/

/-- The code was the last that was sent to the address, within 15 minutes. -/
def RegistrationStores.InMail (d : RegistrationStores) (email : String) (sent : SentCode) : Prop :=
  d.lastSent email = some sent ∧ d.now ≤ sent.sentAt + 15 * 60000

/-- A code in the mail finds a registration of the address that it was sent to, or none. -/
def CodesOwn (d : RegistrationStores) : Prop :=
  ∀ email sent, d.InMail email sent →
    ∀ row ∈ d.stagings.find? (crypto.sha256 sent.token), row.email = email

/-- The registration that a code was last sent for still has the code, or is consumed. -/
def CodesKept (d : RegistrationStores) : Prop :=
  ∀ email sent, d.lastSent email = some sent → ∃ row ∈ d.stagings.rows,
    row.email = email
      ∧ (row.verificationTokenHash = crypto.sha256 sent.token ∨ row.consumedAt.isSome = true)

def tenantsOf (registrationId : ℕ) (d : RegistrationStores) : ℕ :=
  d.tenants.rows.countP fun tenant => tenant.registrationId = registrationId

def RegistrationPhase.hasFailed : RegistrationPhase → Bool
  | .failed _ _ => true
  | _ => false

def RegistrationStores.CodeFree (d : RegistrationStores) (row : RegistrationStaging) : Prop :=
  ∀ other ∈ d.stagings.rows,
    other.verificationTokenHash = row.verificationTokenHash → other.id = row.id

/-- A code that is saved is not in the mail to another address. -/
def GivesOwn (row : RegistrationStaging) (d : RegistrationStores) : Prop :=
  d.CodeFree row → ∀ email sent, d.InMail email sent →
    crypto.sha256 sent.token = row.verificationTokenHash → row.email = email

/-- A registration that was found by its code fails only if it has given a tenant already, and
with its tenant it is completed. -/
def RegistrationCall.Completes (number : Fin 1000000) (call : RegistrationCall)
    (d : RegistrationStores) : Prop :=
  match call.phase with
  | .found row =>
    (registrationStep crypto number call.request call.phase d).1.hasFailed = true →
      0 < tenantsOf row.id d
  | .consuming _ tenant =>
    (registrationStep crypto number call.request call.phase d).1 = .verified tenant
  | _ => True

/-- The code is not in the mail to another address; the slug of a tenant is in use if and only
if the registration has given a tenant already; the registration is consumed whose code no
other has. -/
def RegistrationCall.Unhindered (call : RegistrationCall) (d : RegistrationStores) : Prop :=
  match call.phase with
  | .staging row _ => GivesOwn crypto row d
  | .found row => d.tenants.find? row.slug ≠ none ↔ 0 < tenantsOf row.id d
  | .consuming row _ => GivesOwn crypto row d ∧ d.CodeFree row
  | _ => True

/-- Every step completes what it has found. -/
def Completes (s : RegistrationState) : RegistrationEvent → Prop
  | .advance i number => ∀ call ∈ s.calls[i]?, call.Completes crypto number s.shared
  | .call _ | .other _ => True

instance RegistrationCall.decidableCompletes (number : Fin 1000000) (d : RegistrationStores) :
    ∀ call : RegistrationCall, Decidable (call.Completes crypto number d)
  | ⟨request, .found row⟩ =>
    inferInstanceAs (Decidable
      ((registrationStep crypto number request (.found row) d).1.hasFailed = true →
        0 < tenantsOf row.id d))
  | ⟨request, .consuming row tenant⟩ =>
    inferInstanceAs (Decidable
      ((registrationStep crypto number request (.consuming row tenant) d).1
        = .verified tenant))
  | ⟨_, .starting⟩ | ⟨_, .drawn _ _ _⟩ | ⟨_, .staging _ _⟩ | ⟨_, .sent _ _⟩ | ⟨_, .nothing⟩
  | ⟨_, .verified _⟩ | ⟨_, .failed _ _⟩ => Decidable.isTrue trivial

instance decidableCompletes (s : RegistrationState) :
    ∀ e : RegistrationEvent, Decidable (Completes crypto s e)
  | .advance i number =>
    inferInstanceAs (Decidable (∀ call ∈ s.calls[i]?, call.Completes crypto number s.shared))
  | .call _ | .other _ => Decidable.isTrue trivial

def Unhindered (s : RegistrationState) : RegistrationEvent → Prop
  | .advance i _ => ∀ call ∈ s.calls[i]?, call.Unhindered crypto s.shared
  | .call _ | .other _ => True

variable {crypto} {d d' : RegistrationStores} {row : RegistrationStaging} {token : String}
  {s : RegistrationState} {e : RegistrationEvent} {call : RegistrationCall}

/-! ## What a save does -/

/-- A save finds its code free and writes the row in the place of the row of its id. -/
theorem save_eq_some (h : d.save row = some d') :
    d.CodeFree row ∧ d' = { d with stagings := d'.stagings }
    ∧ ∀ r, r ∈ d'.stagings.rows
      ↔ r ∈ d.stagings.rows ∧ r.id ≠ row.id ∨ r = d.stamped row := by
  simp only [RegistrationStores.save, Option.map_eq_some_iff] at h
  obtain ⟨stagings, hinsert, rfl⟩ := h
  obtain ⟨hnone, hmem⟩ := Keyed.insert?_eq_some hinsert
  have hcode : ∀ other ∈ d.stagings.rows, other.id ≠ row.id →
      other.verificationTokenHash ≠ row.verificationTokenHash := by
    intro other hother hid
    have hne := Keyed.find?_eq_none.1 hnone other (by simp [hother, hid])
    simpa using hne
  refine ⟨?_, rfl, ?_⟩
  · intro other hother hsame
    by_contra hid
    exact hcode other hother hid hsame
  intro r
  rw [hmem, Keyed.mem_deleteWhere]
  simp

theorem not_codeFree (h : d.save row = none) : ¬ d.CodeFree row := by
  intro hfree
  simp only [RegistrationStores.save, Option.map_eq_none_iff] at h
  refine Keyed.insert?_eq_none h (Keyed.find?_eq_none.2 ?_)
  intro other hother
  rw [Keyed.mem_deleteWhere] at hother
  have hid : other.id ≠ row.id := by simpa using hother.2
  have hne : other.verificationTokenHash ≠ row.verificationTokenHash :=
    fun hsame => hid (hfree other hother.1 hsame)
  simpa using hne

/-- What a code finds after a save. -/
theorem find?_saved (h : d.save row = some d') :
    (∃ saved, d'.stagings.find? row.verificationTokenHash = some saved ∧ saved.email = row.email)
    ∧ ∀ code, code ≠ row.verificationTokenHash → ∀ r, d'.stagings.find? code = some r →
      d.stagings.find? code = some r := by
  obtain ⟨-, -, hmem⟩ := save_eq_some h
  refine ⟨⟨d.stamped row, Keyed.find?_eq_some.2 ⟨(hmem _).2 (Or.inr rfl), by simp⟩, by simp⟩, ?_⟩
  intro code hcode r hr
  obtain ⟨hrows, hkey⟩ := Keyed.find?_eq_some.1 hr
  rcases (hmem r).1 hrows with ⟨hold, -⟩ | rfl
  · exact Keyed.find?_eq_some.2 ⟨hold, hkey⟩
  · exact absurd (hkey.symm.trans (by simp)) hcode

/-- **The codes stay their addresses' own exactly when the one that is saved is not in the mail
to another.**  The code may be sent with the save. -/
theorem codesOwn_saved (h : d.save row = some d') {d'' : RegistrationStores}
    (hown : CodesOwn crypto d) (hstagings : d''.stagings = d'.stagings)
    (hother : ∀ email sent, email ≠ row.email → (d''.InMail email sent ↔ d.InMail email sent))
    (hsame : ∀ sent, d''.InMail row.email sent →
      d.InMail row.email sent ∨ crypto.sha256 sent.token = row.verificationTokenHash) :
    CodesOwn crypto d'' ↔ GivesOwn crypto row d := by
  obtain ⟨⟨saved, hsaved, hemail⟩, hold⟩ := find?_saved h
  constructor
  · intro hown' _ email sent hmail hcode
    by_contra hne
    have hmail' := (hother email sent (Ne.symm hne)).2 hmail
    have hfound := hown' email sent hmail' saved (by rw [hstagings, hcode]; exact hsaved)
    exact hne (hemail.symm.trans hfound)
  intro hgives email sent hmail r hr
  rw [hstagings] at hr
  by_cases hcode : crypto.sha256 sent.token = row.verificationTokenHash
  · rw [hcode, Option.mem_def, hsaved, Option.some.injEq] at hr
    rw [← hr, hemail]
    by_contra hne
    exact hne (hgives (save_eq_some h).1 email sent
      ((hother email sent (Ne.symm hne)).1 hmail) hcode)
  have hr' := hold _ hcode r hr
  by_cases haddress : email = row.email
  · rw [haddress] at hmail ⊢
    rcases hsame sent hmail with hmail' | hcode'
    · exact hown row.email sent hmail' r hr'
    · exact absurd hcode' hcode
  · exact hown email sent ((hother email sent haddress).1 hmail) r hr'

/-- The code is saved and sent. -/
theorem codesOwn_send (h : d.save row = some d') (hown : CodesOwn crypto d)
    (hhash : row.verificationTokenHash = crypto.sha256 token) :
    CodesOwn crypto (d'.send row.email token) ↔ GivesOwn crypto row d := by
  have hd' := (save_eq_some h).2.1
  refine codesOwn_saved h hown rfl ?_ ?_
  · intro email sent hne
    simp only [RegistrationStores.InMail, RegistrationStores.send]
    rw [if_neg hne, hd']
  intro sent hmail
  right
  have hsent : some { token, sentAt := d'.now } = some sent := by
    simpa only [RegistrationStores.InMail, RegistrationStores.send, if_pos] using hmail.1
  cases hsent
  exact hhash.symm

/-- The registration is saved as consumed. -/
theorem codesOwn_consumed {now : ℕ} (h : d.save { row with consumedAt := some now } = some d')
    (hown : CodesOwn crypto d) : CodesOwn crypto d' ↔ GivesOwn crypto row d := by
  have hd' := (save_eq_some h).2.1
  refine codesOwn_saved h hown rfl ?_ ?_
  · intro email sent _
    rw [hd']
    exact Iff.rfl
  intro sent hmail
  left
  rw [hd'] at hmail
  exact hmail

theorem tenantsOf_insert {tenant : SchoolTenant} {tenants : Keyed SchoolTenant.slug}
    (h : d.tenants.insert? tenant = some tenants) (id : ℕ) (drawn : List String) :
    tenantsOf id { d with tenants, drawn }
      = tenantsOf id d + if tenant.registrationId = id then 1 else 0 := by
  simp [tenantsOf, Keyed.rows_insert? h, List.countP_append, List.countP_singleton]

/-! ## A step -/

/-- The codes are their addresses' own, and a registration gives one tenant at most. -/
structure RegistrationsOk (crypto : RegistrationCrypto) (d : RegistrationStores) : Prop where
  codes : CodesOwn crypto d
  tenants : ∀ id, tenantsOf id d ≤ 1

theorem RegistrationsOk.congr (hstagings : d'.stagings = d.stagings)
    (htenants : d'.tenants = d.tenants) (hsent : d'.lastSent = d.lastSent)
    (hnow : d.now ≤ d'.now) (h : RegistrationsOk crypto d) : RegistrationsOk crypto d' := by
  constructor
  · intro email sent hmail r hr
    rw [hstagings] at hr
    refine h.codes email sent ⟨?_, hnow.trans hmail.2⟩ r hr
    rw [← hsent]
    exact hmail.1
  intro id
  rw [tenantsOf, htenants]
  exact h.tenants id

section Phases
variable {request : RegistrationRequest} {number : Fin 1000000} {tenant : SchoolTenant}

theorem registrationStep_staging : registrationStep crypto number request (.staging row token) d
    = match d.save row with
      | none => (request.saveFailed, d)
      | some d' => (.sent row.id token, d'.send row.email token) := by
  cases request <;> rfl

theorem registrationStep_found : registrationStep crypto number request (.found row) d
    = match d.tenants.insert? (tenantOf crypto row d.drawn.length) with
      | none => (request.saveFailed, d)
      | some tenants =>
        (.consuming row (tenantOf crypto row d.drawn.length),
          { d with tenants, drawn := d.drawn ++ [row.email] }) := by
  cases request <;> rfl

theorem registrationStep_consuming :
    registrationStep crypto number request (.consuming row tenant) d
    = match d.save { row with consumedAt := some d.now } with
      | none => (request.saveFailed, d)
      | some d' => (.verified tenant, d') := by
  cases request <;> rfl

/-- A code that is saved and sent. -/
theorem staging_iff (hok : RegistrationsOk crypto d)
    (hhash : row.verificationTokenHash = crypto.sha256 token) :
    RegistrationsOk crypto (registrationStep crypto number request (.staging row token) d).2
      ↔ GivesOwn crypto row d := by
  rw [registrationStep_staging]
  cases hsave : d.save row with
  | none => exact iff_of_true hok fun hfree => absurd hfree (not_codeFree hsave)
  | some d' =>
    rw [← codesOwn_send hsave hok.codes hhash]
    refine ⟨fun h => h.codes, fun h => ⟨h, ?_⟩⟩
    intro id
    rw [(save_eq_some hsave).2.1]
    exact hok.tenants id

theorem hasFailed_saveFailed (request : RegistrationRequest) :
    request.saveFailed.hasFailed = true := by
  cases request <;> rfl

/-- The tenant of a registration that was found. -/
theorem found_iff (hok : RegistrationsOk crypto d) :
    RegistrationsOk crypto (registrationStep crypto number request (.found row) d).2
      ∧ ((registrationStep crypto number request (.found row) d).1.hasFailed = true →
        0 < tenantsOf row.id d)
      ↔ (d.tenants.find? row.slug ≠ none ↔ 0 < tenantsOf row.id d) := by
  rw [registrationStep_found]
  cases hinsert : d.tenants.insert? (tenantOf crypto row d.drawn.length) with
  | none =>
    have htaken := Keyed.insert?_eq_none hinsert
    rw [tenantOf_slug] at htaken
    have hfailed := hasFailed_saveFailed request
    exact ⟨fun h => iff_of_true htaken (h.2 hfailed), fun h => ⟨hok, fun _ => h.1 htaken⟩⟩
  | some tenants =>
    have hfree := (Keyed.insert?_eq_some hinsert).1
    rw [tenantOf_slug] at hfree
    have hcount := fun id => tenantsOf_insert hinsert id (d.drawn ++ [row.email])
    constructor
    · rintro ⟨hnext, -⟩
      have hone := hnext.tenants row.id
      rw [hcount row.id] at hone
      have hzero : ¬ 0 < tenantsOf row.id d := by
        rw [tenantOf_registrationId, if_pos rfl] at hone
        omega
      exact iff_of_false (not_not.2 hfree) hzero
    intro hnone
    have hzero : ¬ 0 < tenantsOf row.id d := fun hpos => hnone.2 hpos hfree
    refine ⟨⟨hok.codes, ?_⟩, nofun⟩
    intro id
    rw [hcount id]
    split
    · rename_i hid
      rw [tenantOf_registrationId] at hid
      rw [← hid]
      omega
    · exact hok.tenants id

/-- A registration that is consumed. -/
theorem consuming_iff (hok : RegistrationsOk crypto d) :
    RegistrationsOk crypto (registrationStep crypto number request (.consuming row tenant) d).2
      ∧ (registrationStep crypto number request (.consuming row tenant) d).1 = .verified tenant
      ↔ GivesOwn crypto row d ∧ d.CodeFree row := by
  rw [registrationStep_consuming]
  cases hsave : d.save { row with consumedAt := some d.now } with
  | none =>
    have hfailed : request.saveFailed ≠ .verified tenant := by cases request <;> nofun
    exact iff_of_false (fun h => hfailed h.2) fun h => not_codeFree hsave h.2
  | some d' =>
    have hfree : d.CodeFree row := (save_eq_some hsave).1
    rw [and_iff_left hfree, ← codesOwn_consumed hsave hok.codes]
    refine ⟨fun h => h.1.codes, fun h => ⟨⟨h, ?_⟩, rfl⟩⟩
    intro id
    rw [(save_eq_some hsave).2.1]
    exact hok.tenants id

end Phases

/-! ## The registration of a row -/

/-- The address of a registration is the one its id was drawn for, and the one that a code was
last sent for has the code or is consumed. -/
structure StagingsOk (crypto : RegistrationCrypto) (d : RegistrationStores) : Prop where
  owner : ∀ row ∈ d.stagings.rows, d.drawn[row.id]? = some row.email
  kept : CodesKept crypto d

/-- The address of what a request is about to save is the one its id was drawn for, and the code
that goes with it is its own. -/
def RegistrationCall.Owns (crypto : RegistrationCrypto) (d : RegistrationStores)
    (call : RegistrationCall) : Prop :=
  match call with
  | ⟨.register input, .drawn _ _ id⟩ => d.drawn[id]? = some (normalizedEmail input.email)
  | ⟨_, .staging row token⟩ =>
    d.drawn[row.id]? = some row.email ∧ row.verificationTokenHash = crypto.sha256 token
  | ⟨_, .found row⟩ | ⟨_, .consuming row _⟩ => d.drawn[row.id]? = some row.email
  | _ => True

/-- **A step keeps the codes and the tenants as they should be, and completes what it has found,
exactly when it is unhindered.** -/
theorem registrationStep_iff (hok : RegistrationsOk crypto d) (howns : call.Owns crypto d)
    (number : Fin 1000000) :
    RegistrationsOk crypto (registrationStep crypto number call.request call.phase d).2
      ∧ call.Completes crypto number d ↔ call.Unhindered crypto d := by
  obtain ⟨request, phase⟩ := call
  cases phase with
  | staging row token =>
    have hhash : row.verificationTokenHash = crypto.sha256 token := by
      cases request <;> exact howns.2
    exact (and_iff_left trivial).trans (staging_iff hok hhash)
  | found row => exact found_iff hok
  | consuming row tenant => exact consuming_iff hok
  | starting =>
    refine iff_of_true ⟨?_, trivial⟩ trivial
    cases request with
    | register input => exact @RegistrationsOk.congr crypto d _ rfl rfl rfl le_rfl hok
    | refresh | verify => exact hok
  | drawn => exact iff_of_true ⟨by cases request <;> exact hok, trivial⟩ trivial
  | sent | nothing | verified | failed =>
    exact iff_of_true ⟨by cases request <;> exact hok, trivial⟩ trivial

theorem getElem?_drawn {email : String} (hdrawn : d.drawn <+: d'.drawn) {id : ℕ}
    (h : d.drawn[id]? = some email) : d'.drawn[id]? = some email := by
  obtain ⟨more, hmore⟩ := hdrawn
  rw [← hmore]
  exact (List.getElem?_append_left (List.getElem?_eq_some_iff.1 h).1).trans h

theorem RegistrationCall.Owns.mono (h : call.Owns crypto d) (hdrawn : d.drawn <+: d'.drawn) :
    call.Owns crypto d' := by
  obtain ⟨request, phase⟩ := call
  cases phase with
  | drawn token expiresAt id =>
    cases request with
    | register input => exact getElem?_drawn hdrawn h
    | refresh | verify => trivial
  | staging row token => cases request <;> exact ⟨getElem?_drawn hdrawn h.1, h.2⟩
  | found | consuming => cases request <;> exact getElem?_drawn hdrawn h
  | starting | sent | nothing | verified | failed => cases request <;> trivial

theorem StagingsOk.mono (h : StagingsOk crypto d) (hdrawn : d.drawn <+: d'.drawn)
    (hstagings : d'.stagings = d.stagings) (hsent : d'.lastSent = d.lastSent) :
    StagingsOk crypto d' := by
  constructor
  · intro row hrow
    rw [hstagings] at hrow
    exact getElem?_drawn hdrawn (h.owner row hrow)
  intro email sent hlast
  rw [hsent] at hlast
  rw [hstagings]
  exact h.kept email sent hlast

theorem owner_saved (h : StagingsOk crypto d) (hsave : d.save row = some d')
    (hrow : d.drawn[row.id]? = some row.email) :
    ∀ r ∈ d'.stagings.rows, d'.drawn[r.id]? = some r.email := by
  obtain ⟨-, hd', hmem⟩ := save_eq_some hsave
  intro r hr
  rw [hd']
  rcases (hmem r).1 hr with ⟨hold, -⟩ | rfl
  · exact h.owner r hold
  · simpa using hrow

theorem mem_saved_of_ne (h : StagingsOk crypto d) (hsave : d.save row = some d')
    (hrow : d.drawn[row.id]? = some row.email) {r : RegistrationStaging}
    (hr : r ∈ d.stagings.rows) (hne : r.email ≠ row.email) : r ∈ d'.stagings.rows := by
  refine ((save_eq_some hsave).2.2 r).2 (Or.inl ⟨hr, ?_⟩)
  intro hid
  have howner := h.owner r hr
  rw [hid, hrow, Option.some.injEq] at howner
  exact hne howner.symm

theorem stagingsOk_send (h : StagingsOk crypto d) (hsave : d.save row = some d')
    (hrow : d.drawn[row.id]? = some row.email)
    (hhash : row.verificationTokenHash = crypto.sha256 token) :
    StagingsOk crypto (d'.send row.email token) := by
  obtain ⟨-, hd', hmem⟩ := save_eq_some hsave
  have howner := owner_saved h hsave hrow
  refine ⟨howner, ?_⟩
  intro email sent hlast
  simp only [RegistrationStores.send] at hlast
  split at hlast
  · rename_i haddress
    cases hlast
    refine ⟨d.stamped row, (hmem _).2 (Or.inr rfl), ?_, Or.inl ?_⟩
    · rw [haddress, RegistrationStores.stamped_email]
    · rw [RegistrationStores.stamped_verificationTokenHash, hhash]
  rename_i haddress
  rw [hd'] at hlast
  obtain ⟨r, hr, hemail, hcode⟩ := h.kept email sent hlast
  exact ⟨r, mem_saved_of_ne h hsave hrow hr (hemail ▸ haddress), hemail, hcode⟩

theorem stagingsOk_consumed {now : ℕ} (h : StagingsOk crypto d)
    (hsave : d.save { row with consumedAt := some now } = some d')
    (hrow : d.drawn[row.id]? = some row.email) : StagingsOk crypto d' := by
  obtain ⟨-, hd', hmem⟩ := save_eq_some hsave
  refine ⟨owner_saved h hsave hrow, ?_⟩
  intro email sent hlast
  rw [hd'] at hlast
  obtain ⟨r, hr, hemail, hcode⟩ := h.kept email sent hlast
  by_cases haddress : r.email = row.email
  · refine ⟨d.stamped { row with consumedAt := some now }, (hmem _).2 (Or.inr rfl), ?_, Or.inr ?_⟩
    · rw [RegistrationStores.stamped_email, ← hemail, haddress]
    rw [RegistrationStores.stamped_consumedAt]
    rfl
  · exact ⟨r, mem_saved_of_ne h hsave hrow hr haddress, hemail, hcode⟩

theorem latest_eq_some {email : String} (h : d.latest email = some row) :
    row ∈ d.stagings.rows ∧ row.email = email := by
  have hmem := List.mem_filter.1 (List.maxOn?_mem h)
  exact ⟨hmem.1, of_decide_eq_true hmem.2⟩

theorem stageOwner_owns {input : OwnerInput} {code : String} {expiresAt id : ℕ}
    (hd : StagingsOk crypto d) (hid : d.drawn[id]? = some (normalizedEmail input.email)) :
    RegistrationCall.Owns crypto d
      ⟨.register input, stageOwner crypto input code expiresAt id d⟩ := by
  simp only [stageOwner]
  split
  · trivial
  refine ⟨?_, rfl⟩
  cases hlatest : d.latest (normalizedEmail input.email) with
  | none => exact hid
  | some row =>
    obtain ⟨hrow, hemail⟩ := latest_eq_some hlatest
    exact (hd.owner row hrow).trans (congrArg some hemail)

theorem refreshToken_owns {email code : String} (hd : StagingsOk crypto d) :
    RegistrationCall.Owns crypto d ⟨.refresh email, refreshToken crypto email code d⟩ := by
  simp only [refreshToken]
  split
  · trivial
  rename_i row hlatest
  split
  · trivial
  · exact ⟨hd.owner row (latest_eq_some hlatest).1, rfl⟩

theorem findStaging_owns {code : String} (hd : StagingsOk crypto d) :
    RegistrationCall.Owns crypto d ⟨.verify code, findStaging crypto code d⟩ := by
  simp only [findStaging]
  split
  · trivial
  rename_i row hfind
  split
  · trivial
  split
  · trivial
  · exact hd.owner row (Keyed.find?_eq_some.1 hfind).1

theorem saveFailed_owns (request request' : RegistrationRequest) :
    RegistrationCall.Owns crypto d ⟨request', request.saveFailed⟩ := by
  cases request <;> cases request' <;> trivial

/-- The call that moves. -/
theorem RegistrationCall.Owns.next (h : call.Owns crypto d) (hd : StagingsOk crypto d)
    (number : Fin 1000000) :
    StagingsOk crypto ((registrationService crypto).next number call d).2
      ∧ RegistrationCall.Owns crypto ((registrationService crypto).next number call d).2
        ((registrationService crypto).next number call d).1
      ∧ d.drawn <+: ((registrationService crypto).next number call d).2.drawn := by
  obtain ⟨request, phase⟩ := call
  cases phase with
  | starting =>
    cases request with
    | register input =>
      have hdrawn := List.prefix_append d.drawn [normalizedEmail input.email]
      refine ⟨hd.mono hdrawn rfl rfl, ?_, hdrawn⟩
      exact List.getElem?_concat_length
    | refresh email => exact ⟨hd, refreshToken_owns hd, List.prefix_rfl⟩
    | verify code => exact ⟨hd, findStaging_owns hd, List.prefix_rfl⟩
  | drawn code expiresAt id =>
    cases request with
    | register input => exact ⟨hd, stageOwner_owns hd h, List.prefix_rfl⟩
    | refresh | verify => exact ⟨hd, trivial, List.prefix_rfl⟩
  | staging row token =>
    have hrow : d.drawn[row.id]? = some row.email
        ∧ row.verificationTokenHash = crypto.sha256 token := by cases request <;> exact h
    simp only [registrationService, registrationStep_staging]
    cases hsave : d.save row with
    | none => exact ⟨hd, saveFailed_owns request request, List.prefix_rfl⟩
    | some d' =>
      refine ⟨stagingsOk_send hd hsave hrow.1 hrow.2, by cases request <;> trivial, ?_⟩
      rw [(save_eq_some hsave).2.1]
      exact List.prefix_rfl
  | found row =>
    have hrow : d.drawn[row.id]? = some row.email := by cases request <;> exact h
    simp only [registrationService, registrationStep_found]
    cases hinsert : d.tenants.insert? (tenantOf crypto row d.drawn.length) with
    | none => exact ⟨hd, saveFailed_owns request request, List.prefix_rfl⟩
    | some tenants =>
      have hdrawn := List.prefix_append d.drawn [row.email]
      refine ⟨hd.mono hdrawn rfl rfl, ?_, hdrawn⟩
      cases request <;> exact getElem?_drawn hdrawn hrow
  | consuming row tenant =>
    have hrow : d.drawn[row.id]? = some row.email := by cases request <;> exact h
    simp only [registrationService, registrationStep_consuming]
    cases hsave : d.save { row with consumedAt := some d.now } with
    | none => exact ⟨hd, saveFailed_owns request request, List.prefix_rfl⟩
    | some d' =>
      refine ⟨stagingsOk_consumed hd hsave hrow, by cases request <;> trivial, ?_⟩
      rw [(save_eq_some hsave).2.1]
  | sent | nothing | verified | failed =>
    cases request <;> exact ⟨hd, trivial, List.prefix_rfl⟩

/-! ## Runs -/

def registrationStart (now : ℕ) : RegistrationState := { shared := { now } }

/-- The registrations, and what every request holds. -/
def RowsOwned (crypto : RegistrationCrypto) (s : RegistrationState) : Prop :=
  StagingsOk crypto s.shared ∧ ∀ call ∈ s.calls, call.Owns crypto s.shared

theorem rowsOwned_step (h : RowsOwned crypto s) :
    RowsOwned crypto ((registrationService crypto).step e s) := by
  have hstart : ∀ (request : RegistrationRequest) (d : RegistrationStores), StagingsOk crypto d →
      RegistrationCall.Owns crypto d { request } := by
    intro request d _
    cases request <;> trivial
  have hrest : ∀ (milliseconds : ℕ) (d : RegistrationStores), StagingsOk crypto d →
      StagingsOk crypto { d with now := d.now + milliseconds }
        ∧ ∀ call : RegistrationCall, call.Owns crypto d →
          call.Owns crypto { d with now := d.now + milliseconds } :=
    fun _ _ hd => ⟨hd.mono List.prefix_rfl rfl rfl, fun _ hc => hc.mono List.prefix_rfl⟩
  exact Service.invariant_step (S := registrationService crypto) hstart
    (fun number _ _ hd hc => (RegistrationCall.Owns.next hc hd number).1)
    (fun number _ _ hd hc => (RegistrationCall.Owns.next hc hd number).2.1)
    (fun number _ _ hd hc _ hother =>
      RegistrationCall.Owns.mono hother (RegistrationCall.Owns.next hc hd number).2.2)
    hrest h.1 h.2

/-- A step of the system, of whichever request. -/
theorem registrations_step (hok : RegistrationsOk crypto s.shared)
    (howned : RowsOwned crypto s) :
    RegistrationsOk crypto ((registrationService crypto).step e s).shared ∧ Completes crypto s e
      ↔ Unhindered crypto s e := by
  cases e with
  | call request => exact iff_of_true ⟨hok, trivial⟩ trivial
  | other milliseconds =>
    refine iff_of_true ⟨?_, trivial⟩ trivial
    exact @RegistrationsOk.congr crypto s.shared _ rfl rfl rfl (Nat.le_add_right _ _) hok
  | advance i number =>
    cases hcall : s.calls[i]? with
    | none =>
      rw [Service.step_advance_none hcall]
      simp [Completes, Unhindered, hcall, hok]
    | some call =>
      rw [Service.step_advance hcall]
      simp only [Completes, Unhindered, hcall, Option.mem_def, Option.some.injEq, forall_eq']
      exact registrationStep_iff hok (howned.2 call (List.mem_of_getElem? hcall)) number

end Crypto

/-- **The code last sent to an address is its registration's, or the registration is consumed.
In every state of a run a code in the mail finds a registration of its own address or none, and
every registration has given one tenant at most; and every registration that was found fails
only if it has its tenant, and is completed with it: exactly when no save of the run is
hindered.** -/
theorem verification_codes_iff (crypto : RegistrationCrypto) (now : ℕ)
    (es : List RegistrationEvent) :
    (∀ pre, pre <+: es → CodesKept crypto
        (run (registrationService crypto).step (registrationStart now) pre).shared)
    ∧ ((∀ pre, pre <+: es → RegistrationsOk crypto
          (run (registrationService crypto).step (registrationStart now) pre).shared)
        ∧ Along (registrationService crypto).step (Completes crypto) (registrationStart now) es
      ↔ Along (registrationService crypto).step (Unhindered crypto)
          (registrationStart now) es) := by
  have hok : RegistrationsOk crypto (registrationStart now).shared :=
    ⟨fun _ _ hmail => (nomatch hmail.1), fun _ => Nat.zero_le 1⟩
  have howned : RowsOwned crypto (registrationStart now) := by
    refine ⟨⟨?_, ?_⟩, ?_⟩
    · intro row hrow
      cases hrow
    · intro email sent hlast
      cases hlast
    intro call hcall
    cases hcall
  have hkept : ∀ (s : RegistrationState) (e : RegistrationEvent), RowsOwned crypto s →
      RowsOwned crypto ((registrationService crypto).step e s) := fun _ _ h => rowsOwned_step h
  constructor
  · intro pre _
    exact (run_invariant hkept howned pre).1.kept
  exact along_iff_throughout_and (I := fun s => RegistrationsOk crypto s.shared)
    (fun s e _ => hkept s e) (fun _ _ hok howned => registrations_step hok howned) hok howned

/-! ## Two owners of one name, and one who changes it -/

namespace Example

def plain : RegistrationCrypto where
  sha256 text := text
  encrypt text := text
  decrypt text := text
  hashPassword text := text

def owner (fullName email : String) : OwnerInput := { fullName, email, password := some "secret" }

/-- The draws of the codes `000001` and `000002`. -/
def firstDraw : Fin 1000000 := 1

def secondDraw : Fin 1000000 := 2

def firstOwner : List RegistrationEvent :=
  [.call (.register (owner "Ada Obi" "ada@one.ng")), .advance 0 1, .advance 0 0, .advance 0 0,
    .call (.verify "000001"), .advance 1 0, .advance 1 0, .advance 1 0]

/-- Another owner of the name registers, and presents the code. -/
def secondOwner : List RegistrationEvent :=
  [.call (.register (owner "Ada Obi" "ada@two.ng")), .advance 2 2, .advance 2 0, .advance 2 0,
    .call (.verify "000002"), .advance 3 0, .advance 3 0]

/-- An owner registers again under a new name, while the first code is being verified. -/
def renamed : List RegistrationEvent :=
  [.call (.register (owner "Ada Obi" "ada@one.ng")), .advance 0 1, .advance 0 0, .advance 0 0,
    .call (.verify "000001"), .advance 1 0, .advance 1 0,
    .call (.register (owner "Ada Eze" "ada@one.ng")), .advance 2 2, .advance 2 0, .advance 2 0,
    .call (.verify "000002"), .advance 3 0, .advance 3 0]

end Example

/-- The second owner's registration is found and fails on the first one's slug, and the
registration of the owner who changes the name gives two tenants. -/
theorem not_verification_codes :
    (¬ ∀ (crypto : RegistrationCrypto) (now : ℕ) (es : List RegistrationEvent),
        Along (registrationService crypto).step (Completes crypto) (registrationStart now) es)
    ∧ ¬ ∀ (crypto : RegistrationCrypto) (now : ℕ) (es : List RegistrationEvent) (id : ℕ),
        tenantsOf id
          (run (registrationService crypto).step (registrationStart now) es).shared ≤ 1 := by
  constructor
  · intro h
    have hall := h Example.plain 0 (Example.firstOwner ++ Example.secondOwner)
    revert hall
    decide +kernel
  intro h
  have hone := h Example.plain 0 Example.renamed 0
  revert hone
  decide +kernel

end MultiAcademy.School
