import MultiAcademy.School.Registrations
import MultiAcademy.School.TenantLogins

/-!
# Onboarding a school

`auth/auth.service.ts`: `registerStep1`, `resendVerificationEmail`, `verifyEmail` with
`finishVerifiedTenantOnboarding`, `registerStep2` and `login`, over what they call of
`control-plane/control-plane.service.ts`.  Requests run one at a time, and each may fail at
whatever it does outside of the process, or the process stops there.
-/

namespace MultiAcademy.School

open MultiAcademy.Lib

/-! ## The stores -/

/-- `tenants_configs` is in both: the rows as they were saved, with their slugs, and as they are. -/
structure OnboardingStores where
  registrations : RegistrationStores
  logins : LoginStores := {}

/-- What `CryptoService` and `PasswordService` do is undone, and checked. -/
structure OnboardingCrypto extends RegistrationCrypto where
  verifyPassword : String → String → Bool
  encrypt_ne : ∀ text, encrypt text ≠ ""
  decrypt_encrypt : ∀ text, decrypt (encrypt text) = text
  hashPassword_ne : ∀ password, hashPassword password ≠ ""
  verify_hashPassword : ∀ password, verifyPassword password (hashPassword password) = true

/-- `controlApi.isConfigured()` and `NODE_ENV === 'production'`. -/
structure OnboardingEnv where
  crypto : OnboardingCrypto
  configured : Bool := true
  production : Bool := true

/-- What the requests do outside of the process; of the mappings that are released, the first ones
are `given` up. -/
inductive OnboardingPoint
  | check
  | staging
  | mail
  | tenant
  | consumption
  | registerTenant
  | activateTenant
  | provision
  | ready
  | release (given : ℕ)
  | mapping
  | user
  | clear
  | welcome
  deriving DecidableEq

/-- What is done at the point fails, or the process stops before it. -/
structure Fault where
  point : OnboardingPoint
  stops : Bool := false
  deriving DecidableEq

/-- The answer to a request; a process that stops gives none. -/
inductive OnboardingAnswer
  | done
  | refused (refusal : UserRefusal)
  | lost
  deriving DecidableEq

/-- The fault is at the point. -/
def strikes (fault : Option Fault) (point : OnboardingPoint) : Bool :=
  fault.any fun f => f.point = point

def stops (fault : Option Fault) : Bool := fault.any Fault.stops

def faultAnswer (fault : Option Fault) (refusal : UserRefusal) : OnboardingAnswer :=
  if stops fault then .lost else .refused refusal

/-- `generateTenantId`, `generateSboId` and `generateUserId`, by what was drawn before. -/
def generateTenantId (n : ℕ) : String := "tnt_" ++ n.repr
def generateSboId (n : ℕ) : String := "SBO-" ++ n.repr
def generateUserId (n : ℕ) : String := "usr_" ++ n.repr
def generateMappingId (n : ℕ) : String := "map_" ++ n.repr

/-- The row of `tenants_configs` that is saved. -/
def SchoolTenant.owned (tenant : SchoolTenant) : OwnedTenant where
  id := generateTenantId tenant.id
  schoolBusinessOrganisationId := generateSboId tenant.id
  status := tenant.status
  provisioningStatus := tenant.provisioningStatus
  ownerEmail := some tenant.ownerRegistrationPayload.email
  ownerFullName := some tenant.ownerRegistrationPayload.fullName
  ownerPhone := tenant.ownerRegistrationPayload.phone
  ownerEmailVerified := tenant.ownerEmailVerified
  ownerStagedPasswordHash := some tenant.ownerStagedPasswordHash

namespace OnboardingStores
variable (s : OnboardingStores)

/-- An id is drawn on behalf of an address. -/
def draw (email : String) : OnboardingStores :=
  { s with registrations := { s.registrations with drawn := s.registrations.drawn ++ [email] } }

/-- `repo.save(repo.create({ ... }))`; `none` when the slug is in use. -/
def saveTenant (tenant : SchoolTenant) : Option OnboardingStores :=
  (s.registrations.tenants.insert? tenant).map fun tenants =>
    { registrations := { s.registrations with tenants }
      logins := { s.logins with tenants := s.logins.tenants.put tenant.owned } }

end OnboardingStores

/-! ## The requests -/

section Requests
variable (env : OnboardingEnv)

/-- What `registerStep1` passes on: the name and the levels of the organization are not. -/
def OwnerInput.passedOn (input : OwnerInput) : OwnerInput :=
  { input with organizationName := none, schoolLevels := [] }

variable (fault : Option Fault)

/-- The registration is saved, and its code is sent. -/
def saveAndSend (saveRefusal : UserRefusal) (mailFailed : OnboardingAnswer)
    (row : RegistrationStaging) (token : String) (d : RegistrationStores) :
    OnboardingAnswer × RegistrationStores :=
  if strikes fault .staging then (faultAnswer fault saveRefusal, d)
  else
    match d.save row with
    | none => (.refused saveRefusal, d)
    | some d =>
      if strikes fault .mail then (mailFailed, d) else (.done, d.send row.email token)

def registerStep1 (number : Fin 1000000) (fault : Option Fault) (input : OwnerInput)
    (s : OnboardingStores) : OnboardingAnswer × OnboardingStores :=
  if strikes fault .check then
    (faultAnswer fault (403, "Registration cannot be completed. Please contact support."), s)
  else
    let d := s.registrations
    let s := s.draw (normalizedEmail input.email)
    match stageOwner env.crypto.toRegistrationCrypto input.passedOn (codeOf number)
        (d.now + 15 * 60000) d.drawn.length d with
    | .staging row token =>
      let mailFailed : OnboardingAnswer :=
        if stops fault then .lost
        else if env.production then
          .refused (503, "Registration email delivery is temporarily unavailable")
        else .done
      let result := saveAndSend fault (400, "Failed to setup") mailFailed row token
        s.registrations
      (result.1, { s with registrations := result.2 })
    | .failed status message => (.refused (status, message), s)
    | _ => (.lost, s)

def resendVerificationEmail (number : Fin 1000000) (fault : Option Fault) (email : String)
    (s : OnboardingStores) : OnboardingAnswer × OnboardingStores :=
  match refreshToken env.crypto.toRegistrationCrypto email (codeOf number) s.registrations with
  | .staging row token =>
    let refusal := (500, "Internal server error")
    let result := saveAndSend fault refusal (faultAnswer fault refusal) row token s.registrations
    (result.1, { s with registrations := result.2 })
  | _ => (.done, s)

/-- `verifyOwnerEmail`: the tenant, or the answer. -/
def verifyOwnerEmail (token : String) (s : OnboardingStores) :
    Except OnboardingAnswer SchoolTenant × OnboardingStores :=
  let refusal := (400, "Unable to verify email")
  match findStaging env.crypto.toRegistrationCrypto token s.registrations with
  | .found row =>
    if strikes fault .tenant then (.error (faultAnswer fault refusal), s)
    else
      let tenant := tenantOf env.crypto.toRegistrationCrypto row s.registrations.drawn.length
      match (s.draw row.email).saveTenant tenant with
      | none => (.error (.refused refusal), s)
      | some s =>
        if strikes fault .consumption then (.error (faultAnswer fault refusal), s)
        else
          match s.registrations.save { row with consumedAt := some s.registrations.now } with
          | none => (.error (.refused refusal), s)
          | some registrations => (.ok tenant, { s with registrations })
  | .failed status message => (.error (.refused (status, message)), s)
  | _ => (.error .lost, s)

/-- `repo.update({ id: tenant.id }, { status, provisioningStatus })`. -/
def markTenant (tenantId : String) (status : Option String) (provisioningStatus : String)
    (d : LoginStores) : LoginStores :=
  { d with
    tenants := d.tenants.updateWhere (fun tenant => tenant.id = tenantId)
      (fun tenant => { tenant with status := status.getD tenant.status, provisioningStatus })
      fun _ => rfl }

/-- `provisionVerifiedTenant`, and whether it succeeds. -/
def provisionVerifiedTenant (tenantId : String) (d : LoginStores) :
    Bool × LoginStores :=
  if strikes fault .provision || strikes fault .ready then
    (false, if stops fault then d else markTenant tenantId none "failed" d)
  else (true, markTenant tenantId (some "active") "ready" d)

/-- The first of the primary mappings of an e-mail to other tenants are given up. -/
def releaseFirst (given : ℕ) (tenantId email : String) (d : LoginStores) : LoginStores :=
  let previous := d.mappings.rows.filter fun m =>
    m.email = email && m.isPrimaryTenant && m.isActive && m.tenantId ≠ tenantId
  let ids := (previous.take given).map UserTenantMapping.id
  { d with
    mappings := d.mappings.updateWhere (fun m => m.id ∈ ids) UserTenantMapping.released
      UserTenantMapping.released_id }

/-- The fault is in releasing mappings: how many were given up before it. -/
def releaseFault : Option ℕ :=
  fault.bind fun f => match f.point with
    | .release given => some given
    | _ => none

/-- `createPrimaryOwnerUser`, up to a fault. -/
def createOwner (userId mappingId sboId email : String) (d : LoginStores) :
    OnboardingAnswer × LoginStores :=
  let refusal := (400, "Failed to complete registration")
  match stagedOwner sboId email d with
  | .error refusal => (.refused refusal, d)
  | .ok (tenant, passwordHash) =>
    match releaseFault fault with
    | some given => (faultAnswer fault refusal, releaseFirst given tenant.id (lowerCase email) d)
    | none =>
      let d := releaseMappings tenant.id (lowerCase email) d
      if strikes fault .mapping then (faultAnswer fault refusal, d)
      else
        let d := d.saveMapping (ownerMapping mappingId userId email tenant)
        if strikes fault .user then (faultAnswer fault refusal, d)
        else
          match insertUser (ownerRow userId email passwordHash tenant) (d.users tenant.id) with
          | none => (.refused refusal, d)
          | some users =>
            let d := d.setUsers tenant.id users
            if strikes fault .clear then (faultAnswer fault refusal, d)
            else (.done, clearStaged tenant.id d)

/-- `finishVerifiedTenantOnboarding`; the welcome mail comes last, and its failure is logged. -/
def finishVerifiedTenantOnboarding (tenant : SchoolTenant) (email : String)
    (s : OnboardingStores) : OnboardingStores :=
  let n := s.registrations.drawn.length
  let s := s.draw email
  match provisionVerifiedTenant fault tenant.owned.id s.logins with
  | (false, logins) => { s with logins }
  | (true, logins) =>
    let created := createOwner fault (generateUserId n) (generateMappingId n)
      tenant.owned.schoolBusinessOrganisationId email logins
    { s with logins := created.2 }

/-- The control system is not told of the tenant, or does not activate it in production. -/
def controlFails : Bool :=
  env.configured
    && (strikes fault .registerTenant
      || (strikes fault .activateTenant && (env.production || stops fault)))

/-- `verifyEmail`, and what goes on in the background after the answer. -/
def verifyEmail (token : String) (s : OnboardingStores) :
    OnboardingAnswer × OnboardingStores :=
  match verifyOwnerEmail env fault token s with
  | (.error answer, s) => (answer, s)
  | (.ok tenant, s) =>
    if controlFails env fault then (faultAnswer fault (400, "Unable to verify email"), s)
    else
      (.done, finishVerifiedTenantOnboarding fault tenant
        (lowerCase tenant.ownerRegistrationPayload.email) s)

def validateUserByTenant (tenantId email password : String) (d : LoginStores) :
    Except UserRefusal TenantUser :=
  match d.tenants.find? tenantId with
  | none => .error (400, "Unknown tenant")
  | some _ =>
    match (d.users tenantId).rows.find? fun row => row.email = lowerCase email with
    | none => .error (400, "Invalid credentials")
    | some row =>
      if row.isActive = false ∨ row.passwordHash = ""
          ∨ env.crypto.verifyPassword password row.passwordHash = false then
        .error (400, "Invalid credentials")
      else .ok row

def registerStep2 (sboId email password : String) (s : OnboardingStores) :
    OnboardingAnswer × OnboardingStores :=
  match resolveTenantBySboId sboId s.logins with
  | .error refusal => (.refused refusal, s)
  | .ok tenant =>
    if tenant.provisioningStatus = "ready" then
      match resolveTenantForUserEmail email (some sboId) s.logins with
      | .error refusal => (.refused refusal, s)
      | .ok tenant =>
        match validateUserByTenant env tenant.id email password s.logins with
        | .error refusal => (.refused refusal, s)
        | .ok _ => (.done, s)
    else
      let n := s.registrations.drawn.length
      let s := s.draw email
      let created := createOwner fault (generateUserId n) (generateMappingId n) sboId email
        s.logins
      (created.1, { s with logins := created.2 })

/-- `login` without a slug: for primary owners and directors. -/
def login (email password : String) (sboId : Option String) (d : LoginStores) :
    OnboardingAnswer :=
  let refusal := (401, "Invalid credentials")
  match resolveTenantForUserEmail email sboId d with
  | .error _ => .refused refusal
  | .ok tenant =>
    match validateUserByTenant env tenant.id email password d with
    | .error _ => .refused refusal
    | .ok user =>
      if "*" ∈ user.permissions ∨ "director" ∈ user.roles then .done else .refused refusal

/-- A request, or time goes by. -/
inductive OnboardingEvent
  | register (number : Fin 1000000) (fault : Option Fault) (input : OwnerInput)
  | resend (number : Fin 1000000) (fault : Option Fault) (email : String)
  | verify (fault : Option Fault) (token : String)
  | step2 (fault : Option Fault) (sboId email password : String)
  | login (email password : String) (sboId : Option String)
  | wait (milliseconds : ℕ)

def onboardingStep (e : OnboardingEvent) (s : OnboardingStores) : OnboardingStores :=
  match e with
  | .register number fault input => (registerStep1 env number fault input s).2
  | .resend number fault email => (resendVerificationEmail env number fault email s).2
  | .verify fault token => (verifyEmail env fault token s).2
  | .step2 fault sboId email password => (registerStep2 env fault sboId email password s).2
  | .login _ _ _ => s
  | .wait milliseconds =>
    { s with registrations :=
        { s.registrations with now := s.registrations.now + milliseconds } }

end Requests

end MultiAcademy.School
