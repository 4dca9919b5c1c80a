import MultiAcademy.Lib.Fallible
import MultiAcademy.Lib.Keyed
import MultiAcademy.School.RolePermissions

/-!
# The users of a school

`users/users.service.ts`: what `createTenantUser` inserts and `updateTenantUser` sets, or why they
refuse, and the statements of `deleteTenantUser`.  E-mails and admission numbers are unique.
-/

namespace MultiAcademy.School

open MultiAcademy.Lib

/-! ## The table -/

/-- A row of `users`. -/
structure TenantUser where
  id : String
  email : String
  name : String := ""
  phone : Option String := none
  major : Option String := none
  schoolLevel : Option String := none
  gender : Option String := none
  admissionNo : Option String := none
  passportPhoto : Option String := none
  passwordHash : String := ""
  roles : List String := []
  permissions : List String := []
  capabilities : List String := []
  isActive : Bool := true
  deriving DecidableEq

abbrev UserTable := Keyed TenantUser.id

/-- Another row has the e-mail or the admission number of this one. -/
def TenantUser.clashes (row : TenantUser) (users : UserTable) : Bool :=
  users.rows.any fun other =>
    other.id ≠ row.id
      && (other.email = row.email || (row.admissionNo.isSome && other.admissionNo = row.admissionNo))

/-- `INSERT INTO users`. -/
def insertUser (row : TenantUser) (users : UserTable) : Option UserTable :=
  if row.clashes users then none else users.insert? row

/-- The columns that an update sets; roles are set together with their permissions. -/
structure UserUpdate where
  name : Option String := none
  email : Option String := none
  roles : Option (List String) := none
  schoolLevel : Option (Option String) := none
  admissionNo : Option (Option String) := none
  capabilities : Option (List String) := none
  isActive : Option Bool := none
  phone : Option (Option String) := none
  major : Option (Option String) := none
  gender : Option (Option String) := none
  passportPhoto : Option (Option String) := none
  passwordHash : Option String := none
  deriving DecidableEq

def UserUpdate.apply (update : UserUpdate) (row : TenantUser) : TenantUser :=
  { id := row.id
    email := update.email.getD row.email
    name := update.name.getD row.name
    phone := update.phone.getD row.phone
    major := update.major.getD row.major
    schoolLevel := update.schoolLevel.getD row.schoolLevel
    gender := update.gender.getD row.gender
    admissionNo := update.admissionNo.getD row.admissionNo
    passportPhoto := update.passportPhoto.getD row.passportPhoto
    passwordHash := update.passwordHash.getD row.passwordHash
    roles := update.roles.getD row.roles
    permissions := update.roles.elim row.permissions derivePermissionsForRoles
    capabilities := update.capabilities.getD row.capabilities
    isActive := update.isActive.getD row.isActive }

@[simp] theorem UserUpdate.apply_id (update : UserUpdate) (row : TenantUser) :
    (update.apply row).id = row.id := rfl

/-- `UPDATE users SET … WHERE id = ?`; `none` when it would repeat a unique column. -/
def setUser (update : UserUpdate) (id : String) (users : UserTable) : Option UserTable :=
  if users.rows.any fun row => row.id = id && (update.apply row).clashes users then none
  else some (users.updateWhere (fun row => row.id = id) update.apply update.apply_id)

/-- `SET is_active = false`. -/
def TenantUser.archived (row : TenantUser) : TenantUser := { row with isActive := false }

@[simp] theorem TenantUser.archived_id (row : TenantUser) : row.archived.id = row.id := rfl

/-- `UPDATE users SET is_active = false … WHERE id = ?`. -/
def deactivateUser (id : String) (users : UserTable) : UserTable :=
  users.updateWhere (fun row => row.id = id) TenantUser.archived TenantUser.archived_id

/-- The same `AND roles LIKE '%"parent"%'`. -/
def deactivateParent (id : String) (users : UserTable) : UserTable :=
  users.updateWhere (fun row => row.id = id && "parent" ∈ row.roles) TenantUser.archived
    TenantUser.archived_id

/-- A row of `parent_student_links`. -/
structure ParentLink where
  parentId : String
  studentId : String
  deriving DecidableEq

/-- `SELECT DISTINCT parent_id … WHERE student_id = ?`. -/
def parentsOf (studentId : String) (links : List ParentLink) : List String :=
  ((links.filter fun link => link.studentId = studentId).map ParentLink.parentId).eraseDups

/-- `child.is_active = true` for some child of the parent. -/
def hasActiveChild (parentId : String) (links : List ParentLink) (users : UserTable) : Bool :=
  links.any fun link => link.parentId = parentId && (users.find? link.studentId).any (·.isActive)

/-! ## Checks -/

abbrev UserRefusal := ℕ × String

/-- `text.toLowerCase()`. -/
def lowerCase (text : String) : String := String.ofList (text.toList.map Char.toLower)

/-- The flag `roles.ops_staff`, the admission number that is generated, if any is free, and how
passwords are kept. -/
structure UserEnv where
  opsStaff : Bool := false
  admissionNo : Option String := none
  hashPassword : String → String := id

def opsStaffRoles : List String := ["driver", "guard", "nurse"]

def schoolLevelNames : List String := ["all", "nursery", "primary", "secondary", "jss", "sss"]

def genders : List String := ["male", "female"]

def primaryRoles : List String := ["head_teacher", "assistant_head_teacher"]

def secondaryRoles : List String := ["principal", "vice_principal"]

def levelRequiredRoles : List String :=
  ["head_teacher", "assistant_head_teacher", "principal", "vice_principal", "class_teacher",
   "subject_teacher", "bursar", "student"]

def assertCanAssignPrivileges (actor : Option AuthUserClaims) : Except UserRefusal AuthUserClaims :=
  match actor.filter fun actor => actorHasPermission actor "roles:assign" with
  | some actor => .ok actor
  | none =>
    .error
      (403, "roles:assign permission is required to change roles or custom capabilities")

def assertNotSelfPrivilegeChange (actor : AuthUserClaims) (targetUserId : String) :
    Except UserRefusal Unit :=
  if actorHasWildcard actor then .ok ()
  else
    let actorId := if actor.userId ≠ "" then actor.userId else actor.sub
    if actorId ≠ "" ∧ actorId = targetUserId then
      .error (403, "You cannot change your own roles or custom capabilities. "
        ++ "Ask another authorized administrator.")
    else .ok ()

def assertCapabilitiesAllowed (capabilities : List String) : Except UserRefusal Unit :=
  let unknown := findUnknownCapabilities capabilities
  let roleOnly := findRoleOnlyCapabilities capabilities
  if unknown ≠ [] then
    .error (400, "Unknown or disallowed capabilities: " ++ ", ".intercalate unknown)
  else if roleOnly ≠ [] then
    .error (400, "These capabilities require assigning the matching role (cannot be custom "
      ++ "overrides): " ++ ", ".intercalate roleOnly)
  else .ok ()

def requirePrivilegeReason (reason : Option String) (context : String) : Except UserRefusal Unit :=
  if utf16Length (trim (reason.getD "")) < 3 then
    .error (400, "privilegeChangeReason is required (min 3 chars) when " ++ context)
  else .ok ()

def assertOpsRolesAllowed (env : UserEnv) (roles : List String) : Except UserRefusal Unit :=
  if (roles.any fun role => role ∈ opsStaffRoles) && !env.opsStaff then
    .error (403, "Feature disabled: roles.ops_staff")
  else .ok ()

def checkRoles (env : UserEnv) (roles : List String) : Except UserRefusal Unit := do
  if roles = [] then throw (400, "At least one role is required")
  if findInvalidRoles roles ≠ [] then
    throw (400, "Unknown roles: " ++ ", ".intercalate (findInvalidRoles roles))
  assertOpsRolesAllowed env roles

def normalizeSchoolLevel (value : Option String) (roles : List String) :
    Except UserRefusal (Option String) :=
  let primary := roles.any fun role => role ∈ primaryRoles
  let secondary := roles.any fun role => role ∈ secondaryRoles
  match value.filter fun level => level ≠ "" with
  | none =>
    .ok
      (if primary && !secondary then some "primary"
      else if secondary && !primary then some "secondary"
      else if roles.any fun role => role ∈ levelRequiredRoles then none
      else some "all")
  | some value =>
    let level := lowerCase (trim value)
    if level ∉ schoolLevelNames then .error (400, "Unknown school level: " ++ value)
    else if primary && level ∉ ["nursery", "primary"] then
      .error (400, "Primary academic roles require a primary or nursery school level")
    else if secondary && level ∉ ["secondary", "jss", "sss"] then
      .error (400, "Secondary academic roles require a secondary school level")
    else .ok (some level)

/-- A role needs a school level, and there is none. -/
def checkLevel (roles : List String) (schoolLevel : Option String) : Except UserRefusal Unit :=
  if (roles.any fun role => role ∈ levelRequiredRoles) && schoolLevel.isNone then
    .error (400, "A school level is required for this role")
  else .ok ()

def normalizeGender (gender : Option String) : Except UserRefusal (Option String) :=
  match gender.filter fun g => g ≠ "" with
  | none => .ok none
  | some g =>
    if lowerCase (trim g) ≠ "" ∧ lowerCase (trim g) ∉ genders then
      .error (400, "Gender must be male or female")
    else .ok (some (lowerCase (trim g)))

def assertPassportPhoto (value : Option String) : Except UserRefusal (Option String) :=
  match value.filter fun photo => photo ≠ "" with
  | none => .ok none
  | some photo =>
    if 280000 < utf16Length photo then
      .error (400, "Passport photo is too large. Use a passport-size JPEG under ~200KB.")
    else if ["jpeg", "jpg", "png", "webp"].any fun kind =>
        ("data:image/" ++ kind ++ ";base64,").toList.isPrefixOf
          (lowerCase photo).toList then
      .ok (some photo)
    else .error (400, "Passport photo must be a JPEG, PNG, or WebP data URL")

def generateAdmissionNo (env : UserEnv) : Except UserRefusal String :=
  match env.admissionNo with
  | some admissionNo => .ok admissionNo
  | none => .error (400, "Unable to generate a unique admission number")

/-- The admission number of a student who has none, or the one there is. -/
def admissionFor (env : UserEnv) (roles : List String) (kept : Option String) :
    Except UserRefusal (Option String) :=
  if "student" ∈ roles ∧ kept = none then some <$> generateAdmissionNo env else .ok kept

/-! ## Creating a user -/

/-- `CreateTenantUserInput`. -/
structure CreateUserBody where
  fullName : String := ""
  email : String
  password : String := ""
  roles : List String
  phone : Option String := none
  major : Option String := none
  schoolLevel : Option String := none
  gender : Option String := none
  privilegeChangeReason : Option String := none
  deriving DecidableEq

/-- `value || null`. -/
def textOrNull (value : Option String) : Option String := value.filter fun text => text ≠ ""

/-- The row that `createTenantUser` inserts, with its new id. -/
def newTenantUser (env : UserEnv) (userId : String) (actor : AuthUserClaims)
    (body : CreateUserBody) (users : UserTable) : Except UserRefusal TenantUser := do
  let _ ← assertCanAssignPrivileges (some actor)
  requirePrivilegeReason body.privilegeChangeReason "creating a user with roles"
  checkRoles env body.roles
  let schoolLevel ← normalizeSchoolLevel body.schoolLevel body.roles
  let gender ← normalizeGender body.gender
  let admissionNo ← admissionFor env body.roles none
  checkLevel body.roles schoolLevel
  if users.rows.any fun row => row.email = lowerCase body.email then
    throw (400, "A user with this email already exists")
  pure
    { id := userId, email := lowerCase body.email, name := body.fullName
      phone := textOrNull body.phone, major := textOrNull body.major, schoolLevel, gender
      admissionNo, passwordHash := env.hashPassword body.password, roles := body.roles
      permissions := derivePermissionsForRoles body.roles }

/-- `ALL_ROLES` of the control plane. -/
def primaryOwnerRoles : List String :=
  ["director", "school_admin", "it_admin", "bursar", "administrative_staff"]

/-- The row that `createPrimaryOwnerUser` inserts. -/
def primaryOwner (userId email name passwordHash : String) (phone : Option String) : TenantUser :=
  { id := userId, email, name, phone, passwordHash, roles := primaryOwnerRoles
    permissions := ["*"], capabilities := ["*"] }

/-! ## Updating a user -/

/-- The body of `updateTenantUser`; a field that is not there is `none`. -/
structure UpdateUserBody where
  name : Option String := none
  email : Option String := none
  roles : Option (List String) := none
  capabilities : Option (List String) := none
  privilegeChangeReason : Option String := none
  isActive : Option Bool := none
  password : Option String := none
  phone : Option String := none
  major : Option (Option String) := none
  schoolLevel : Option (Option String) := none
  gender : Option (Option String) := none
  passportPhoto : Option (Option String) := none
  deriving DecidableEq

/-- The school level that `mapUserRow` gives. -/
def TenantUser.shownLevel (row : TenantUser) : String :=
  match textOrNull row.schoolLevel with
  | some level => level
  | none =>
    if row.roles.any fun role => role ∈ primaryRoles then "primary"
    else if row.roles.any fun role => role ∈ secondaryRoles then "secondary"
    else "all"

structure RolePlan where
  roles : List String
  schoolLevel : Option String
  admissionNo : Option String
  changing : Bool

/-- `updateTenantUser`, the roles. -/
def planRoles (env : UserEnv) (body : UpdateUserBody) (existing : TenantUser) :
    Except UserRefusal RolePlan :=
  match body.roles with
  | some roles => do
    checkRoles env roles
    let schoolLevel ←
      normalizeSchoolLevel ((body.schoolLevel.getD none).or (some existing.shownLevel)) roles
    checkLevel roles schoolLevel
    let admissionNo ← admissionFor env roles (textOrNull existing.admissionNo)
    pure { roles, schoolLevel, admissionNo, changing := !arraysEqualAsSets existing.roles roles }
  | none => do
    let schoolLevel ←
      match body.schoolLevel with
      | some level => normalizeSchoolLevel level existing.roles
      | none => pure (some existing.shownLevel)
    pure
      { roles := existing.roles, schoolLevel
        admissionNo := textOrNull existing.admissionNo, changing := false }

/-- `updateTenantUser`, the capabilities, if they change. -/
def planCapabilities (body : UpdateUserBody) (existing : TenantUser) :
    Except UserRefusal (Option (List String)) :=
  match body.capabilities with
  | none => .ok none
  | some given =>
    let capabilities := (given.filter fun cap => !blank cap).map trim
    if arraysEqualAsSets existing.capabilities capabilities then .ok none
    else do
      assertCapabilitiesAllowed capabilities
      pure (some capabilities)

/-- The columns that either branch of `updateTenantUser` sets alike. -/
def planProfile (env : UserEnv) (body : UpdateUserBody) : Except UserRefusal UserUpdate := do
  let gender ← body.gender.mapM normalizeGender
  let passportPhoto ← body.passportPhoto.mapM assertPassportPhoto
  pure
    { name := body.name, email := body.email.map lowerCase, isActive := body.isActive
      phone := body.phone.map fun phone => textOrNull (some phone)
      major := body.major.map textOrNull, gender, passportPhoto
      passwordHash := (textOrNull body.password).map env.hashPassword }

/-- The columns that `updateTenantUser` sets, of a user that is there. -/
def updateTenantUser (env : UserEnv) (actor : Option AuthUserClaims) (id : String)
    (body : UpdateUserBody) (existing : TenantUser) : Except UserRefusal UserUpdate := do
  let plan ← planRoles env body existing
  let capabilities ← planCapabilities body existing
  if plan.changing ∨ capabilities.isSome then
    let actor ← assertCanAssignPrivileges actor
    assertNotSelfPrivilegeChange actor id
    requirePrivilegeReason body.privilegeChangeReason "roles or custom capabilities change"
    let profile ← planProfile env body
    pure
      { profile with
        roles := if plan.changing then some plan.roles else none
        schoolLevel :=
          if body.schoolLevel.isSome ∨ plan.changing then some plan.schoolLevel else none
        admissionNo :=
          if plan.changing ∧ "student" ∈ plan.roles then some plan.admissionNo else none
        capabilities }
  else
    let profile ← planProfile env body
    let schoolLevel ← body.schoolLevel.mapM fun level => normalizeSchoolLevel level plan.roles
    pure { profile with schoolLevel }

/-! ## What is written -/

section Statements
variable {users users' : UserTable} {row : TenantUser} {update : UserUpdate} {id : String}

/-- A user is inserted under an e-mail and an id that are new. -/
theorem insertUser_eq_some (h : insertUser row users = some users') :
    (∀ other ∈ users.rows, other.id ≠ row.id → other.email ≠ row.email)
      ∧ users.insert? row = some users' := by
  unfold insertUser at h
  split at h
  · cases h
  rename_i hclash
  refine ⟨?_, h⟩
  intro other hother hid hemail
  exact hclash (List.any_eq_true.2 ⟨other, hother, by simp [hid, hemail]⟩)

/-- An update keeps the e-mails apart. -/
theorem setUser_eq_some (h : setUser update id users = some users') :
    users' = users.updateWhere (fun row => row.id = id) update.apply update.apply_id
      ∧ ∀ row ∈ users.rows, row.id = id → ∀ other ∈ users.rows, other.id ≠ id →
        other.email ≠ (update.apply row).email := by
  unfold setUser at h
  split at h
  · cases h
  rename_i hclash
  refine ⟨(Option.some.inj h).symm, ?_⟩
  rintro row hrow rfl other hother hid hemail
  have hclashes : (update.apply row).clashes users = true :=
    List.any_eq_true.2 ⟨other, hother, by simp [hid, hemail]⟩
  exact hclash (List.any_eq_true.2 ⟨row, hrow, by simp [hclashes]⟩)

end Statements

/-- A part of a text that begins with no space has no space in front. -/
theorem dropWhile_eq_self_of_begins {text rest : List Char} (h : rest <+: text.dropWhile isSpace) :
    rest.dropWhile isSpace = rest := by
  cases rest with
  | nil => rfl
  | cons c rest =>
    obtain ⟨tail, htail⟩ := h
    have hself := List.dropWhile_idempotent isSpace text
    rw [← htail, List.cons_append] at hself
    by_cases hc : isSpace c = true
    · rw [List.dropWhile_cons_of_pos hc] at hself
      have hshorter := (List.dropWhile_sublist isSpace (l := rest ++ tail)).length_le
      rw [hself, List.length_cons] at hshorter
      omega
    · exact List.dropWhile_cons_of_neg hc

theorem trim_trim (text : String) : trim (trim text) = trim text := by
  have hback : ∀ text : List Char,
      (text.reverse.dropWhile isSpace).reverse = text.rdropWhile isSpace := fun _ => rfl
  simp only [trim, String.toList_ofList, hback]
  rw [dropWhile_eq_self_of_begins (List.rdropWhile_prefix isSpace _), List.rdropWhile_idempotent]

section Plans
variable {env : UserEnv} {body : UpdateUserBody} {existing : TenantUser} {update : UserUpdate}
  {actor : Option AuthUserClaims} {id : String}

theorem assertCanAssignPrivileges_eq_ok {a : AuthUserClaims} :
    assertCanAssignPrivileges actor = .ok a
      ↔ actor = some a ∧ actorHasPermission a "roles:assign" = true := by
  unfold assertCanAssignPrivileges
  split
  · rename_i a' ha
    obtain ⟨hactor, hassign⟩ := Option.filter_eq_some_iff.1 ha
    rw [hactor]
    constructor
    · rintro ⟨⟩
      exact ⟨rfl, hassign⟩
    rintro ⟨⟨⟩, -⟩
    rfl
  rename_i hnone
  refine iff_of_false nofun ?_
  rintro ⟨rfl, hassign⟩
  simp [hassign] at hnone

theorem assertNotSelfPrivilegeChange_eq_ok {a : AuthUserClaims}
    (h : assertNotSelfPrivilegeChange a id = .ok ()) : actorHasWildcard a = true ∨ a.sub ≠ id := by
  unfold assertNotSelfPrivilegeChange at h
  split at h
  · rename_i hwild
    exact Or.inl hwild
  right
  rintro rfl
  simp [a.userId_eq, a.sub_ne] at h

theorem assertCapabilitiesAllowed_eq_ok {capabilities : List String}
    (h : assertCapabilitiesAllowed capabilities = .ok ()) :
    ∀ cap ∈ capabilities, Overridable (trim cap) := by
  unfold assertCapabilitiesAllowed at h
  dsimp only at h
  split at h
  · cases h
  rename_i hunknown
  split at h
  · cases h
  rename_i hroleOnly
  exact overridable_of_allowed (not_not.1 hunknown) (not_not.1 hroleOnly)

/-- Capabilities that change are such as may be granted. -/
theorem planCapabilities_eq_ok {capabilities : List String}
    (h : planCapabilities body existing = .ok (some capabilities)) :
    ∀ cap ∈ capabilities, Overridable cap := by
  unfold planCapabilities at h
  split at h
  · cases h
  dsimp only at h
  split at h
  · cases h
  obtain ⟨_, hallowed, heq⟩ := bind_eq_ok.1 h
  cases heq
  intro cap hcap
  have hover := assertCapabilitiesAllowed_eq_ok hallowed cap hcap
  obtain ⟨given, -, rfl⟩ := List.mem_map.1 hcap
  rwa [trim_trim] at hover

theorem planProfile_eq_ok (h : planProfile env body = .ok update) :
    update.roles = none ∧ update.capabilities = none
      ∧ update.email = body.email.map lowerCase ∧ update.isActive = body.isActive := by
  obtain ⟨_, _, h⟩ := bind_eq_ok.1 h
  obtain ⟨_, _, h⟩ := bind_eq_ok.1 h
  cases h
  exact ⟨rfl, rfl, rfl, rfl⟩

/-- What an update does to the e-mail and the active flag. -/
theorem updateTenantUser_profile (h : updateTenantUser env actor id body existing = .ok update) :
    update.email = body.email.map lowerCase ∧ update.isActive = body.isActive := by
  obtain ⟨plan, _, h⟩ := bind_eq_ok.1 h
  obtain ⟨capabilities, _, h⟩ := bind_eq_ok.1 h
  split at h
  · obtain ⟨a, _, h⟩ := bind_eq_ok.1 h
    obtain ⟨_, _, h⟩ := bind_eq_ok.1 h
    obtain ⟨_, _, h⟩ := bind_eq_ok.1 h
    obtain ⟨profile, hprofile, h⟩ := bind_eq_ok.1 h
    cases h
    exact (planProfile_eq_ok hprofile).2.2
  obtain ⟨profile, hprofile, h⟩ := bind_eq_ok.1 h
  obtain ⟨_, _, h⟩ := bind_eq_ok.1 h
  cases h
  exact (planProfile_eq_ok hprofile).2.2

/-- **Who changes grants**: an update sets roles and capabilities only for an actor who may assign
roles, of another user unless the actor has the wildcard, and only capabilities that may be granted
besides the roles. -/
theorem updateTenantUser_grants (h : updateTenantUser env actor id body existing = .ok update) :
    (update.roles = none ∧ update.capabilities = none)
      ∨ ∃ a, actor = some a ∧ actorHasPermission a "roles:assign" = true
        ∧ (actorHasWildcard a = true ∨ a.sub ≠ id)
        ∧ ∀ capabilities, update.capabilities = some capabilities →
          ∀ cap ∈ capabilities, Overridable cap := by
  obtain ⟨plan, _, h⟩ := bind_eq_ok.1 h
  obtain ⟨capabilities, hcapabilities, h⟩ := bind_eq_ok.1 h
  split at h
  · obtain ⟨a, hassign, h⟩ := bind_eq_ok.1 h
    obtain ⟨_, hself, h⟩ := bind_eq_ok.1 h
    obtain ⟨_, _, h⟩ := bind_eq_ok.1 h
    obtain ⟨profile, _, h⟩ := bind_eq_ok.1 h
    cases h
    obtain ⟨hactor, hmay⟩ := assertCanAssignPrivileges_eq_ok.1 hassign
    refine Or.inr ⟨a, hactor, hmay, assertNotSelfPrivilegeChange_eq_ok hself, ?_⟩
    rintro capabilities' rfl
    exact planCapabilities_eq_ok hcapabilities
  obtain ⟨profile, hprofile, h⟩ := bind_eq_ok.1 h
  obtain ⟨_, _, h⟩ := bind_eq_ok.1 h
  cases h
  obtain ⟨hroles, hcaps, -, -⟩ := planProfile_eq_ok hprofile
  exact Or.inl ⟨hroles, hcaps⟩

/-- The row that is inserted. -/
theorem newTenantUser_eq_ok {a : AuthUserClaims} {userId : String} {body : CreateUserBody}
    {users : UserTable} {row : TenantUser}
    (h : newTenantUser env userId a body users = .ok row) :
    row.id = userId ∧ row.email = lowerCase body.email ∧ row.isActive = true
      ∧ row.permissions = derivePermissionsForRoles row.roles ∧ row.capabilities = []
      ∧ ∀ other ∈ users.rows, other.email ≠ row.email := by
  obtain ⟨_, _, h⟩ := bind_eq_ok.1 h
  obtain ⟨_, _, h⟩ := bind_eq_ok.1 h
  obtain ⟨_, _, h⟩ := bind_eq_ok.1 h
  obtain ⟨_, _, h⟩ := bind_eq_ok.1 h
  obtain ⟨_, _, h⟩ := bind_eq_ok.1 h
  obtain ⟨_, _, h⟩ := bind_eq_ok.1 h
  obtain ⟨_, _, h⟩ := bind_eq_ok.1 h
  obtain ⟨hnew, h⟩ := check_eq_ok.1 h
  cases h
  refine ⟨rfl, rfl, rfl, rfl, rfl, ?_⟩
  intro other hother hsame
  exact hnew (List.any_eq_true.2 ⟨other, hother, by simpa using hsame⟩)

end Plans

end MultiAcademy.School
