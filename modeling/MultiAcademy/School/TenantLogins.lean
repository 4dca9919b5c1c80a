import MultiAcademy.Lib.Run
import MultiAcademy.School.TenantUsers

/-!
# Users and their login mappings

The users of each tenant are in its own database, and the mappings that a login is resolved by in
the control database: `createPrimaryOwnerUser` and `resolveTenantForUserEmail` of
`control-plane/control-plane.service.ts`, and `createTenantUser`, `updateTenantUser` and
`deleteTenantUser` of `users/users.service.ts`.
-/

namespace MultiAcademy.School

open MultiAcademy.Lib

/-! ## The databases -/

/-- A row of `user_tenant_mappings`. -/
structure UserTenantMapping where
  id : String
  userId : String
  tenantId : String
  email : String
  isPrimaryTenant : Bool
  isActive : Bool
  deriving DecidableEq

/-- `SET isactive = false`. -/
def UserTenantMapping.released (m : UserTenantMapping) : UserTenantMapping :=
  { m with isActive := false }

@[simp] theorem UserTenantMapping.released_id (m : UserTenantMapping) : m.released.id = m.id := rfl

/-- The columns of a row of `tenants_configs` that are read here. -/
structure OwnedTenant where
  id : String
  schoolBusinessOrganisationId : String
  status : String := "active"
  provisioningStatus : String := "ready"
  ownerEmail : Option String := none
  ownerFullName : Option String := none
  ownerPhone : Option String := none
  ownerEmailVerified : Bool := true
  ownerStagedPasswordHash : Option String := none
  deriving DecidableEq

/-- The users and the links of each tenant, and the control database. -/
structure LoginStores where
  users : String → UserTable := fun _ => .empty
  links : String → List ParentLink := fun _ => []
  mappings : Keyed UserTenantMapping.id := .empty
  tenants : Keyed OwnedTenant.id := .empty

namespace LoginStores
variable (d : LoginStores)

def setUsers (tenantId : String) (users : UserTable) : LoginStores :=
  { d with users := fun key => if key = tenantId then users else d.users key }

/-- An active mapping of the e-mail to the tenant. -/
def mapsEmail (tenantId email : String) : Bool :=
  d.mappings.rows.any fun m => m.tenantId = tenantId && m.email = email && m.isActive

/-- `mappingRepo.update({ tenantId, userId }, { isActive: false })`. -/
def unmap (tenantId userId : String) : LoginStores :=
  { d with
    mappings := d.mappings.updateWhere (fun m => m.tenantId = tenantId && m.userId = userId)
      UserTenantMapping.released UserTenantMapping.released_id }

/-- `mappingRepo.save(mapping)`. -/
def saveMapping (m : UserTenantMapping) : LoginStores := { d with mappings := d.mappings.put m }

end LoginStores

/-! ## Resolving a login -/

def resolveTenantBySboId (sboId : String) (d : LoginStores) : Except UserRefusal OwnedTenant :=
  match d.tenants.rows.find? fun tenant => tenant.schoolBusinessOrganisationId = sboId with
  | none => .error (404, "Organization not found for provided schoolBusinessOrganisationId")
  | some tenant =>
    if tenant.status ≠ "active" then .error (400, "Organization is not active") else .ok tenant

/-- `resolveTenantForUserEmail`; mappings are listed from the oldest. -/
def resolveTenantForUserEmail (email : String) (sboId : Option String) (d : LoginStores) :
    Except UserRefusal OwnedTenant :=
  match textOrNull sboId with
  | some sboId =>
    match resolveTenantBySboId sboId d with
    | .error refusal => .error refusal
    | .ok tenant =>
      if d.mapsEmail tenant.id (lowerCase email) then .ok tenant
      else .error (404, "User is not mapped to provided tenant")
  | none =>
    let mappings := d.mappings.rows.reverse.filter fun m =>
      m.email = lowerCase email && m.isPrimaryTenant && m.isActive
    if mappings = [] then .error (404, "No active tenant mapping found for user")
    else
      match mappings.findSome? fun m => (d.tenants.find? m.tenantId).filter fun tenant =>
          tenant.status = "active" && tenant.provisioningStatus = "ready" with
      | some tenant => .ok tenant
      | none => .error (404, "No ready tenant configuration found for user")

/-! ## The operations -/

def stagedOwner (sboId email : String) (d : LoginStores) :
    Except UserRefusal (OwnedTenant × String) := do
  let tenant ← resolveTenantBySboId sboId d
  if lowerCase (tenant.ownerEmail.getD "") ≠ lowerCase email then
    throw (400, "Email does not match staged owner email")
  if tenant.ownerEmailVerified = false then throw (400, "Owner email is not verified")
  match textOrNull tenant.ownerStagedPasswordHash with
  | none => throw (400, "No staged owner password found for tenant")
  | some passwordHash =>
    if d.mapsEmail tenant.id (lowerCase email) then
      throw (409, "User already mapped to this tenant")
    pure (tenant, passwordHash)

/-- The primary mappings of an e-mail to other tenants are given up. -/
def releaseMappings (tenantId email : String) (d : LoginStores) : LoginStores :=
  { d with
    mappings := d.mappings.updateWhere
      (fun m => m.email = email && m.isPrimaryTenant && m.isActive && m.tenantId ≠ tenantId)
      UserTenantMapping.released UserTenantMapping.released_id }

def clearStaged (tenantId : String) (d : LoginStores) : LoginStores :=
  { d with
    tenants := d.tenants.updateWhere (fun tenant => tenant.id = tenantId)
      (fun tenant => { tenant with ownerStagedPasswordHash := none }) fun _ => rfl }

/-- The mapping that `createPrimaryOwnerUser` saves. -/
def ownerMapping (mappingId userId email : String) (tenant : OwnedTenant) : UserTenantMapping :=
  { id := mappingId, userId, tenantId := tenant.id, email := lowerCase email
    isPrimaryTenant := true, isActive := true }

def ownerRow (userId email passwordHash : String) (tenant : OwnedTenant) : TenantUser :=
  primaryOwner userId (lowerCase email) ((textOrNull tenant.ownerFullName).getD "Primary Owner")
    passwordHash (textOrNull tenant.ownerPhone)

/-- `createPrimaryOwnerUser`, with the ids of the user and of the mapping. -/
def createPrimaryOwnerUser (userId mappingId sboId email : String) (d : LoginStores) :
    Option UserRefusal × LoginStores :=
  match stagedOwner sboId email d with
  | .error refusal => (some refusal, d)
  | .ok (tenant, passwordHash) =>
    let d := (releaseMappings tenant.id (lowerCase email) d).saveMapping
      (ownerMapping mappingId userId email tenant)
    match insertUser (ownerRow userId email passwordHash tenant) (d.users tenant.id) with
    | none => (some (500, "Internal server error"), d)
    | some users => (none, clearStaged tenant.id (d.setUsers tenant.id users))

/-- `createTenantUser`, its mapping. -/
def mapTenantUser (tenantId mappingId : String) (row : TenantUser) (d : LoginStores) :
    LoginStores :=
  if d.mapsEmail tenantId row.email then d
  else
    d.saveMapping
      { id := mappingId, userId := row.id, tenantId, email := row.email
        isPrimaryTenant := !d.mappings.rows.any fun m =>
          m.email = row.email && m.isPrimaryTenant && m.isActive
        isActive := true }

/-- `createTenantUser`, with the ids of the user and of the mapping. -/
def createMappedUser (env : UserEnv) (userId mappingId tenantId : String) (actor : AuthUserClaims)
    (body : CreateUserBody) (d : LoginStores) : Option UserRefusal × LoginStores :=
  match newTenantUser env userId actor body (d.users tenantId) with
  | .error refusal => (some refusal, d)
  | .ok row =>
    match insertUser row (d.users tenantId) with
    | none => (some (500, "Internal server error"), d)
    | some users => (none, mapTenantUser tenantId mappingId row (d.setUsers tenantId users))

/-- `updateTenantUser`. -/
def updateMappedUser (env : UserEnv) (tenantId : String) (actor : Option AuthUserClaims)
    (id : String) (body : UpdateUserBody) (d : LoginStores) : Option UserRefusal × LoginStores :=
  match (d.users tenantId).find? id with
  | none => (some (404, "User not found"), d)
  | some existing =>
    match updateTenantUser env actor id body existing with
    | .error refusal => (some refusal, d)
    | .ok update =>
      if update = {} then (none, d)
      else
        match setUser update id (d.users tenantId) with
        | none => (some (500, "Internal server error"), d)
        | some users => (none, d.setUsers tenantId users)

/-- `deleteTenantUser`, a parent. -/
def archiveMappedParent (tenantId parentId : String) (d : LoginStores) : LoginStores :=
  if hasActiveChild parentId (d.links tenantId) (d.users tenantId) then d
  else
    (d.setUsers tenantId (deactivateParent parentId (d.users tenantId))).unmap tenantId parentId

/-- `deleteTenantUser`. -/
def deleteMappedUser (tenantId id : String) (d : LoginStores) :
    Option UserRefusal × LoginStores :=
  match (d.users tenantId).find? id with
  | none => (some (404, "User not found"), d)
  | some existing =>
    let d := d.setUsers tenantId (deactivateUser id (d.users tenantId))
    let parents := if "student" ∈ existing.roles then parentsOf id (d.links tenantId) else []
    (none, (parents.foldl (fun d parentId => archiveMappedParent tenantId parentId d) d).unmap
      tenantId id)

/-- An operation, or something else changes the tenants or the links. -/
inductive LoginEvent
  | createOwner (userId mappingId sboId email : String)
  | create (env : UserEnv) (userId mappingId tenantId : String) (actor : AuthUserClaims)
      (body : CreateUserBody)
  | update (env : UserEnv) (tenantId : String) (actor : Option AuthUserClaims) (id : String)
      (body : UpdateUserBody)
  | delete (tenantId id : String)
  | setTenants (tenants : Keyed OwnedTenant.id)
  | setLinks (links : String → List ParentLink)

def loginStep (e : LoginEvent) (d : LoginStores) : LoginStores :=
  match e with
  | .createOwner userId mappingId sboId email =>
    (createPrimaryOwnerUser userId mappingId sboId email d).2
  | .create env userId mappingId tenantId actor body =>
    (createMappedUser env userId mappingId tenantId actor body d).2
  | .update env tenantId actor id body => (updateMappedUser env tenantId actor id body d).2
  | .delete tenantId id => (deleteMappedUser tenantId id d).2
  | .setTenants tenants => { d with tenants }
  | .setLinks links => { d with links }

/-! ## In step -/

/-- An active mapping of the user under their e-mail. -/
def Mapped (tenantId : String) (user : TenantUser) (d : LoginStores) : Prop :=
  ∃ m ∈ d.mappings.rows, m.isActive = true ∧ m.tenantId = tenantId ∧ m.userId = user.id
    ∧ m.email = user.email

instance (tenantId : String) (user : TenantUser) (d : LoginStores) :
    Decidable (Mapped tenantId user d) :=
  inferInstanceAs (Decidable (∃ m ∈ d.mappings.rows, _))

/-- **Users and mappings are in step**: a user is active exactly when there is an active mapping of
the user under the current e-mail, and exactly when this e-mail resolves their active tenant. -/
structure LoginsInStep (d : LoginStores) : Prop where
  mapped : ∀ tenantId, ∀ user ∈ (d.users tenantId).rows,
    user.isActive = true ↔ Mapped tenantId user d
  resolved : ∀ sboId tenant, sboId ≠ "" → resolveTenantBySboId sboId d = .ok tenant →
    ∀ user ∈ (d.users tenant.id).rows,
      user.isActive = true ↔ resolveTenantForUserEmail user.email (some sboId) d = .ok tenant

def ParentsOk (tenantId : String) : List String → LoginStores → Prop
  | [], _ => True
  | parentId :: parents, d =>
    (hasActiveChild parentId (d.links tenantId) (d.users tenantId) = false →
      ∀ user ∈ (d.users tenantId).rows, user.id = parentId → user.isActive = true →
        "parent" ∈ user.roles)
      ∧ ParentsOk tenantId parents (archiveMappedParent tenantId parentId d)

/-- A mapping is saved under a new id; the owner's e-mail and id are new to the tenant, and the
e-mail is the primary one of no other tenant; an update keeps the active flag, and the e-mail of a
user who is active; and a parent who is archived with the last child has the role of a parent. -/
def LoginStepOk (d : LoginStores) : LoginEvent → Prop
  | .createOwner userId mappingId sboId email =>
    ∀ owner, stagedOwner sboId email d = .ok owner →
      (∀ m ∈ d.mappings.rows, m.id ≠ mappingId
        ∧ (m.email = lowerCase email → m.isPrimaryTenant = true → m.isActive = true →
          m.tenantId = owner.1.id))
      ∧ ∀ user ∈ (d.users owner.1.id).rows, user.id ≠ userId ∧ user.email ≠ lowerCase email
  | .create _ _ mappingId _ _ _ => ∀ m ∈ d.mappings.rows, m.id ≠ mappingId
  | .update env tenantId actor id body =>
    ∀ user, (d.users tenantId).find? id = some user →
      (∃ update, updateTenantUser env actor id body user = .ok update) →
      (∀ isActive, body.isActive = some isActive → isActive = user.isActive)
        ∧ (user.isActive = true → ∀ email, body.email = some email → lowerCase email = user.email)
  | .delete tenantId id =>
    ∀ user, (d.users tenantId).find? id = some user → "student" ∈ user.roles →
      ParentsOk tenantId (parentsOf id (d.links tenantId))
        (d.setUsers tenantId (deactivateUser id (d.users tenantId)))
  | _ => True

/-! ## What the operations keep -/

/-- E-mails are in lower case and no two users of a tenant share one, active users are mapped, and
active mappings are of active users under their e-mail, some apart who are no longer active. -/
structure LoginsOk (pending : String → String → Prop) (d : LoginStores) : Prop where
  emails : ∀ tenantId, ∀ user ∈ (d.users tenantId).rows, ∀ other ∈ (d.users tenantId).rows,
    user.email = other.email → user.id = other.id
  lower : ∀ tenantId, ∀ user ∈ (d.users tenantId).rows, lowerCase user.email = user.email
  mapped : ∀ tenantId, ∀ user ∈ (d.users tenantId).rows, user.isActive = true →
    Mapped tenantId user d
  owned : ∀ m ∈ d.mappings.rows, m.isActive = true → pending m.tenantId m.userId
    ∨ ∃ user ∈ (d.users m.tenantId).rows, user.id = m.userId ∧ user.email = m.email
      ∧ user.isActive = true
  inactive : ∀ tenantId, ∀ user ∈ (d.users tenantId).rows, pending tenantId user.id →
    user.isActive = false

section Steps
variable {d : LoginStores} {tenantId userId id : String} {users : UserTable} {row : TenantUser}
  {pending : String → String → Prop} {user : TenantUser}

@[simp] theorem setUsers_self : (d.setUsers tenantId users).users tenantId = users := if_pos rfl

theorem setUsers_of_ne {key : String} (h : key ≠ tenantId) :
    (d.setUsers tenantId users).users key = d.users key := if_neg h

theorem charToLower_charToLower (c : Char) : c.toLower.toLower = c.toLower := by
  unfold Char.toLower
  split
  · rename_i hupper
    split
    · rename_i hagain
      -- a capital letter moves out of the range of capital letters
      simp only [ge_iff_le, UInt32.le_iff_toNat_le] at hupper hagain
      simp at hupper hagain
      omega
    · rfl
  · rfl

theorem lowerCase_lowerCase (text : String) : lowerCase (lowerCase text) = lowerCase text := by
  simp only [lowerCase, String.toList_ofList, List.map_map]
  congr 2
  funext c
  exact charToLower_charToLower c

theorem mapsEmail_iff {email : String} :
    d.mapsEmail tenantId email = true
      ↔ ∃ m ∈ d.mappings.rows, m.isActive = true ∧ m.tenantId = tenantId ∧ m.email = email := by
  simp only [LoginStores.mapsEmail, List.any_eq_true, Bool.and_eq_true, decide_eq_true_eq]
  constructor
  · rintro ⟨m, hm, ⟨htenant, hemail⟩, hactive⟩
    exact ⟨m, hm, hactive, htenant, hemail⟩
  rintro ⟨m, hm, hactive, htenant, hemail⟩
  exact ⟨m, hm, ⟨htenant, hemail⟩, hactive⟩

/-- An e-mail is mapped to a tenant when its user is active there. -/
theorem LoginsOk.mapsEmail (h : LoginsOk (fun _ _ => False) d)
    (huser : user ∈ (d.users tenantId).rows) :
    d.mapsEmail tenantId user.email = true ↔ user.isActive = true := by
  rw [mapsEmail_iff]
  constructor
  · rintro ⟨m, hm, hactive, rfl, hemail⟩
    rcases h.owned m hm hactive with hpending | ⟨other, hother, -, hsame, hother'⟩
    · exact hpending.elim
    have hid := h.emails _ user huser other hother (hemail.symm.trans hsame.symm)
    rw [Keyed.eq_of_key huser hother hid]
    exact hother'
  intro hactive
  obtain ⟨m, hm, hm', htenant, -, hemail⟩ := h.mapped tenantId user huser hactive
  exact ⟨m, hm, hm', htenant, hemail⟩

theorem LoginsOk.inStep (h : LoginsOk (fun _ _ => False) d) : LoginsInStep d where
  mapped tenantId user huser := by
    refine ⟨h.mapped tenantId user huser, ?_⟩
    rintro ⟨m, hm, hactive, htenant, -, hemail⟩
    exact (h.mapsEmail huser).1 (mapsEmail_iff.2 ⟨m, hm, hactive, htenant, hemail⟩)
  resolved sboId tenant hsbo hresolve user huser := by
    have htext : textOrNull (some sboId) = some sboId := by simp [textOrNull, hsbo]
    rw [← h.mapsEmail huser]
    simp only [resolveTenantForUserEmail, htext, hresolve, h.lower tenant.id user huser]
    cases d.mapsEmail tenant.id user.email <;> simp

/-! ### Creations -/

theorem mem_saveMapping {m m' : UserTenantMapping} (hnew : ∀ m' ∈ d.mappings.rows, m'.id ≠ m.id) :
    m' ∈ (d.saveMapping m).mappings.rows ↔ m' ∈ d.mappings.rows ∨ m' = m := by
  simp only [LoginStores.saveMapping, Keyed.mem_put]
  constructor
  · rintro (⟨hm, -⟩ | rfl)
    · exact Or.inl hm
    · exact Or.inr rfl
  rintro (hm | rfl)
  · exact Or.inl ⟨hm, hnew m' hm⟩
  · exact Or.inr rfl

theorem insertUser_new {users' : UserTable} (h : insertUser row users = some users') :
    (∀ other ∈ users.rows, other.id ≠ row.id ∧ other.email ≠ row.email)
      ∧ ∀ other, other ∈ users'.rows ↔ other ∈ users.rows ∨ other = row := by
  obtain ⟨hemails, hinsert⟩ := insertUser_eq_some h
  obtain ⟨hnone, hmem⟩ := Keyed.insert?_eq_some hinsert
  refine ⟨?_, hmem⟩
  intro other hother
  have hid := Keyed.find?_eq_none.1 hnone other hother
  exact ⟨hid, hemails other hother hid⟩

/-- A user who is inserted together with a mapping of their own. -/
theorem loginsOk_insert (h : LoginsOk (fun _ _ => False) d)
    (hinsert : insertUser row (d.users tenantId) = some users) {m : UserTenantMapping}
    (hnew : ∀ m' ∈ d.mappings.rows, m'.id ≠ m.id) (hlower : lowerCase row.email = row.email)
    (hactive : row.isActive = true)
    (hm : m.isActive = true ∧ m.tenantId = tenantId ∧ m.userId = row.id ∧ m.email = row.email) :
    LoginsOk (fun _ _ => False) ((d.setUsers tenantId users).saveMapping m) := by
  obtain ⟨hfresh, hrows⟩ := insertUser_new hinsert
  have husers : ∀ key user, user ∈ ((d.setUsers tenantId users).users key).rows →
      user ∈ (d.users key).rows ∨ key = tenantId ∧ user = row := by
    intro key user huser
    by_cases hkey : key = tenantId
    · subst hkey
      rw [setUsers_self] at huser
      exact ((hrows user).1 huser).imp_right fun hrow => ⟨rfl, hrow⟩
    rw [setUsers_of_ne hkey] at huser
    exact Or.inl huser
  have hkept : ∀ key user, user ∈ (d.users key).rows →
      user ∈ ((d.setUsers tenantId users).users key).rows := by
    intro key user huser
    by_cases hkey : key = tenantId
    · subst hkey
      rw [setUsers_self]
      exact (hrows user).2 (Or.inl huser)
    rw [setUsers_of_ne hkey]
    exact huser
  have hmem : ∀ m', m' ∈ ((d.setUsers tenantId users).saveMapping m).mappings.rows
      ↔ m' ∈ d.mappings.rows ∨ m' = m := fun _ => mem_saveMapping hnew
  refine ⟨?_, ?_, ?_, ?_, fun _ _ _ hpending => hpending.elim⟩
  · intro key user huser other hother hemail
    rcases husers key user huser with hold | ⟨rfl, rfl⟩
    · rcases husers key other hother with hold' | ⟨rfl, rfl⟩
      · exact h.emails key user hold other hold' hemail
      · exact absurd hemail (hfresh user hold).2
    rcases husers key other hother with hold' | ⟨-, rfl⟩
    · exact absurd hemail.symm (hfresh other hold').2
    · rfl
  · intro key user huser
    rcases husers key user huser with hold | ⟨rfl, rfl⟩
    · exact h.lower key user hold
    · exact hlower
  · intro key user huser hactive'
    rcases husers key user huser with hold | ⟨rfl, rfl⟩
    · obtain ⟨m', hm', hmapped⟩ := h.mapped key user hold hactive'
      exact ⟨m', (hmem m').2 (Or.inl hm'), hmapped⟩
    · exact ⟨m, (hmem m).2 (Or.inr rfl), hm⟩
  intro m' hm' hactive'
  right
  rcases (hmem m').1 hm' with hold | rfl
  · obtain ⟨user, huser, howned⟩ := (h.owned m' hold hactive').resolve_left fun hf => hf
    exact ⟨user, hkept _ user huser, howned⟩
  obtain ⟨-, rfl, huserId, hemail⟩ := hm
  refine ⟨row, ?_, huserId.symm, hemail.symm, hactive⟩
  simp only [LoginStores.saveMapping, setUsers_self]
  exact (hrows row).2 (Or.inr rfl)

/-! ### Changes of a table -/

/-- The users of one tenant are updated: their ids stay, what is active was so before under the
same e-mail, and stays so unless it is pending. -/
theorem loginsOk_updateWhere {pending' : String → String → Prop} (h : LoginsOk pending d)
    {p : TenantUser → Bool} {f : TenantUser → TenantUser} (hf : ∀ row, (f row).id = row.id)
    (hemails : ∀ user ∈ ((d.users tenantId).updateWhere p f hf).rows,
      ∀ other ∈ ((d.users tenantId).updateWhere p f hf).rows,
        user.email = other.email → user.id = other.id)
    (hlower : ∀ user ∈ (d.users tenantId).rows, p user = true →
      lowerCase (f user).email = (f user).email)
    (hactive : ∀ user ∈ (d.users tenantId).rows, p user = true → (f user).isActive = true →
      user.isActive = true ∧ (f user).email = user.email)
    (hkept : ∀ user ∈ (d.users tenantId).rows, p user = true → user.isActive = true →
      pending' tenantId user.id ∨ (f user).isActive = true)
    (hpending : ∀ key id, pending key id → pending' key id)
    (hinactive : ∀ key, ∀ user ∈ (d.users key).rows, pending' key user.id →
      pending key user.id ∨ user.isActive = false
        ∨ key = tenantId ∧ p user = true ∧ (f user).isActive = false) :
    LoginsOk pending' (d.setUsers tenantId ((d.users tenantId).updateWhere p f hf)) := by
  have husers : ∀ key user, user ∈ ((d.setUsers tenantId
      ((d.users tenantId).updateWhere p f hf)).users key).rows →
        user ∈ (d.users key).rows ∧ (key = tenantId → p user = false)
          ∨ key = tenantId ∧ ∃ old ∈ (d.users tenantId).rows, p old = true ∧ f old = user := by
    intro key user huser
    by_cases hkey : key = tenantId
    · subst hkey
      rw [setUsers_self, Keyed.mem_updateWhere] at huser
      obtain ⟨old, hold, rfl⟩ := huser
      by_cases hp : p old = true
      · rw [if_pos hp]
        exact Or.inr ⟨rfl, old, hold, hp, rfl⟩
      rw [if_neg hp]
      exact Or.inl ⟨hold, fun _ => by simpa using hp⟩
    rw [setUsers_of_ne hkey] at huser
    exact Or.inl ⟨huser, fun hsame => absurd hsame hkey⟩
  refine ⟨?_, ?_, ?_, ?_, ?_⟩
  · intro key user huser other hother hemail
    by_cases hkey : key = tenantId
    · subst hkey
      rw [setUsers_self] at huser hother
      exact hemails user huser other hother hemail
    rw [setUsers_of_ne hkey] at huser hother
    exact h.emails key user huser other hother hemail
  · intro key user huser
    rcases husers key user huser with ⟨hold, -⟩ | ⟨rfl, old, hold, hp, rfl⟩
    · exact h.lower key user hold
    · exact hlower old hold hp
  · intro key user huser hactive'
    rcases husers key user huser with ⟨hold, -⟩ | ⟨rfl, old, hold, hp, rfl⟩
    · exact h.mapped key user hold hactive'
    obtain ⟨hwas, hemail⟩ := hactive old hold hp hactive'
    obtain ⟨m, hm, hm', htenant, huserId, hm''⟩ := h.mapped key old hold hwas
    exact ⟨m, hm, hm', htenant, huserId.trans (hf old).symm, hm''.trans hemail.symm⟩
  · intro m hm hm'
    rcases h.owned m hm hm' with hpending' | ⟨user, huser, huserId, hemail, hactive'⟩
    · exact Or.inl (hpending _ _ hpending')
    by_cases hkey : m.tenantId = tenantId
    · rw [hkey] at huser ⊢
      rw [setUsers_self]
      by_cases hp : p user = true
      · rcases hkept user huser hp hactive' with hpend | hstill
        · exact Or.inl (huserId ▸ hpend)
        right
        refine ⟨f user, (Keyed.mem_updateWhere hf).2 ⟨user, huser, if_pos hp⟩,
          (hf user).trans huserId, ?_, hstill⟩
        rw [(hactive user huser hp hstill).2, hemail]
      exact Or.inr ⟨user, (Keyed.mem_updateWhere hf).2 ⟨user, huser, if_neg hp⟩, huserId,
        hemail, hactive'⟩
    rw [setUsers_of_ne hkey]
    exact Or.inr ⟨user, huser, huserId, hemail, hactive'⟩
  intro key user huser hpend
  rcases husers key user huser with ⟨hold, hnot⟩ | ⟨rfl, old, hold, hp, rfl⟩
  · rcases hinactive key user hold hpend with hbefore | hdone | ⟨hkey, hp, -⟩
    · exact h.inactive key user hold hbefore
    · exact hdone
    · cases (hnot hkey).symm.trans hp
  rw [hf] at hpend
  cases hactive' : (f old).isActive with
  | false => rfl
  | true =>
    obtain ⟨hwas, -⟩ := hactive old hold hp hactive'
    rcases hinactive key old hold hpend with hbefore | hdone | ⟨-, -, hdone⟩
    · cases (h.inactive key old hold hbefore).symm.trans hwas
    · cases hdone.symm.trans hwas
    · cases hdone.symm.trans hactive'

/-- Users are archived, whose mappings are yet to go. -/
theorem loginsOk_archive (h : LoginsOk pending d) {p : TenantUser → Bool}
    (hp : ∀ user ∈ (d.users tenantId).rows, p user = true → user.id = id)
    (hall : ∀ user ∈ (d.users tenantId).rows, user.id = id → user.isActive = true →
      p user = true) :
    LoginsOk (fun key userId => pending key userId ∨ key = tenantId ∧ userId = id)
      (d.setUsers tenantId ((d.users tenantId).updateWhere p
        TenantUser.archived TenantUser.archived_id)) := by
  refine loginsOk_updateWhere h TenantUser.archived_id ?_
    (fun user huser _ => h.lower tenantId user huser)
    (fun _ _ _ hactive => absurd hactive Bool.false_ne_true)
    (fun user huser hp' _ => Or.inl (Or.inr ⟨rfl, hp user huser hp'⟩))
    (fun _ _ => Or.inl) ?_
  · -- neither ids nor e-mails change
    have hback : ∀ user ∈ ((d.users tenantId).updateWhere p
        TenantUser.archived TenantUser.archived_id).rows,
        ∃ old ∈ (d.users tenantId).rows, old.id = user.id ∧ old.email = user.email := by
      intro user huser
      obtain ⟨old, hold, rfl⟩ := List.mem_map.1 huser
      refine ⟨old, hold, ?_⟩
      split <;> exact ⟨rfl, rfl⟩
    intro user huser other hother hemail
    obtain ⟨old, hold, hid, hsame⟩ := hback user huser
    obtain ⟨old', hold', hid', hsame'⟩ := hback other hother
    rw [← hid, ← hid']
    exact h.emails tenantId old hold old' hold' ((hsame.trans hemail).trans hsame'.symm)
  rintro key user huser (hpend | ⟨rfl, hid⟩)
  · exact Or.inl hpend
  right
  cases hactive : user.isActive with
  | false => exact Or.inl rfl
  | true => exact Or.inr ⟨rfl, hall user huser hid hactive, rfl⟩

/-- The mappings of a user who is no longer active go. -/
theorem loginsOk_unmap
    (h : LoginsOk (fun key userId => pending key userId ∨ key = tenantId ∧ userId = id) d) :
    LoginsOk pending (d.unmap tenantId id) where
  emails := h.emails
  lower := h.lower
  mapped key user huser hactive := by
    obtain ⟨m, hm, hm', htenant, huserId, hemail⟩ := h.mapped key user huser hactive
    have hother : ¬ (m.tenantId = tenantId ∧ m.userId = id) := by
      rintro ⟨rfl, rfl⟩
      have hinactive := h.inactive key user huser (Or.inr ⟨htenant.symm, huserId.symm⟩)
      cases hinactive.symm.trans hactive
    refine ⟨m, (Keyed.mem_updateWhere UserTenantMapping.released_id).2 ⟨m, hm, if_neg ?_⟩, hm',
      htenant, huserId, hemail⟩
    simpa using hother
  owned m hm hactive := by
    obtain ⟨old, hold, rfl⟩ := List.mem_map.1 hm
    by_cases hgone : (decide (old.tenantId = tenantId) && decide (old.userId = id)) = true
    · rw [if_pos hgone] at hactive
      cases hactive
    rw [if_neg hgone] at hactive ⊢
    rcases h.owned old hold hactive with (hpend | hmine) | hsome
    · exact Or.inl hpend
    · exact absurd (by simpa using hmine) hgone
    · exact Or.inr hsome
  inactive key user huser hpend := h.inactive key user huser (Or.inl hpend)

theorem loginsOk_archiveMappedParent {parentId : String} (h : LoginsOk pending d)
    (hok : hasActiveChild parentId (d.links tenantId) (d.users tenantId) = false →
      ∀ user ∈ (d.users tenantId).rows, user.id = parentId → user.isActive = true →
        "parent" ∈ user.roles) :
    LoginsOk pending (archiveMappedParent tenantId parentId d) := by
  unfold archiveMappedParent
  split
  · exact h
  rename_i hchildless
  have hnone : hasActiveChild parentId (d.links tenantId) (d.users tenantId) = false := by
    simpa using hchildless
  refine loginsOk_unmap (loginsOk_archive h ?_ ?_)
  · intro user huser hp
    simp only [Bool.and_eq_true, decide_eq_true_eq] at hp
    exact hp.1
  intro user huser hid hactive
  simp only [Bool.and_eq_true, decide_eq_true_eq]
  exact ⟨hid, hok hnone user huser hid hactive⟩

theorem loginsOk_parents {parents : List String} (h : LoginsOk pending d)
    (hok : ParentsOk tenantId parents d) :
    LoginsOk pending
      (parents.foldl (fun d parentId => archiveMappedParent tenantId parentId d) d) := by
  induction parents generalizing d with
  | nil => exact h
  | cons parentId parents ih => exact ih (loginsOk_archiveMappedParent h hok.1) hok.2

/-! ### The operations -/

theorem loginsOk_delete (h : LoginsOk (fun _ _ => False) d)
    (hok : LoginStepOk d (.delete tenantId id)) :
    LoginsOk (fun _ _ => False) (deleteMappedUser tenantId id d).2 := by
  unfold deleteMappedUser
  split
  · exact h
  rename_i existing hexisting
  have harchived : LoginsOk (fun key userId => False ∨ key = tenantId ∧ userId = id)
      (d.setUsers tenantId (deactivateUser id (d.users tenantId))) :=
    loginsOk_archive h (fun user _ hp => of_decide_eq_true hp)
      (fun user _ hid _ => decide_eq_true hid)
  apply loginsOk_unmap
  refine loginsOk_parents harchived ?_
  split
  · rename_i hstudent
    exact hok existing hexisting hstudent
  · trivial

theorem loginsOk_create {env : UserEnv} {mappingId : String} {actor : AuthUserClaims}
    {body : CreateUserBody} (h : LoginsOk (fun _ _ => False) d)
    (hok : LoginStepOk d (.create env userId mappingId tenantId actor body)) :
    LoginsOk (fun _ _ => False)
      (createMappedUser env userId mappingId tenantId actor body d).2 := by
  unfold createMappedUser
  split
  · exact h
  rename_i row hrow
  split
  · exact h
  rename_i users hinsert
  obtain ⟨-, hemail, hactive, -, -, hunused⟩ := newTenantUser_eq_ok hrow
  have hunmapped : d.mapsEmail tenantId row.email = false := by
    rw [Bool.eq_false_iff]
    intro hmaps
    obtain ⟨m, hm, hm', rfl, hsame⟩ := mapsEmail_iff.1 hmaps
    obtain ⟨user, huser, -, hsame', -⟩ := (h.owned m hm hm').resolve_left fun hf => hf
    exact hunused user huser (hsame'.trans hsame)
  have hmaps : (d.setUsers tenantId users).mapsEmail tenantId row.email = false := hunmapped
  simp only [mapTenantUser, hmaps, if_neg Bool.false_ne_true]
  refine loginsOk_insert h hinsert (fun m' hm' => hok m' hm') ?_ hactive
    ⟨rfl, rfl, rfl, rfl⟩
  rw [hemail, lowerCase_lowerCase]

/-- The owner of a tenant is inserted when the id and the e-mail are new there. -/
theorem insertUser_owner (passwordHash : String) {email : String} {tenant : OwnedTenant}
    (hnew : ∀ user ∈ users.rows, user.id ≠ userId ∧ user.email ≠ lowerCase email) :
    ∃ users', insertUser (ownerRow userId email passwordHash tenant) users = some users' := by
  have hclash : (ownerRow userId email passwordHash tenant).clashes users = false := by
    rw [TenantUser.clashes, List.any_eq_false]
    intro user huser
    have hemail := (hnew user huser).2
    simp [ownerRow, primaryOwner, hemail]
  unfold insertUser
  rw [if_neg (by rw [hclash]; exact Bool.false_ne_true)]
  cases hinsert : users.insert? (ownerRow userId email passwordHash tenant) with
  | some users' => exact ⟨users', rfl⟩
  | none =>
    exfalso
    refine Keyed.insert?_eq_none hinsert (Keyed.find?_eq_none.2 ?_)
    exact fun user huser => (hnew user huser).1

theorem loginsOk_createOwner {mappingId sboId email : String} (h : LoginsOk (fun _ _ => False) d)
    (hok : LoginStepOk d (.createOwner userId mappingId sboId email)) :
    LoginsOk (fun _ _ => False) (createPrimaryOwnerUser userId mappingId sboId email d).2 := by
  unfold createPrimaryOwnerUser
  split
  · exact h
  rename_i tenant passwordHash howner
  obtain ⟨hmappings, hnew⟩ := hok (tenant, passwordHash) howner
  have hrelease : releaseMappings tenant.id (lowerCase email) d = d := by
    rw [releaseMappings, Keyed.updateWhere_eq_self]
    intro m hm
    rw [Bool.eq_false_iff]
    intro hother
    simp only [Bool.and_eq_true, decide_eq_true_eq] at hother
    obtain ⟨⟨⟨hemail, hprimary⟩, hactive⟩, htenant⟩ := hother
    exact htenant ((hmappings m hm).2 hemail hprimary hactive)
  obtain ⟨users, hinsert⟩ := insertUser_owner passwordHash hnew
  have hsaved : insertUser (ownerRow userId email passwordHash tenant)
      ((d.saveMapping (ownerMapping mappingId userId email tenant)).users tenant.id)
        = some users := hinsert
  simp only [hrelease, hsaved]
  have hinserted := loginsOk_insert (m := ownerMapping mappingId userId email tenant) h hinsert
    (fun m' hm' => (hmappings m' hm').1) (lowerCase_lowerCase email) rfl ⟨rfl, rfl, rfl, rfl⟩
  exact ⟨hinserted.emails, hinserted.lower, hinserted.mapped, hinserted.owned,
    hinserted.inactive⟩

theorem loginsOk_update {env : UserEnv} {actor : Option AuthUserClaims} {body : UpdateUserBody}
    (h : LoginsOk (fun _ _ => False) d)
    (hok : LoginStepOk d (.update env tenantId actor id body)) :
    LoginsOk (fun _ _ => False) (updateMappedUser env tenantId actor id body d).2 := by
  unfold updateMappedUser
  split
  · exact h
  rename_i existing hexisting
  split
  · exact h
  rename_i update hupdate
  split
  · exact h
  split
  · exact h
  rename_i users hset
  obtain ⟨hflag, hemail⟩ := hok existing hexisting ⟨update, hupdate⟩
  obtain ⟨hupdateEmail, hupdateActive⟩ := updateTenantUser_profile hupdate
  obtain ⟨rfl, hapart⟩ := setUser_eq_some hset
  have hsame : ∀ user ∈ (d.users tenantId).rows, decide (user.id = id) = true →
      user = existing := by
    intro user huser hid
    obtain ⟨hmem, hid'⟩ := Keyed.find?_eq_some.1 hexisting
    exact Keyed.eq_of_key huser hmem ((of_decide_eq_true hid).trans hid'.symm)
  have hactive : (update.apply existing).isActive = existing.isActive := by
    simp only [UserUpdate.apply, hupdateActive]
    cases hbody : body.isActive with
    | none => rfl
    | some isActive => exact hflag isActive hbody
  refine loginsOk_updateWhere h update.apply_id ?_ ?_ ?_ ?_ (fun _ _ hpending => hpending)
    (fun _ _ _ hpending => hpending.elim)
  · -- only the e-mail of the one user may have changed
    intro user huser other hother hsameEmail
    obtain ⟨old, hold, rfl⟩ := (Keyed.mem_updateWhere update.apply_id).1 huser
    obtain ⟨old', hold', rfl⟩ := (Keyed.mem_updateWhere update.apply_id).1 hother
    by_cases hid : old.id = id
    · by_cases hid' : old'.id = id
      · simp [hid, hid']
      simp only [hid, hid', decide_true, decide_false, if_true, if_neg
        Bool.false_ne_true] at hsameEmail
      exact absurd hsameEmail.symm (hapart old hold hid old' hold' hid')
    by_cases hid' : old'.id = id
    · simp only [hid, hid', decide_true, decide_false, if_true, if_neg
        Bool.false_ne_true] at hsameEmail
      exact absurd hsameEmail (hapart old' hold' hid' old hold hid)
    simp only [hid, hid', decide_false, if_neg Bool.false_ne_true] at hsameEmail ⊢
    exact h.emails tenantId old hold old' hold' hsameEmail
  · intro user huser _
    simp only [UserUpdate.apply, hupdateEmail]
    cases body.email with
    | none => exact h.lower tenantId user huser
    | some email => exact lowerCase_lowerCase email
  · intro user huser hid hnow
    obtain rfl := hsame user huser hid
    have hwas : user.isActive = true := hactive ▸ hnow
    refine ⟨hwas, ?_⟩
    simp only [UserUpdate.apply, hupdateEmail]
    cases hbody : body.email with
    | none => rfl
    | some email => exact hemail hwas email hbody
  intro user huser hid hwas
  obtain rfl := hsame user huser hid
  exact Or.inr (hactive ▸ hwas)

theorem loginsOk_step {e : LoginEvent} (h : LoginsOk (fun _ _ => False) d)
    (hok : LoginStepOk d e) : LoginsOk (fun _ _ => False) (loginStep e d) := by
  cases e with
  | createOwner userId mappingId sboId email => exact loginsOk_createOwner h hok
  | create env userId mappingId tenantId actor body => exact loginsOk_create h hok
  | update env tenantId actor id body => exact loginsOk_update h hok
  | delete tenantId id => exact loginsOk_delete h hok
  | setTenants tenants => exact ⟨h.emails, h.lower, h.mapped, h.owned, h.inactive⟩
  | setLinks links => exact ⟨h.emails, h.lower, h.mapped, h.owned, h.inactive⟩

end Steps

/-- **Users and mappings stay in step** in every run, from no users, whose operations keep to
it. -/
theorem logins_in_step (tenants : Keyed OwnedTenant.id) (links : String → List ParentLink)
    (es : List LoginEvent) (h : Along loginStep LoginStepOk { tenants, links } es) :
    ∀ pre, pre <+: es → LoginsInStep (run loginStep { tenants, links } pre) := by
  have hstart : LoginsOk (fun _ _ => False) { tenants, links } :=
    ⟨fun _ _ huser => (by cases huser), fun _ _ huser => (by cases huser),
      fun _ _ huser => (by cases huser), fun _ hm => (by cases hm),
      fun _ _ huser => (by cases huser)⟩
  have hstep : ∀ d e, LoginsOk (fun _ _ => False) d → LoginStepOk d e →
      LoginsOk (fun _ _ => False) (loginStep e d) := fun _ _ => loginsOk_step
  exact fun pre hpre => (along_invariant_throughout hstep hstart h hpre).inStep

/-! A school with the staged owner Ada, who creates a parent. -/

/-- The owner, a parent, and the deletion of the parent. -/
theorem logins_in_step_school :
    let ada : AuthUserClaims := { sub := "usr_1", userId := "usr_1", permissions := ["*"] }
    let tenants : Keyed OwnedTenant.id :=
      { rows :=
          [{ id := "tnt_1", schoolBusinessOrganisationId := "SBO-1"
             ownerEmail := some "ada@school.ng", ownerStagedPasswordHash := some "hash" }]
        nodup := by decide }
    let es : List LoginEvent :=
      [.createOwner "usr_1" "map_1" "SBO-1" "Ada@school.ng",
       .create {} "usr_2" "map_2" "tnt_1" ada
         { email := "Dayo@school.ng", roles := ["parent"]
           privilegeChangeReason := some "admission" },
       .update {} "tnt_1" (some ada) "usr_2" { phone := some "08030000000" },
       .delete "tnt_1" "usr_2"]
    (run loginStep { tenants } es).mappings.rows.map (fun m => (m.email, m.isActive))
        = [("ada@school.ng", true), ("dayo@school.ng", false)]
      ∧ ∀ pre, pre <+: es → LoginsInStep (run loginStep { tenants } pre) := by
  intro ada tenants es
  refine ⟨by decide, logins_in_step _ _ _ ⟨?_, ?_, ?_, ?_, trivial⟩⟩
  · rintro owner -
    exact ⟨nofun, nofun⟩
  · have hnew : ∀ m ∈ (run loginStep { tenants } (es.take 1)).mappings.rows, m.id ≠ "map_2" := by
      decide
    exact hnew
  · rintro user - -
    exact ⟨nofun, fun _ => nofun⟩
  intro user huser hstudent
  have hparent : (((run loginStep { tenants } (es.take 3)).users "tnt_1").find? "usr_2").all
      (fun user => "student" ∉ user.roles) = true := by decide
  rw [show ((run loginStep { tenants } (es.take 3)).users "tnt_1").find? "usr_2" = some user
    from huser] at hparent
  simp [hstudent] at hparent

/-- A parent who is given another e-mail can no longer be resolved by it, and one who is disabled
still can. -/
theorem not_logins_in_step :
    let ada : AuthUserClaims := { sub := "usr_1", userId := "usr_1", permissions := ["*"] }
    let created : LoginEvent :=
      .create {} "usr_2" "map_2" "tnt_1" ada
        { email := "dayo@school.ng", roles := ["parent"]
          privilegeChangeReason := some "admission" }
    ¬ LoginsInStep (run loginStep {}
        [created, .update {} "tnt_1" (some ada) "usr_2" { email := some "ade@school.ng" }])
      ∧ ¬ LoginsInStep (run loginStep {}
        [created, .update {} "tnt_1" (some ada) "usr_2" { isActive := some false }]) := by
  have hrow : ∀ (d : LoginStores) (user : TenantUser), user ∈ (d.users "tnt_1").rows →
      ¬ (user.isActive = true ↔ Mapped "tnt_1" user d) → ¬ LoginsInStep d :=
    fun d user huser hnot h => hnot (h.mapped "tnt_1" user huser)
  constructor
  · exact hrow _
      { id := "usr_2", email := "ade@school.ng", schoolLevel := some "all", roles := ["parent"]
        permissions := derivePermissionsForRoles ["parent"] }
      (by decide) (by decide)
  exact hrow _
    { id := "usr_2", email := "dayo@school.ng", schoolLevel := some "all", roles := ["parent"]
      permissions := derivePermissionsForRoles ["parent"], isActive := false }
    (by decide) (by decide)

end MultiAcademy.School
