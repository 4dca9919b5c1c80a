import MultiAcademy.Lib.Run
import MultiAcademy.School.UserAuthority

/-!
# Custom grants

Calls of `createTenantUser` and `updateTenantUser`, one at a time, and the guard that reads the
authority of the users in between.  Roles are where privileges come from: the capabilities that are
granted besides imply no permission that comes with a role alone.
-/

namespace MultiAcademy.School

open MultiAcademy.Lib

/-! ## The calls -/

structure GrantStores where
  users : UserTable := .empty
  cache : AuthorityCache := fun _ => none
  now : ℤ := 0

inductive GrantEvent
  | create (env : UserEnv) (userId : String) (actor : AuthUserClaims) (body : CreateUserBody)
  | update (env : UserEnv) (actor : Option AuthUserClaims) (id : String) (body : UpdateUserBody)
  | guarded (userId : String)
  | pass (milliseconds : ℕ)

/-- The columns that an update sets, if its user is there and it is not refused. -/
def plannedUpdate (env : UserEnv) (actor : Option AuthUserClaims) (id : String)
    (body : UpdateUserBody) (users : UserTable) : Option UserUpdate :=
  (users.find? id).bind fun existing => (updateTenantUser env actor id body existing).toOption

/-- The users that a call leaves, if it writes. -/
def GrantEvent.write (d : GrantStores) : GrantEvent → Option UserTable
  | .create env userId actor body =>
    (newTenantUser env userId actor body d.users).toOption.bind fun row => insertUser row d.users
  | .update env actor id body =>
    ((plannedUpdate env actor id body d.users).filter fun update => update ≠ {}).bind
      fun update => setUser update id d.users
  | _ => none

/-- A call. -/
def grantStep (e : GrantEvent) (d : GrantStores) : GrantStores :=
  match e with
  | .create .. => { d with users := (e.write d).getD d.users }
  | .update _ _ id _ =>
    match e.write d with
    | some users => { d with users, cache := d.cache.invalidate id }
    | none => d
  | .guarded userId => { d with cache := (getAuthority userId d.users d.now d.cache).2 }
  | .pass milliseconds => { d with now := d.now + milliseconds }

/-- Why the guard refuses a user now. -/
def GrantStores.verdict (requiredPermissions requiredRoles : List String) (userId : String)
    (d : GrantStores) : Option (ℕ × String) :=
  guardVerdict requiredPermissions requiredRoles (getAuthority userId d.users d.now d.cache).1

/-- Who calls. -/
def GrantEvent.actor? : GrantEvent → Option AuthUserClaims
  | .create _ _ actor _ => some actor
  | .update _ actor _ _ => actor
  | _ => none

/-- The caller has no wildcard. -/
def GrantEvent.Ordinary (e : GrantEvent) : Prop :=
  ∀ actor, e.actor? = some actor → actorHasWildcard actor = false

def capabilitiesWritten (e : GrantEvent) (d : GrantStores) : List (List String) :=
  match e, e.write d with
  | .create env userId actor body, some _ =>
    ((newTenantUser env userId actor body d.users).toOption.map TenantUser.capabilities).toList
  | .update env actor id body, some _ =>
    ((plannedUpdate env actor id body d.users).bind UserUpdate.capabilities).toList
  | _, _ => []

/-! ## What holds of them -/

/-- The user has the wildcard, or capabilities that may not be granted. -/
def Overridden (user : TenantUser) : Prop :=
  "*" ∈ user.permissions ∨ ∃ cap ∈ user.capabilities, ¬ Overridable cap

/-- What the user may do, as the guard has it. -/
def GrantStores.effective (userId : String) (d : GrantStores) : Option (List String) :=
  (d.users.find? userId).map fun user => (authorityOf user).granted

/-- **Custom grants rebuild no role**: a call changes nothing of what its own actor may do, it
writes only capabilities that may be granted, and afterwards the guard opens a route that needs
permissions which come with a role alone only to users who have such a role, the users apart who
had the wildcard, or capabilities that may not be granted, before all calls. -/
structure GrantsClosed (users : UserTable) (e : GrantEvent) (d : GrantStores) : Prop where
  own : ∀ actor, e.actor? = some actor → ∀ granted, d.effective actor.sub = some granted →
    (grantStep e d).effective actor.sub = some granted
  written : ∀ capabilities ∈ capabilitiesWritten e d, ∀ cap ∈ capabilities, Overridable cap
  guarded : ∀ userId requiredPermissions requiredRoles, requiredPermissions ≠ [] →
    (∀ permission ∈ requiredPermissions, permission ∈ roleOnlyCapabilities) →
    (grantStep e d).verdict requiredPermissions requiredRoles userId = none →
      (∃ user ∈ users.rows, user.id = userId ∧ Overridden user)
        ∨ ∃ user, (grantStep e d).users.find? userId = some user
          ∧ ∃ permission ∈ requiredPermissions, GrantedByRole (normalizeRoles user.roles) permission

/-! ## What a call writes -/

section Steps
variable {d : GrantStores} {users : UserTable} {env : UserEnv} {id userId : String}
  {a : AuthUserClaims} {actor : Option AuthUserClaims} {update : UserUpdate}

/-- A creation inserts a row without capabilities. -/
theorem write_create {body : CreateUserBody}
    (h : (GrantEvent.create env userId a body).write d = some users) :
    ∃ row, newTenantUser env userId a body d.users = .ok row ∧ row.capabilities = []
      ∧ row.permissions = derivePermissionsForRoles row.roles
      ∧ d.users.insert? row = some users := by
  obtain ⟨row, hrow, hinsert⟩ := Option.bind_eq_some_iff.1 h
  have hok : newTenantUser env userId a body d.users = .ok row := by
    cases hnew : newTenantUser env userId a body d.users with
    | error refusal =>
      rw [hnew] at hrow
      cases hrow
    | ok row' =>
      rw [hnew] at hrow
      cases hrow
      rfl
  obtain ⟨-, -, -, hpermissions, hcaps, -⟩ := newTenantUser_eq_ok hok
  exact ⟨row, hok, hcaps, hpermissions, (insertUser_eq_some hinsert).2⟩

/-- An update sets some columns of one row. -/
theorem write_update {body : UpdateUserBody}
    (h : (GrantEvent.update env actor id body).write d = some users) :
    ∃ existing update, d.users.find? id = some existing
      ∧ updateTenantUser env actor id body existing = .ok update
      ∧ plannedUpdate env actor id body d.users = some update
      ∧ users = d.users.updateWhere (fun row => row.id = id) update.apply update.apply_id := by
  obtain ⟨update, hplan, hset⟩ := Option.bind_eq_some_iff.1 h
  obtain ⟨hplan, -⟩ := Option.filter_eq_some_iff.1 hplan
  obtain ⟨existing, hexisting, hok⟩ := Option.bind_eq_some_iff.1 hplan
  refine ⟨existing, update, hexisting, ?_, hplan, (setUser_eq_some hset).1⟩
  cases hresult : updateTenantUser env actor id body existing with
  | error refusal =>
    rw [hresult] at hok
    cases hok
  | ok update' =>
    rw [hresult] at hok
    cases hok
    rfl

variable {user : TenantUser}

theorem granted_apply (hroles : update.roles = none)
    (hcaps : update.capabilities = none) :
    (authorityOf (update.apply user)).granted = (authorityOf user).granted := by
  simp [authorityOf, UserAuthority.granted, UserUpdate.apply, hroles, hcaps]

/-- The capabilities that an ordinary update leaves a user may be granted, if the ones before may. -/
theorem not_overridden_apply
    (hcaps : ∀ capabilities, update.capabilities = some capabilities →
      ∀ cap ∈ capabilities, Overridable cap) (h : ¬ Overridden user) :
    ¬ Overridden (update.apply user) := by
  rintro (hwild | ⟨cap, hcap, hnot⟩)
  · simp only [UserUpdate.apply] at hwild
    cases hroles : update.roles with
    | none =>
      rw [hroles] at hwild
      exact h (Or.inl hwild)
    | some roles =>
      rw [hroles] at hwild
      exact not_known_wildcard (mem_known_of_derived hwild)
  simp only [UserUpdate.apply] at hcap
  cases hset : update.capabilities with
  | none =>
    rw [hset] at hcap
    exact h (Or.inr ⟨cap, hcap, hnot⟩)
  | some capabilities =>
    rw [hset] at hcap
    exact hnot (hcaps capabilities hset cap hcap)

theorem updateTenantUser_capabilities {body : UpdateUserBody} {existing : TenantUser}
    (h : updateTenantUser env actor id body existing = .ok update) :
    ∀ capabilities, update.capabilities = some capabilities →
      ∀ cap ∈ capabilities, Overridable cap := by
  rcases updateTenantUser_grants h with ⟨-, hnone⟩ | ⟨-, -, -, -, hcaps⟩
  · intro capabilities hset
    cases hnone.symm.trans hset
  · exact hcaps

/-! ## What the calls keep -/

/-- The cache is coherent, and whoever is overridden was so before the calls. -/
structure GrantsOk (users : UserTable) (d : GrantStores) : Prop where
  coherent : d.cache.Coherent d.users
  overridden : ∀ user ∈ d.users.rows, Overridden user →
    ∃ user' ∈ users.rows, user'.id = user.id ∧ Overridden user'

theorem coherent_insert {cache : AuthorityCache} {row : TenantUser} {users' : UserTable}
    (h : cache.Coherent users) (hinsert : users.insert? row = some users') :
    cache.Coherent users' := by
  intro key entry hentry
  obtain ⟨user, huser, hvalue⟩ := h key entry hentry
  refine ⟨user, ?_, hvalue⟩
  obtain ⟨hmem, hkey⟩ := Keyed.find?_eq_some.1 huser
  exact Keyed.find?_eq_some.2 ⟨((Keyed.insert?_eq_some hinsert).2 user).2 (Or.inl hmem), hkey⟩

/-- An update keeps them so, once the entry of its user is gone. -/
theorem coherent_update {cache : AuthorityCache} (h : cache.Coherent users) :
    (cache.invalidate id).Coherent
      (users.updateWhere (fun row => row.id = id) update.apply update.apply_id) := by
  intro key entry hentry
  by_cases hkey : key = id
  · subst hkey
    simp at hentry
  obtain ⟨user, huser, hvalue⟩ :=
    h key entry ((AuthorityCache.invalidate_of_ne hkey).symm.trans hentry)
  refine ⟨user, ?_, hvalue⟩
  have hid := (Keyed.find?_eq_some.1 huser).2
  rw [Keyed.find?_updateWhere, huser, Option.map_some, if_neg]
  rw [hid]
  simpa using hkey

theorem grantsOk_step {start : UserTable} {e : GrantEvent} (h : GrantsOk start d) :
    GrantsOk start (grantStep e d) := by
  cases e with
  | pass milliseconds => exact ⟨h.coherent, h.overridden⟩
  | guarded userId => exact ⟨(getAuthority_coherent h.coherent).2, h.overridden⟩
  | create env userId a body =>
    simp only [grantStep]
    cases hwrite : (GrantEvent.create env userId a body).write d with
    | none => exact ⟨h.coherent, h.overridden⟩
    | some users' =>
      obtain ⟨row, -, hcaps, hpermissions, hinsert⟩ := write_create hwrite
      refine ⟨coherent_insert h.coherent hinsert, ?_⟩
      intro user huser hover
      rcases ((Keyed.insert?_eq_some hinsert).2 user).1 huser with hold | rfl
      · exact h.overridden user hold hover
      -- the new row has the permissions of its roles, and no capabilities
      exfalso
      rcases hover with hwild | ⟨cap, hcap, -⟩
      · rw [hpermissions] at hwild
        exact not_known_wildcard (mem_known_of_derived hwild)
      rw [hcaps] at hcap
      cases hcap
  | update env actor id body =>
    simp only [grantStep]
    cases hwrite : (GrantEvent.update env actor id body).write d with
    | none => exact h
    | some users' =>
      obtain ⟨existing, update, -, hupdate, -, rfl⟩ := write_update hwrite
      refine ⟨coherent_update h.coherent, ?_⟩
      intro user huser hover
      obtain ⟨user', hmem, rfl⟩ := (Keyed.mem_updateWhere update.apply_id).1 huser
      split at hover
      · rename_i hid
        rw [if_pos hid]
        have hbefore : Overridden user' := by
          by_contra hnot
          exact not_overridden_apply (updateTenantUser_capabilities hupdate) hnot hover
        exact h.overridden user' hmem hbefore
      rename_i hid
      rw [if_neg hid]
      exact h.overridden user' hmem hover

/-! ## What holds at a call -/

/-- No call changes what its own actor may do. -/
theorem effective_own {e : GrantEvent} (hordinary : e.Ordinary) (hactor : e.actor? = some a)
    {granted : List String} (h : d.effective a.sub = some granted) :
    (grantStep e d).effective a.sub = some granted := by
  obtain ⟨user, huser, hgranted⟩ := Option.map_eq_some_iff.1 h
  cases e with
  | pass milliseconds => cases hactor
  | guarded userId => cases hactor
  | create env userId a' body =>
    simp only [grantStep]
    cases hwrite : (GrantEvent.create env userId a' body).write d with
    | none => exact h
    | some users' =>
      obtain ⟨row, -, -, -, hinsert⟩ := write_create hwrite
      obtain ⟨hmem, hid⟩ := Keyed.find?_eq_some.1 huser
      have hkept : users'.find? a.sub = some user :=
        Keyed.find?_eq_some.2 ⟨((Keyed.insert?_eq_some hinsert).2 user).2 (Or.inl hmem), hid⟩
      rw [GrantStores.effective, Option.getD_some, hkept, Option.map_some, hgranted]
  | update env actor id body =>
    obtain rfl : actor = some a := hactor
    simp only [grantStep]
    cases hwrite : (GrantEvent.update env (some a) id body).write d with
    | none => exact h
    | some users' =>
      obtain ⟨existing, update, -, hupdate, -, rfl⟩ := write_update hwrite
      simp only [GrantStores.effective, Keyed.find?_updateWhere, huser, Option.map_some]
      rw [← hgranted]
      split
      · rename_i hid
        rcases updateTenantUser_grants hupdate with ⟨hroles, hcaps⟩ | ⟨a', ha, -, hself, -⟩
        · rw [granted_apply hroles hcaps]
        -- the actor has no wildcard, so the user is another one
        cases ha
        have hother := hself.resolve_left (by rw [hordinary a rfl]; exact Bool.false_ne_true)
        have hsame := (Keyed.find?_eq_some.1 huser).2.symm.trans (of_decide_eq_true hid)
        exact absurd hsame hother
      · rfl

theorem overridable_written {e : GrantEvent} {capabilities : List String}
    (h : capabilities ∈ capabilitiesWritten e d) : ∀ cap ∈ capabilities, Overridable cap := by
  cases e with
  | pass milliseconds => cases h
  | guarded userId => cases h
  | create env userId a body =>
    cases hwrite : (GrantEvent.create env userId a body).write d with
    | none =>
      simp only [capabilitiesWritten, hwrite] at h
      cases h
    | some users' =>
      obtain ⟨row, hrow, hcaps, -, -⟩ := write_create hwrite
      simp only [capabilitiesWritten, hwrite, hrow, Except.toOption, Option.map_some, hcaps,
        Option.toList_some, List.mem_singleton] at h
      rw [h]
      nofun
  | update env actor id body =>
    cases hwrite : (GrantEvent.update env actor id body).write d with
    | none =>
      simp only [capabilitiesWritten, hwrite] at h
      cases h
    | some users' =>
      obtain ⟨existing, update, -, hupdate, hplan, -⟩ := write_update hwrite
      simp only [capabilitiesWritten, hwrite, hplan, Option.bind_some, Option.mem_toList] at h
      exact updateTenantUser_capabilities hupdate capabilities h

/-- What the guard opens a route for. -/
theorem guardVerdict_eq_none {authority : UserAuthority}
    {requiredPermissions requiredRoles : List String} (hrequired : requiredPermissions ≠ [])
    (h : guardVerdict requiredPermissions requiredRoles (some authority) = none) :
    "*" ∈ authority.granted
      ∨ ∃ permission ∈ requiredPermissions, hasPermission authority.granted permission = true := by
  unfold guardVerdict at h
  split at h
  · cases h
  rename_i authority' hactive
  obtain ⟨heq, -⟩ := Option.filter_eq_some_iff.1 hactive
  cases heq
  split at h
  · cases h
  split at h
  · rename_i hopen
    simpa [hrequired] using hopen
  · cases h

/-- Whoever is not overridden has what the roles grant, and what may be granted besides. -/
theorem grantedByRole_of_hasPermission {permission : String}
    (hnot : ¬ Overridden user) (hp : permission ∈ roleOnlyCapabilities)
    (h : hasPermission (authorityOf user).granted permission = true) :
    GrantedByRole (normalizeRoles user.roles) permission := by
  have hwild : "*" ∉ user.permissions := fun hwild => hnot (Or.inl hwild)
  have hcaps : ∀ cap ∈ user.capabilities, Overridable cap := by
    intro cap hcap
    by_contra hcap'
    exact hnot (Or.inr ⟨cap, hcap, hcap'⟩)
  rw [UserAuthority.granted, hasPermission_append, Bool.or_eq_true] at h
  rcases h with hroles | hoverride
  · simp only [authorityOf, if_neg hwild] at hroles
    exact hasPermission_derived hp hroles
  simp only [authorityOf] at hoverride
  rw [not_hasPermission_overridable hcaps hp] at hoverride
  cases hoverride

theorem wildcard_not_granted (hnot : ¬ Overridden user) :
    "*" ∉ (authorityOf user).granted := by
  have hwild : "*" ∉ user.permissions := fun hwild => hnot (Or.inl hwild)
  intro h
  simp only [UserAuthority.granted, authorityOf, if_neg hwild, List.mem_append] at h
  rcases h with hderived | hcap
  · exact not_known_wildcard (mem_known_of_derived hderived)
  refine hnot (Or.inr ⟨"*", hcap, ?_⟩)
  intro hover
  exact not_known_wildcard hover.1

/-- Whom the guard opens a route for that needs what comes with a role alone. -/
theorem guarded_of_grantsOk {start : UserTable} (h : GrantsOk start d)
    {requiredPermissions requiredRoles : List String} (hrequired : requiredPermissions ≠ [])
    (halone : ∀ permission ∈ requiredPermissions, permission ∈ roleOnlyCapabilities)
    (hopen : d.verdict requiredPermissions requiredRoles userId = none) :
    (∃ user ∈ start.rows, user.id = userId ∧ Overridden user)
      ∨ ∃ user, d.users.find? userId = some user
        ∧ ∃ permission ∈ requiredPermissions,
          GrantedByRole (normalizeRoles user.roles) permission := by
  rw [GrantStores.verdict, (getAuthority_coherent h.coherent).1] at hopen
  cases huser : d.users.find? userId with
  | none =>
    rw [huser] at hopen
    cases hopen
  | some user =>
    rw [huser, Option.map_some] at hopen
    obtain ⟨hmem, hid⟩ := Keyed.find?_eq_some.1 huser
    by_cases hover : Overridden user
    · obtain ⟨user', hmem', hid', hover'⟩ := h.overridden user hmem hover
      exact Or.inl ⟨user', hmem', hid'.trans hid, hover'⟩
    right
    obtain ⟨permission, hp, hhas⟩ :=
      (guardVerdict_eq_none hrequired hopen).resolve_left (wildcard_not_granted hover)
    exact ⟨user, rfl, permission, hp,
      grantedByRole_of_hasPermission hover (halone permission hp) hhas⟩

end Steps

/-- **Custom grants rebuild no role**, at any call of actors without the wildcard. -/
theorem grants_closed (users : UserTable) (now : ℤ) (pre : List GrantEvent) (e : GrantEvent)
    (h : e.Ordinary) :
    GrantsClosed users e (run grantStep { users, now } pre) := by
  have hstart : GrantsOk users { users, now } :=
    ⟨nofun, fun user huser hover => ⟨user, huser, rfl, hover⟩⟩
  have hok : GrantsOk users (run grantStep { users, now } pre) :=
    run_invariant (fun _ _ h => grantsOk_step h) hstart pre
  exact
    { own := fun a ha granted hgranted => effective_own h ha hgranted
      written := fun capabilities hmem => overridable_written hmem
      guarded := fun userId requiredPermissions requiredRoles hrequired halone hopen =>
        guarded_of_grantsOk (grantsOk_step hok) hrequired halone hopen }

/-- A teacher is granted the curriculum by an IT administrator. -/
theorem grants_closed_teacher :
    let users : UserTable :=
      { rows := [{ id := "usr_1", email := "tayo@school.ng", roles := ["class_teacher"] }]
        nodup := by decide }
    let e : GrantEvent :=
      .update {} (some { sub := "usr_2", userId := "usr_2", permissions := ["roles:assign"] }) "usr_1"
        { capabilities := some [" curriculum:view "]
          privilegeChangeReason := some "curriculum committee" }
    capabilitiesWritten e { users } = [["curriculum:view"]] ∧ GrantsClosed users e { users } := by
  refine ⟨by decide, grants_closed _ 0 [] _ ?_⟩
  rintro actor ⟨⟩
  decide

/-- The guard opens every route for a primary owner, also one that needs a permission no role
has. -/
theorem not_grants_closed_owner :
    ¬ ∀ (users : UserTable) (es : List GrantEvent), (∀ e ∈ es, e.Ordinary) →
      ∀ userId, ∀ permission ∈ roleOnlyCapabilities,
        (run grantStep { users } es).verdict [permission] [] userId = none →
          ∃ user, (run grantStep { users } es).users.find? userId = some user
            ∧ GrantedByRole (normalizeRoles user.roles) permission := by
  intro h
  obtain ⟨user, -, role, -, id, -, hgranted⟩ := h
    { rows := [primaryOwner "usr_1" "ada@school.ng" "Ada Obi" "hash" none], nodup := by decide }
    [.update {} (some { sub := "usr_2", userId := "usr_2", permissions := ["users:update"] }) "usr_1"
      { phone := some "08030000000" }]
    (by
      intro e he
      obtain rfl := List.mem_singleton.1 he
      rintro actor ⟨⟩
      decide)
    "usr_1" "ai_features:configure" (by decide) (by decide)
  have hknown : "ai_features:configure" ∉ knownPermissions
      ∧ managing "ai_features:configure" ∉ knownPermissions := by decide
  rcases hgranted with hself | hmanage
  · exact hknown.1 (List.mem_flatMap.2 ⟨id, mem_roleIds id, hself⟩)
  · exact hknown.2 (List.mem_flatMap.2 ⟨id, mem_roleIds id, hmanage⟩)

end MultiAcademy.School
