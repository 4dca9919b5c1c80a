import MultiAcademy.School.Onboarding

/-!
# The owners of onboarded schools

What it takes that an owner can log in, what keeps it so, and that a verification which is not
abandoned brings it about.
-/

namespace MultiAcademy.School

open MultiAcademy.Lib

/-! ## What an owner can do -/

/-- The owner's password opens the platform. -/
def CanLogIn (env : OnboardingEnv) (email : String) (s : OnboardingStores) : Prop :=
  ∃ password, login env email password none s.logins = .done

/-- The owner is not created, once the registration is consumed. -/
def abandons (env : OnboardingEnv) (fault : Option Fault) : Bool :=
  controlFails env fault || strikes fault .provision || strikes fault .ready
    || (releaseFault fault).isSome || strikes fault .mapping || strikes fault .user

/-! ## Ids -/

/-- One of the first `n` ids. -/
def IsDrawn (generate : ℕ → String) (n : ℕ) (id : String) : Prop := ∃ k < n, id = generate k

section Ids
variable {generate : ℕ → String} {n m : ℕ} {id : String}

theorem generateTenantId_injective : Function.Injective generateTenantId :=
  fun a b h => by simpa [generateTenantId] using h

theorem generateSboId_injective : Function.Injective generateSboId :=
  fun a b h => by simpa [generateSboId] using h

theorem generateMappingId_injective : Function.Injective generateMappingId :=
  fun a b h => by simpa [generateMappingId] using h

theorem IsDrawn.mono (h : IsDrawn generate n id) (hle : n ≤ m) : IsDrawn generate m id := by
  obtain ⟨k, hk, rfl⟩ := h
  exact ⟨k, by omega, rfl⟩

theorem isDrawn_next (generate : ℕ → String) (n : ℕ) : IsDrawn generate (n + 1) (generate n) :=
  ⟨n, Nat.lt_succ_self n, rfl⟩

theorem IsDrawn.ne (hinj : Function.Injective generate) (h : IsDrawn generate n id) (hle : n ≤ m) :
    id ≠ generate m := by
  obtain ⟨k, hk, rfl⟩ := h
  intro hsame
  have := hinj hsame
  omega

end Ids

/-! ## The owner of a tenant -/

/-- The tenant is ready, the e-mail's primary mappings are to it, and its user is active there. -/
structure OwnerOf (env : OnboardingEnv) (email tenantId : String) (d : LoginStores) : Prop where
  ready : ∃ tenant, d.tenants.find? tenantId = some tenant ∧ tenant.status = "active"
    ∧ tenant.provisioningStatus = "ready"
  mapped : ∃ m ∈ d.mappings.rows, m.email = email ∧ m.isPrimaryTenant = true ∧ m.isActive = true
  only : ∀ m ∈ d.mappings.rows, m.email = email → m.isPrimaryTenant = true → m.isActive = true →
    m.tenantId = tenantId
  user : ∃ row, (d.users tenantId).rows.find? (fun row => row.email = email) = some row
    ∧ row.isActive = true ∧ row.passwordHash ≠ "" ∧ "*" ∈ row.permissions
    ∧ ∃ password, env.crypto.verifyPassword password row.passwordHash = true

/-- Nothing of the e-mail's mappings, or of the tenant, has changed. -/
structure Untouched (email tenantId : String) (d d' : LoginStores) : Prop where
  tenant : d'.tenants.find? tenantId = d.tenants.find? tenantId
  mappings : ∀ m, m.email = email → (m ∈ d'.mappings.rows ↔ m ∈ d.mappings.rows)
  users : d'.users tenantId = d.users tenantId

section Owners
variable {env : OnboardingEnv} {email tenantId other : String} {d d' d'' : LoginStores}

theorem Untouched.trans (h : Untouched email tenantId d d')
    (h' : Untouched email tenantId d' d'') : Untouched email tenantId d d'' where
  tenant := h'.tenant.trans h.tenant
  mappings m hm := (h'.mappings m hm).trans (h.mappings m hm)
  users := h'.users.trans h.users

theorem OwnerOf.untouched (h : OwnerOf env email tenantId d)
    (hsame : Untouched email tenantId d d') : OwnerOf env email tenantId d' where
  ready := by
    rw [hsame.tenant]
    exact h.ready
  mapped := by
    obtain ⟨m, hm, hemail, hprimary⟩ := h.mapped
    exact ⟨m, (hsame.mappings m hemail).2 hm, hemail, hprimary⟩
  only m hm hemail := h.only m ((hsame.mappings m hemail).1 hm) hemail
  user := by
    rw [hsame.users]
    exact h.user

/-- **The owner of a tenant can log in.** -/
theorem OwnerOf.login (h : OwnerOf env email tenantId d) (hlower : lowerCase email = email) :
    ∃ password, login env email password none d = .done := by
  obtain ⟨tenant, htenant, hactive, hready⟩ := h.ready
  obtain ⟨row, hrow, hrowActive, hhash, hall, password, hpassword⟩ := h.user
  obtain ⟨m, hm, hemail, hprimary, hmActive⟩ := h.mapped
  have hid : tenant.id = tenantId := (Keyed.find?_eq_some.1 htenant).2
  have hmem : ∀ m', m' ∈ d.mappings.rows.reverse.filter (fun m =>
      m.email = lowerCase email && m.isPrimaryTenant && m.isActive)
        ↔ m' ∈ d.mappings.rows ∧ m'.email = email ∧ m'.isPrimaryTenant = true
          ∧ m'.isActive = true := by
    intro m'
    simp [hlower, and_assoc]
  have hresolve : resolveTenantForUserEmail email none d = .ok tenant := by
    have hnone : textOrNull none = none := rfl
    simp only [resolveTenantForUserEmail, hnone]
    rw [if_neg]
    · have hfirst : ∀ m' ∈ d.mappings.rows.reverse.filter (fun m =>
          m.email = lowerCase email && m.isPrimaryTenant && m.isActive),
          ((d.tenants.find? m'.tenantId).filter fun tenant =>
            tenant.status = "active" && tenant.provisioningStatus = "ready") = some tenant := by
        intro m' hm'
        obtain ⟨hm', hemail', hprimary', hactive'⟩ := (hmem m').1 hm'
        rw [h.only m' hm' hemail' hprimary' hactive', htenant, Option.filter_some]
        simp [hactive, hready]
      cases hlist : d.mappings.rows.reverse.filter (fun m =>
          m.email = lowerCase email && m.isPrimaryTenant && m.isActive) with
      | nil =>
        have hin := (hmem m).2 ⟨hm, hemail, hprimary, hmActive⟩
        rw [hlist] at hin
        cases hin
      | cons first rest =>
        have hfound := hfirst first (by rw [hlist]; exact List.mem_cons_self)
        rw [List.findSome?_cons, hfound]
    intro hnil
    have hin := (hmem m).2 ⟨hm, hemail, hprimary, hmActive⟩
    rw [hnil] at hin
    cases hin
  refine ⟨password, ?_⟩
  have hvalid : validateUserByTenant env tenant.id email password d = .ok row := by
    simp only [validateUserByTenant, hid, htenant, hlower, hrow, hrowActive, hpassword]
    simp [hhash]
  simp only [School.login, hresolve, hvalid]
  rw [if_pos (Or.inl hall)]

/-! ### What leaves another owner alone -/

theorem untouched_tenants (email : String) {tenants : Keyed OwnedTenant.id}
    (h : tenants.find? tenantId = d.tenants.find? tenantId) :
    Untouched email tenantId d { d with tenants } := ⟨h, fun _ _ => Iff.rfl, rfl⟩

/-- Another tenant is updated. -/
theorem find?_updateTenant {f : OwnedTenant → OwnedTenant}
    {hf : ∀ tenant, (f tenant).id = tenant.id} (h : tenantId ≠ other) :
    (d.tenants.updateWhere (fun tenant => tenant.id = other) f hf).find? tenantId
      = d.tenants.find? tenantId := by
  rw [Keyed.find?_updateWhere]
  cases hfind : d.tenants.find? tenantId with
  | none => rfl
  | some tenant =>
    have hid : tenant.id ≠ other := by
      rw [(Keyed.find?_eq_some.1 hfind).2]
      exact h
    simp [hid]

theorem untouched_markTenant (email : String) {status : Option String} {provisioningStatus : String}
    (h : tenantId ≠ other) :
    Untouched email tenantId d (markTenant other status provisioningStatus d) :=
  untouched_tenants email (find?_updateTenant h)

theorem untouched_clearStaged (email : String) (h : tenantId ≠ other) :
    Untouched email tenantId d (clearStaged other d) :=
  untouched_tenants email (find?_updateTenant h)

theorem untouched_releaseMappings {address : String} (h : email ≠ address) :
    Untouched email tenantId d (releaseMappings other address d) := by
  refine ⟨rfl, ?_, rfl⟩
  intro m hm
  simp only [releaseMappings, Keyed.mem_updateWhere UserTenantMapping.released_id]
  constructor
  · rintro ⟨old, hold, rfl⟩
    split at hm
    · rename_i hreleased
      simp only [Bool.and_eq_true, decide_eq_true_eq] at hreleased
      exact absurd (hm.symm.trans hreleased.1.1.1) h
    rename_i hkept
    rwa [if_neg hkept]
  intro hmem
  refine ⟨m, hmem, if_neg ?_⟩
  simp [hm, h]

theorem untouched_saveMapping {m : UserTenantMapping} (h : email ≠ m.email)
    (hnew : ∀ m' ∈ d.mappings.rows, m'.id ≠ m.id) :
    Untouched email tenantId d (d.saveMapping m) := by
  refine ⟨rfl, ?_, rfl⟩
  intro m' hm'
  rw [mem_saveMapping hnew]
  constructor
  · rintro (hmem | rfl)
    · exact hmem
    · exact absurd hm'.symm h
  · exact Or.inl

theorem untouched_setUsers (email : String) {users : UserTable} (h : tenantId ≠ other) :
    Untouched email tenantId d (d.setUsers other users) :=
  ⟨rfl, fun _ _ => Iff.rfl, setUsers_of_ne h⟩

end Owners

/-! ## The ids in the tables -/

/-- Tenants, mappings and users have ids that were drawn, and active tenants are ready. -/
structure LoginsDrawn (n : ℕ) (d : LoginStores) : Prop where
  tenants : ∀ tenant ∈ d.tenants.rows, ∃ k < n, tenant.id = generateTenantId k
    ∧ tenant.schoolBusinessOrganisationId = generateSboId k
  ready : ∀ tenant ∈ d.tenants.rows, tenant.status = "active" → tenant.provisioningStatus = "ready"
  mappings : ∀ m ∈ d.mappings.rows, IsDrawn generateMappingId n m.id
    ∧ IsDrawn generateTenantId n m.tenantId
  users : ∀ key, (d.users key).rows ≠ [] → IsDrawn generateTenantId n key

section Drawn
variable {d : LoginStores} {n m : ℕ}

theorem LoginsDrawn.mono (h : LoginsDrawn n d) (hle : n ≤ m) : LoginsDrawn m d where
  tenants tenant htenant := by
    obtain ⟨k, hk, hid⟩ := h.tenants tenant htenant
    exact ⟨k, by omega, hid⟩
  ready := h.ready
  mappings mapping hmapping :=
    ⟨(h.mappings mapping hmapping).1.mono hle, (h.mappings mapping hmapping).2.mono hle⟩
  users key hkey := (h.users key hkey).mono hle

/-- A tenant is saved under the next id. -/
theorem LoginsDrawn.saveTenant (h : LoginsDrawn n d) {tenant : OwnedTenant}
    (hid : tenant.id = generateTenantId n)
    (hsbo : tenant.schoolBusinessOrganisationId = generateSboId n)
    (hstatus : tenant.status ≠ "active") :
    LoginsDrawn (n + 1) { d with tenants := d.tenants.put tenant } where
  tenants tenant' htenant' := by
    rcases Keyed.mem_put.1 htenant' with ⟨hold, -⟩ | rfl
    · exact (h.mono (Nat.le_succ n)).tenants tenant' hold
    · exact ⟨n, Nat.lt_succ_self n, hid, hsbo⟩
  ready tenant' htenant' hactive := by
    rcases Keyed.mem_put.1 htenant' with ⟨hold, -⟩ | rfl
    · exact h.ready tenant' hold hactive
    · exact absurd hactive hstatus
  mappings := (h.mono (Nat.le_succ n)).mappings
  users := (h.mono (Nat.le_succ n)).users

/-- Tenants keep their ids, and those that are active stay ready. -/
theorem LoginsDrawn.updateTenant (h : LoginsDrawn n d) {tenantId : String}
    {f : OwnedTenant → OwnedTenant} {hf : ∀ tenant, (f tenant).id = tenant.id}
    (hsbo : ∀ tenant, (f tenant).schoolBusinessOrganisationId = tenant.schoolBusinessOrganisationId)
    (hready : ∀ tenant ∈ d.tenants.rows, (f tenant).status = "active" →
      (f tenant).provisioningStatus = "ready") :
    LoginsDrawn n { d with
      tenants := d.tenants.updateWhere (fun tenant => tenant.id = tenantId) f hf } where
  tenants tenant htenant := by
    obtain ⟨old, hold, rfl⟩ := List.mem_map.1 htenant
    obtain ⟨k, hk, hid, hid'⟩ := h.tenants old hold
    refine ⟨k, hk, ?_⟩
    split
    · exact ⟨(hf old).trans hid, (hsbo old).trans hid'⟩
    · exact ⟨hid, hid'⟩
  ready tenant htenant hactive := by
    obtain ⟨old, hold, rfl⟩ := List.mem_map.1 htenant
    by_cases hid : decide (old.id = tenantId) = true
    · rw [if_pos hid] at hactive ⊢
      exact hready old hold hactive
    rw [if_neg hid] at hactive ⊢
    exact h.ready old hold hactive
  mappings := h.mappings
  users := h.users

theorem LoginsDrawn.markReady (h : LoginsDrawn n d) (tenantId : String) :
    LoginsDrawn n (markTenant tenantId (some "active") "ready" d) :=
  h.updateTenant (fun _ => rfl) fun _ _ _ => rfl

theorem LoginsDrawn.clearStaged (h : LoginsDrawn n d) (tenantId : String) :
    LoginsDrawn n (clearStaged tenantId d) :=
  h.updateTenant (fun _ => rfl) h.ready

theorem LoginsDrawn.releaseMappings (h : LoginsDrawn n d) (tenantId email : String) :
    LoginsDrawn n (releaseMappings tenantId email d) where
  tenants := h.tenants
  ready := h.ready
  mappings mapping hmapping := by
    obtain ⟨old, hold, rfl⟩ := List.mem_map.1 hmapping
    split <;> exact h.mappings old hold
  users := h.users

theorem LoginsDrawn.saveMapping (h : LoginsDrawn n d) {mapping : UserTenantMapping}
    (hid : IsDrawn generateMappingId n mapping.id)
    (htenant : IsDrawn generateTenantId n mapping.tenantId) :
    LoginsDrawn n (d.saveMapping mapping) where
  tenants := h.tenants
  ready := h.ready
  mappings mapping' hmapping' := by
    rcases Keyed.mem_put.1 hmapping' with ⟨hold, -⟩ | rfl
    · exact h.mappings mapping' hold
    · exact ⟨hid, htenant⟩
  users := h.users

theorem LoginsDrawn.setUsers (h : LoginsDrawn n d) {tenantId : String} (users : UserTable)
    (htenant : IsDrawn generateTenantId n tenantId) :
    LoginsDrawn n (d.setUsers tenantId users) where
  tenants := h.tenants
  ready := h.ready
  mappings := h.mappings
  users key hkey := by
    by_cases hsame : key = tenantId
    · rw [hsame]
      exact htenant
    rw [setUsers_of_ne hsame] at hkey
    exact h.users key hkey

end Drawn

/-! ## Creating the owner -/

section Create
variable {env : OnboardingEnv} {fault : Option Fault} {d : LoginStores} {tenant : OwnedTenant}
  {userId mappingId sboId email passwordHash : String} {users : UserTable} {n : ℕ}

/-- The mapping is saved and the owner is inserted. -/
def ownerCreated (mappingId userId email : String) (tenant : OwnedTenant) (users : UserTable)
    (d : LoginStores) : LoginStores :=
  ((releaseMappings tenant.id (lowerCase email) d).saveMapping
    (ownerMapping mappingId userId email tenant)).setUsers tenant.id users

/-- Past the points where it would be abandoned, the owner is created. -/
theorem createOwner_eq (habandons : abandons env fault = false)
    (howner : stagedOwner sboId email d = .ok (tenant, passwordHash))
    (hinsert : insertUser (ownerRow userId email passwordHash tenant) (d.users tenant.id)
      = some users) :
    (createOwner fault userId mappingId sboId email d).2
        = ownerCreated mappingId userId email tenant users d
      ∨ (createOwner fault userId mappingId sboId email d).2
        = clearStaged tenant.id (ownerCreated mappingId userId email tenant users d) := by
  simp only [abandons, Bool.or_eq_false_iff] at habandons
  obtain ⟨⟨⟨-, hrelease⟩, hmapping⟩, huser⟩ := habandons
  have hnone : releaseFault fault = none := by
    cases hfault : releaseFault fault with
    | none => rfl
    | some given => simp [hfault] at hrelease
  have husers : ((releaseMappings tenant.id (lowerCase email) d).saveMapping
      (ownerMapping mappingId userId email tenant)).users tenant.id = d.users tenant.id := rfl
  simp only [createOwner, howner, hnone, hmapping, huser, husers, hinsert,
    if_neg Bool.false_ne_true]
  split
  · exact Or.inl rfl
  · exact Or.inr rfl

/-- The tenant of a `schoolBusinessOrganisationId` is found. -/
theorem resolveTenantBySboId_of_mem (h : tenant ∈ d.tenants.rows)
    (hsbo : tenant.schoolBusinessOrganisationId = sboId)
    (hone : ∀ other ∈ d.tenants.rows, other.schoolBusinessOrganisationId = sboId →
      other.id = tenant.id) (hactive : tenant.status = "active") :
    resolveTenantBySboId sboId d = .ok tenant := by
  have hfind : d.tenants.rows.find? (fun tenant => tenant.schoolBusinessOrganisationId = sboId)
      = some tenant := by
    cases hfound : d.tenants.rows.find? fun tenant =>
        tenant.schoolBusinessOrganisationId = sboId with
    | none => exact absurd (List.find?_eq_none.1 hfound tenant h) (by simp [hsbo])
    | some other =>
      have hother := List.mem_of_find?_eq_some hfound
      have hsame : other.schoolBusinessOrganisationId = sboId := by
        simpa using List.find?_some hfound
      rw [Keyed.eq_of_key hother h (hone other hother hsame)]
  simp only [resolveTenantBySboId, hfind]
  rw [if_neg (not_not.2 hactive)]

/-- The owner of a tenant that is active is staged, and not mapped yet. -/
theorem stagedOwner_eq (hresolve : resolveTenantBySboId sboId d = .ok tenant)
    (hemail : tenant.ownerEmail = some email) (hverified : tenant.ownerEmailVerified = true)
    (hstaged : tenant.ownerStagedPasswordHash = some passwordHash) (hhash : passwordHash ≠ "")
    (hunmapped : d.mapsEmail tenant.id (lowerCase email) = false) :
    stagedOwner sboId email d = .ok (tenant, passwordHash) := by
  have htext : textOrNull tenant.ownerStagedPasswordHash = some passwordHash := by
    simp [textOrNull, hstaged, hhash]
  simp only [stagedOwner, hresolve, bind, Except.bind, hemail, Option.getD_some, hverified, htext,
    hunmapped]
  simp [pure, Except.pure]

theorem releaseMappings_ne (hnew : ∀ m ∈ d.mappings.rows, m.id ≠ mappingId)
    (tenantId email : String) :
    ∀ m ∈ (releaseMappings tenantId email d).mappings.rows, m.id ≠ mappingId := by
  intro m hm
  obtain ⟨old, hold, rfl⟩ := List.mem_map.1 hm
  split <;> exact hnew old hold

/-- **The owner who was created can log in.** -/
theorem ownerCreated_owner (hlower : lowerCase email = email)
    (hnew : ∀ m ∈ d.mappings.rows, m.id ≠ mappingId) {password : String}
    (hready : ∃ row, d.tenants.find? tenant.id = some row ∧ row.status = "active"
      ∧ row.provisioningStatus = "ready")
    (hpassword : env.crypto.hashPassword password = passwordHash)
    (hinsert : insertUser (ownerRow userId email passwordHash tenant) (d.users tenant.id)
      = some users) :
    OwnerOf env email tenant.id (ownerCreated mappingId userId email tenant users d) := by
  have hreleased := releaseMappings_ne hnew tenant.id (lowerCase email)
  have hmem : ∀ m, m ∈ (ownerCreated mappingId userId email tenant users d).mappings.rows
      ↔ m ∈ (releaseMappings tenant.id (lowerCase email) d).mappings.rows
        ∨ m = ownerMapping mappingId userId email tenant := fun m => mem_saveMapping hreleased
  refine ⟨hready, ⟨_, (hmem _).2 (Or.inr rfl), hlower, rfl, rfl⟩, ?_, ?_⟩
  · intro m hm hemail hprimary hactive
    rcases (hmem m).1 hm with hold | rfl
    · -- a mapping that is still active is to this tenant
      obtain ⟨old, -, rfl⟩ := List.mem_map.1 hold
      split at hactive
      · cases hactive
      rename_i hkept
      rw [if_neg hkept] at hemail hprimary ⊢
      by_contra hother
      exact hkept (by simp [hemail, hlower, hprimary, hactive, hother])
    · rfl
  obtain ⟨hfresh, hrows⟩ := insertUser_new hinsert
  have husers : (ownerCreated mappingId userId email tenant users d).users tenant.id = users :=
    setUsers_self
  refine ⟨ownerRow userId email passwordHash tenant, ?_, rfl, ?_, ?_, password, ?_⟩
  · have hemail : (ownerRow userId email passwordHash tenant).email = email := hlower
    rw [husers]
    cases hfound : users.rows.find? fun row => row.email = email with
    | none =>
      have hin := (hrows (ownerRow userId email passwordHash tenant)).2 (Or.inr rfl)
      exact absurd (List.find?_eq_none.1 hfound _ hin) (by simp [hemail])
    | some row =>
      have hrow : row.email = email := by simpa using List.find?_some hfound
      rcases (hrows row).1 (List.mem_of_find?_eq_some hfound) with hold | rfl
      · exact absurd (hrow.trans hemail.symm) (hfresh row hold).2
      · rfl
  · exact hpassword ▸ env.crypto.hashPassword_ne password
  · exact List.mem_singleton_self "*"
  rw [show (ownerRow userId email passwordHash tenant).passwordHash = passwordHash from rfl,
    ← hpassword]
  exact env.crypto.verify_hashPassword password

theorem OwnerOf.clearStaged {tenantId other : String} (h : OwnerOf env email tenantId d) :
    OwnerOf env email tenantId (clearStaged other d) where
  ready := by
    obtain ⟨tenant, htenant, hactive, hready⟩ := h.ready
    have hfind : (School.clearStaged other d).tenants.find? tenantId
        = some (if tenant.id = other then { tenant with ownerStagedPasswordHash := none }
          else tenant) := by
      rw [School.clearStaged, Keyed.find?_updateWhere, htenant, Option.map_some]
      simp only [decide_eq_true_eq]
    refine ⟨_, hfind, ?_, ?_⟩
    · split <;> exact hactive
    · split <;> exact hready
  mapped := h.mapped
  only := h.only
  user := h.user

theorem ownerCreated_untouched {other tenantId : String} (hemail : other ≠ lowerCase email)
    (htenant : tenantId ≠ tenant.id) (hnew : ∀ m ∈ d.mappings.rows, m.id ≠ mappingId) :
    Untouched other tenantId d (ownerCreated mappingId userId email tenant users d) := by
  have hreleased := releaseMappings_ne hnew tenant.id (lowerCase email)
  exact ((untouched_releaseMappings hemail).trans (untouched_saveMapping hemail hreleased)).trans
    (untouched_setUsers other htenant)

theorem LoginsDrawn.ownerCreated (h : LoginsDrawn n d)
    (htenant : IsDrawn generateTenantId n tenant.id)
    (hmapping : IsDrawn generateMappingId n mappingId) :
    LoginsDrawn n (ownerCreated mappingId userId email tenant users d) :=
  ((h.releaseMappings _ _).saveMapping hmapping htenant).setUsers users htenant

end Create

/-! ## A verification that goes on -/

section Verify
variable {env : OnboardingEnv} {fault : Option Fault} {s : OnboardingStores}
  {tenant : SchoolTenant} {email : String} {n : ℕ}

/-- The row of the tenant that was saved last, whose database has no users yet. -/
structure TenantSaved (tenant : SchoolTenant) (d : LoginStores) : Prop where
  saved : tenant.owned ∈ d.tenants.rows
  unmapped : ∀ m ∈ d.mappings.rows, m.tenantId ≠ tenant.owned.id
  users : (d.users tenant.owned.id).rows = []

/-- The tenant that was saved last, when it is ready. -/
def SchoolTenant.opened (tenant : SchoolTenant) : OwnedTenant :=
  { tenant.owned with status := "active", provisioningStatus := "ready" }

/-- **Onboarding that is not abandoned creates the owner**, and leaves other owners alone. -/
theorem finishVerifiedTenantOnboarding_owner (habandons : abandons env fault = false)
    (hdrawn : LoginsDrawn s.registrations.drawn.length s.logins)
    (hid : tenant.id < s.registrations.drawn.length)
    (hsaved : TenantSaved tenant s.logins) (hlower : lowerCase email = email)
    (hemail : tenant.ownerRegistrationPayload.email = email)
    (hverified : tenant.ownerEmailVerified = true) {password : String}
    (hpassword : env.crypto.hashPassword password = tenant.ownerStagedPasswordHash) :
    let s' := finishVerifiedTenantOnboarding fault tenant email s
    OwnerOf env email tenant.owned.id s'.logins
      ∧ LoginsDrawn s'.registrations.drawn.length s'.logins
      ∧ ∀ other tenantId, other ≠ email → tenantId ≠ tenant.owned.id →
        Untouched other tenantId s.logins s'.logins := by
  intro s'
  have hpoints : strikes fault .provision = false ∧ strikes fault .ready = false := by
    simp only [abandons, Bool.or_eq_false_iff] at habandons
    exact ⟨habandons.1.1.1.1.2, habandons.1.1.1.2⟩
  let n := s.registrations.drawn.length
  let d := markTenant tenant.owned.id (some "active") "ready" s.logins
  have hd : LoginsDrawn n d := hdrawn.markReady tenant.owned.id
  have hs' : s'.logins = (createOwner fault (generateUserId n) (generateMappingId n)
      tenant.owned.schoolBusinessOrganisationId email d).2 := by
    simp only [s', finishVerifiedTenantOnboarding, provisionVerifiedTenant, hpoints]
    rfl
  have hlength : s'.registrations.drawn.length = n + 1 := by
    simp only [s', finishVerifiedTenantOnboarding, provisionVerifiedTenant, hpoints]
    exact List.length_append
  -- the tenant is found, its owner is staged, and the owner can be inserted
  have hopened : tenant.opened ∈ d.tenants.rows :=
    List.mem_map.2 ⟨tenant.owned, hsaved.saved, if_pos (decide_eq_true rfl)⟩
  have hresolve : resolveTenantBySboId tenant.owned.schoolBusinessOrganisationId d
      = .ok tenant.opened := by
    refine resolveTenantBySboId_of_mem hopened rfl ?_ rfl
    intro other hother hsbo
    obtain ⟨k, -, hid', hsbo'⟩ := hd.tenants other hother
    have hk : k = tenant.id := generateSboId_injective (hsbo'.symm.trans hsbo)
    rw [hid', hk]
    rfl
  have hhash : tenant.ownerStagedPasswordHash ≠ "" := by
    rw [← hpassword]
    exact env.crypto.hashPassword_ne password
  have hunmapped : d.mapsEmail tenant.opened.id (lowerCase email) = false := by
    rw [Bool.eq_false_iff]
    intro hmaps
    obtain ⟨m, hm, -, htenant, -⟩ := mapsEmail_iff.1 hmaps
    exact hsaved.unmapped m hm htenant
  have howner := stagedOwner_eq hresolve (congrArg some hemail) hverified rfl hhash hunmapped
  have hempty : ∀ user ∈ (d.users tenant.opened.id).rows,
      user.id ≠ generateUserId n ∧ user.email ≠ lowerCase email := by
    intro user huser
    have hnone : (d.users tenant.opened.id).rows = [] := hsaved.users
    rw [hnone] at huser
    cases huser
  obtain ⟨users, hinsert⟩ : ∃ users, insertUser (ownerRow (generateUserId n) email
      tenant.ownerStagedPasswordHash tenant.opened) (d.users tenant.opened.id) = some users :=
    insertUser_owner _ hempty
  have hnew : ∀ m ∈ d.mappings.rows, m.id ≠ generateMappingId n :=
    fun m hm => (hd.mappings m hm).1.ne generateMappingId_injective le_rfl
  -- the three properties, of the row as it was created
  have hcreated : OwnerOf env email tenant.owned.id
      (ownerCreated (generateMappingId n) (generateUserId n) email tenant.opened users d) :=
    ownerCreated_owner hlower hnew
      ⟨tenant.opened, Keyed.find?_eq_some.2 ⟨hopened, rfl⟩, rfl, rfl⟩ hpassword hinsert
  have hids : LoginsDrawn (n + 1)
      (ownerCreated (generateMappingId n) (generateUserId n) email tenant.opened users d) :=
    (hd.mono (Nat.le_succ n)).ownerCreated ⟨tenant.id, by omega, rfl⟩ (isDrawn_next _ n)
  have huntouched : ∀ other tenantId, other ≠ email → tenantId ≠ tenant.owned.id →
      Untouched other tenantId s.logins
        (ownerCreated (generateMappingId n) (generateUserId n) email tenant.opened users d) := by
    intro other tenantId hother htenant
    exact (untouched_markTenant other htenant).trans
      (ownerCreated_untouched (hlower.symm ▸ hother) htenant hnew)
  rw [hlength, hs']
  rcases createOwner_eq habandons howner hinsert with h | h
  · rw [h]
    exact ⟨hcreated, hids, huntouched⟩
  rw [h]
  refine ⟨hcreated.clearStaged, hids.clearStaged _, ?_⟩
  intro other tenantId hother htenant
  exact (huntouched other tenantId hother htenant).trans (untouched_clearStaged other htenant)

end Verify

end MultiAcademy.School
