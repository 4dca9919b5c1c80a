import MultiAcademy.School.SchoolSession
import MultiAcademy.School.TenantUsers

/-!
# The authority of a user

`control-plane/user-authority.service.ts` and `common/auth/permissions.guard.ts`: what a user may
do is read from the tenant database and kept for half a minute, and a guarded route is open to
whoever has one of its permissions.
-/

namespace MultiAcademy.School

open MultiAcademy.Lib

structure UserAuthority where
  roles : List String
  permissions : List String
  capabilities : List String
  isActive : Bool
  deriving DecidableEq

def normalizeRoles (raw : List String) : List String :=
  ((raw.map normalizeRole).filter fun role => role ≠ "").eraseDups

def authorityOf (user : TenantUser) : UserAuthority :=
  let roles := normalizeRoles user.roles
  { roles
    permissions := if "*" ∈ user.permissions then ["*"] else derivePermissionsForRoles roles
    capabilities := user.capabilities, isActive := user.isActive }

/-- `[...authority.permissions, ...authority.capabilities]`. -/
def UserAuthority.granted (authority : UserAuthority) : List String :=
  authority.permissions ++ authority.capabilities

/-! ## The cache -/

/-- A `CacheEntry`, and how often the grants of its user had changed when it was read. -/
structure AuthorityEntry where
  value : UserAuthority
  expiresAt : ℤ
  version : ℕ := 0
  deriving DecidableEq

/-- `ttlMs`. -/
def authorityTtl : ℤ := 30000

/-- The entries of one tenant, by user. -/
abbrev AuthorityCache := String → Option AuthorityEntry

namespace AuthorityCache
variable (cache : AuthorityCache) (userId : String)

/-- `cached && cached.expiresAt > Date.now()`. -/
def live (now : ℤ) : Option AuthorityEntry :=
  (cache userId).filter fun entry => now < entry.expiresAt

/-- `this.cache.set`. -/
def store (entry : AuthorityEntry) : AuthorityCache :=
  fun key => if key = userId then some entry else cache key

def invalidate : AuthorityCache := fun key => if key = userId then none else cache key

variable {cache userId} {now : ℤ} {entry : AuthorityEntry}

theorem live_eq_some : cache.live userId now = some entry
    ↔ cache userId = some entry ∧ now < entry.expiresAt := by
  simp [live, Option.filter_eq_some_iff]

@[simp] theorem store_self : cache.store userId entry userId = some entry := if_pos rfl

@[simp] theorem invalidate_self : cache.invalidate userId userId = none := if_pos rfl

theorem store_of_ne {key : String} (h : key ≠ userId) :
    cache.store userId entry key = cache key := if_neg h

theorem invalidate_of_ne {key : String} (h : key ≠ userId) :
    cache.invalidate userId key = cache key := if_neg h

end AuthorityCache

/-- `getAuthority`, when nothing comes between its steps. -/
def getAuthority (userId : String) (users : UserTable) (now : ℤ) (cache : AuthorityCache) :
    Option UserAuthority × AuthorityCache :=
  match cache.live userId now with
  | some entry => (some entry.value, cache)
  | none =>
    match users.find? userId with
    | none => (none, cache.invalidate userId)
    | some user =>
      (some (authorityOf user),
        cache.store userId { value := authorityOf user, expiresAt := now + authorityTtl })

/-! ## The guard -/

/-- `canActivate` of a guarded route, once the authority of the user is known: why it refuses. -/
def guardVerdict (requiredPermissions requiredRoles : List String)
    (authority : Option UserAuthority) : Option (ℕ × String) :=
  match authority.filter UserAuthority.isActive with
  | none => some (403, "Account is inactive or no longer exists")
  | some authority =>
    if requiredRoles ≠ [] ∧ ∀ role ∈ requiredRoles, role ∉ authority.roles then
      some (403, "Insufficient role privileges")
    else if requiredPermissions = [] ∨ "*" ∈ authority.granted
        ∨ requiredPermissions.any (hasPermission authority.granted) then none
    else some (403, "Insufficient permissions")

/-- Every entry holds the authority of its user. -/
def AuthorityCache.Coherent (cache : AuthorityCache) (users : UserTable) : Prop :=
  ∀ userId entry, cache userId = some entry →
    ∃ user, users.find? userId = some user ∧ entry.value = authorityOf user

section Coherent
variable {cache : AuthorityCache} {users : UserTable} {userId : String} {now : ℤ}

/-- A coherent cache gives the authority of the user, and stays coherent. -/
theorem getAuthority_coherent (h : cache.Coherent users) :
    (getAuthority userId users now cache).1 = (users.find? userId).map authorityOf
      ∧ (getAuthority userId users now cache).2.Coherent users := by
  unfold getAuthority
  split
  · rename_i entry hlive
    obtain ⟨user, huser, hvalue⟩ := h userId entry (AuthorityCache.live_eq_some.1 hlive).1
    exact ⟨by rw [huser, hvalue, Option.map_some], h⟩
  split
  · rename_i hnone
    refine ⟨by rw [hnone, Option.map_none], ?_⟩
    intro key entry hentry
    by_cases hkey : key = userId
    · subst hkey
      simp at hentry
    · exact h key entry ((AuthorityCache.invalidate_of_ne hkey).symm.trans hentry)
  rename_i user huser
  refine ⟨by rw [huser, Option.map_some], ?_⟩
  intro key entry hentry
  by_cases hkey : key = userId
  · subst hkey
    cases AuthorityCache.store_self.symm.trans hentry
    exact ⟨user, huser, rfl⟩
  · exact h key entry ((AuthorityCache.store_of_ne hkey).symm.trans hentry)

end Coherent

end MultiAcademy.School
