import MultiAcademy.Lib.Flight
import MultiAcademy.School.UserAuthority

/-!
# Authorities that were revoked

`getAuthority` with `updateTenantUser` and `deleteTenantUser` of one tenant, a step at a time: the
lookup in the cache, the read of the row and the store are apart, and so are the writes of a
mutator and its invalidation.  Each change of the grants of a user gives them a new version.
-/

namespace MultiAcademy.School

open MultiAcademy.Lib

/-! ## The state -/

/-- The columns that an authority is read from. -/
def TenantUser.grants (user : TenantUser) : List String × List String × List String × Bool :=
  (user.roles, user.permissions, user.capabilities, user.isActive)

/-- The tables, the cache and the time.  Recorded besides, for each user: how often the grants have
changed, the last such change by a mutator that has no invalidation of the user ahead, and the last
by a mutator that has returned. -/
structure AuthorityStores where
  users : UserTable := .empty
  links : List ParentLink := []
  cache : AuthorityCache := fun _ => none
  now : ℤ := 0
  version : String → ℕ := fun _ => 0
  due : String → ℕ := fun _ => 0
  settled : String → ℕ := fun _ => 0

def AuthorityStores.write (users : UserTable) (d : AuthorityStores) : AuthorityStores :=
  { d with
    users
    version := fun userId =>
      if (users.find? userId).map TenantUser.grants = (d.users.find? userId).map TenantUser.grants
      then d.version userId else d.version userId + 1 }

/-- Users, and the versions that a mutator has given them. -/
abbrev GrantChanges := List (String × ℕ)

/-- What a write has done to the grants of a user. -/
def changesOf (userId : String) (d d' : AuthorityStores) : GrantChanges :=
  if d'.version userId = d.version userId then [] else [(userId, d'.version userId)]

/-- The later of what was recorded and what is. -/
def raise : GrantChanges → (String → ℕ) → String → ℕ
  | [], record => record
  | (userId, version) :: changes, record =>
    raise changes fun key => if key = userId then max (record key) version else record key

/-! ## The requests -/

inductive AuthorityRequest
  | getAuthority (userId : String)
  | update (env : UserEnv) (actor : Option AuthUserClaims) (id : String) (body : UpdateUserBody)
  | delete (id : String)

/-- What a `getAuthority` returns, the version that it was read with, and the last change that had
been returned when the call began. -/
structure AuthorityAnswer where
  authority : Option UserAuthority
  version : ℕ
  floor : ℕ
  deriving DecidableEq

/-- Where a request is: a `getAuthority`, with the last change that had been returned when it
began, and the version that it has read; an update, with the columns it sets, and what it changed;
a deletion, with the parents it has yet to look at, and what it changed. -/
inductive AuthorityCall
  | asked (request : AuthorityRequest)
  | missed (userId : String) (floor : ℕ)
  | loaded (userId : String) (floor version : ℕ) (user : Option TenantUser)
  | answered (answer : AuthorityAnswer)
  | planned (id : String) (update : UserUpdate)
  | written (id : String) (changes : GrantChanges)
  | invalidated (changes : GrantChanges)
  | found (id : String) (roles : List String)
  | deactivated (id : String) (changes : GrantChanges)
  | retiring (id : String) (parents : List String) (changes : GrantChanges)
  | childless (id parentId : String) (parents : List String) (changes : GrantChanges)
  | unmapped (id : String) (changes : GrantChanges)
  | returned
  | refused (status : ℕ) (message : String)

def AuthorityCall.answer? : AuthorityCall → Option AuthorityAnswer
  | .answered answer => some answer
  | _ => none

/-- `getAuthority`, the cache. -/
def lookUpAuthority (userId : String) (d : AuthorityStores) : AuthorityCall :=
  match d.cache.live userId d.now with
  | some entry =>
    .answered
      { authority := some entry.value, version := entry.version, floor := d.settled userId }
  | none => .missed userId (d.settled userId)

/-- `getAuthority`, once the row was read. -/
def storeAuthority (userId : String) (floor version : ℕ) (user : Option TenantUser)
    (d : AuthorityStores) : AuthorityCall × AuthorityStores :=
  match user with
  | none =>
    (.answered { authority := none, version, floor },
      { d with cache := d.cache.invalidate userId })
  | some user =>
    (.answered { authority := some (authorityOf user), version, floor },
      { d with
        cache := d.cache.store userId
          { value := authorityOf user, expiresAt := d.now + authorityTtl, version } })

/-- `updateTenantUser`, up to its write. -/
def planUpdate (env : UserEnv) (actor : Option AuthUserClaims) (id : String)
    (body : UpdateUserBody) (d : AuthorityStores) : AuthorityCall :=
  match d.users.find? id with
  | none => .refused 404 "User not found"
  | some existing =>
    match updateTenantUser env actor id body existing with
    | .error (status, message) => .refused status message
    | .ok update => if update = {} then .returned else .planned id update

/-- `updateTenantUser`, its write. -/
def writeUpdate (id : String) (update : UserUpdate) (d : AuthorityStores) :
    AuthorityCall × AuthorityStores :=
  match setUser update id d.users with
  | none => (.refused 500 "Internal server error", d)
  | some users => (.written id (changesOf id d (d.write users)), d.write users)

/-- `deleteTenantUser`, up to its first write. -/
def findDeleted (id : String) (d : AuthorityStores) : AuthorityCall :=
  match d.users.find? id with
  | none => .refused 404 "User not found"
  | some existing => .found id existing.roles

/-- `deleteTenantUser`, its first write. -/
def archiveUser (id : String) (roles : List String) (d : AuthorityStores) :
    AuthorityCall × AuthorityStores :=
  let d' := d.write (deactivateUser id d.users)
  let changes := changesOf id d d'
  (if "student" ∈ roles then .deactivated id changes else .retiring id [] changes, d')

/-- `deleteTenantUser`, the next parent. -/
def nextParent (id : String) (parents : List String) (changes : GrantChanges)
    (d : AuthorityStores) : AuthorityCall :=
  match parents with
  | [] => .unmapped id changes
  | parentId :: rest =>
    if hasActiveChild parentId d.links d.users then .retiring id rest changes
    else .childless id parentId rest changes

/-- `deleteTenantUser`, a parent with no active child; only the deleted user is invalidated
later. -/
def archiveParent (id parentId : String) (parents : List String) (changes : GrantChanges)
    (d : AuthorityStores) : AuthorityCall × AuthorityStores :=
  let d' := d.write (deactivateParent parentId d.users)
  let changed := changesOf parentId d d'
  (.retiring id parents (changed ++ changes),
    if parentId = id then d' else { d' with due := raise changed d'.due })

def invalidateAuthority (id : String) (changes : GrantChanges) (d : AuthorityStores) :
    AuthorityStores :=
  { d with
    cache := d.cache.invalidate id
    due := raise (changes.filter fun change => change.1 = id) d.due }

/-- A mutator returns. -/
def settleChanges (changes : GrantChanges) (d : AuthorityStores) : AuthorityStores :=
  { d with settled := raise changes d.settled }

def authorityStep (call : AuthorityCall) (d : AuthorityStores) : AuthorityCall × AuthorityStores :=
  match call with
  | .asked (.getAuthority userId) => (lookUpAuthority userId d, d)
  | .asked (.update env actor id body) => (planUpdate env actor id body d, d)
  | .asked (.delete id) => (findDeleted id d, d)
  | .missed userId floor =>
    (.loaded userId floor (d.version userId) (d.users.find? userId), d)
  | .loaded userId floor version user => storeAuthority userId floor version user d
  | .planned id update => writeUpdate id update d
  | .written id changes => (.invalidated changes, invalidateAuthority id changes d)
  | .invalidated changes => (.returned, settleChanges changes d)
  | .found id roles => archiveUser id roles d
  | .deactivated id changes => (.retiring id (parentsOf id d.links) changes, d)
  | .retiring id parents changes => (nextParent id parents changes d, d)
  | .childless id parentId parents changes => archiveParent id parentId parents changes d
  | .unmapped id changes => (.returned, settleChanges changes (invalidateAuthority id changes d))
  | call => (call, d)

/-- What else happens: other writes of the users, links, another invalidation, and time. -/
inductive AuthorityChange
  | writeUsers (users : UserTable)
  | setLinks (links : List ParentLink)
  | invalidate (userId : String)
  | pass (milliseconds : ℕ)

def AuthorityChange.apply (d : AuthorityStores) : AuthorityChange → AuthorityStores
  | .writeUsers users => d.write users
  | .setLinks links => { d with links }
  | .invalidate userId => { d with cache := d.cache.invalidate userId }
  | .pass milliseconds => { d with now := d.now + milliseconds }

def authorityService :
    Service AuthorityRequest Unit AuthorityChange AuthorityStores AuthorityCall where
  start := .asked
  next _ := authorityStep
  other change d := change.apply d

abbrev AuthorityState := Flight AuthorityStores AuthorityCall
abbrev AuthorityEvent := FlightEvent AuthorityRequest Unit AuthorityChange

/-! ## What is gone -/

/-- **A revoked authority is gone at once**: no call has returned an authority from before a change
whose mutator had returned when the call began. -/
def AuthorityGone (s : AuthorityState) : Prop :=
  ∀ call ∈ s.calls, ∀ answer ∈ call.answer?, answer.floor ≤ answer.version

/-- A step that keeps to it: an authority is put into the cache only when every mutator that has
changed its user since it was read has the invalidation still ahead, and a deletion changes the
grants of a parent only while no authority of the parent is live in the cache. -/
def AuthorityCall.StepOk (d : AuthorityStores) : AuthorityCall → Prop
  | .loaded userId _ version (some _) => d.due userId ≤ version
  | .childless id parentId _ _ =>
    parentId ≠ id →
      changesOf parentId d (d.write (deactivateParent parentId d.users)) ≠ [] →
      d.cache.live parentId d.now = none
  | _ => True

def AuthorityStepOk (s : AuthorityState) : AuthorityEvent → Prop
  | .advance i _ => ∀ call ∈ s.calls[i]?, call.StepOk s.shared
  | _ => True

instance (d : AuthorityStores) (call : AuthorityCall) : Decidable (call.StepOk d) := by
  unfold AuthorityCall.StepOk
  split <;> infer_instance

instance (s : AuthorityState) (e : AuthorityEvent) : Decidable (AuthorityStepOk s e) := by
  unfold AuthorityStepOk
  split <;> infer_instance

instance (s : AuthorityState) : Decidable (AuthorityGone s) := by
  unfold AuthorityGone
  infer_instance

/-! ## Versions -/

section Versions
variable {changes : GrantChanges} {record : String → ℕ} {userId : String} {n : ℕ}
  {d d' : AuthorityStores} {users : UserTable}

theorem raise_le_iff :
    raise changes record userId ≤ n
      ↔ record userId ≤ n ∧ ∀ change ∈ changes, change.1 = userId → change.2 ≤ n := by
  induction changes generalizing record with
  | nil => simp [raise]
  | cons change changes ih =>
    obtain ⟨key, version⟩ := change
    rw [raise, ih, List.forall_mem_cons]
    by_cases huser : userId = key
    · subst huser
      rw [if_pos rfl, max_le_iff, and_assoc]
      simp
    rw [if_neg huser]
    simp [Ne.symm huser]

theorem le_raise : record userId ≤ raise changes record userId := (raise_le_iff.1 le_rfl).1

theorem le_raise_of_mem {change : String × ℕ} (h : change ∈ changes) :
    change.2 ≤ raise changes record change.1 := (raise_le_iff.1 le_rfl).2 change h rfl

theorem le_version_write : d.version userId ≤ (d.write users).version userId := by
  simp only [AuthorityStores.write]
  split
  · exact le_rfl
  · exact Nat.le_succ _

theorem mem_changesOf {change : String × ℕ} (h : change ∈ changesOf userId d d') :
    change = (userId, d'.version userId) := by
  unfold changesOf at h
  split at h
  · cases h
  · exact List.mem_singleton.1 h

end Versions

/-! ## What the steps keep -/

/-- The records go up, and no live entry is older than the last change that nobody has yet to
invalidate. -/
structure VersionsOk (d : AuthorityStores) : Prop where
  settled : ∀ userId, d.settled userId ≤ d.due userId
  due : ∀ userId, d.due userId ≤ d.version userId
  live : ∀ userId entry, d.cache userId = some entry → d.now < entry.expiresAt →
    d.due userId ≤ entry.version

/-- The changes were made, and the deleted user apart nothing is left to do about them. -/
def ChangesOk (id : String) (changes : GrantChanges) (d : AuthorityStores) : Prop :=
  ∀ change ∈ changes, change.2 ≤ d.version change.1 ∧ (change.1 ≠ id → change.2 ≤ d.due change.1)

/-- What a request has recorded. -/
def AuthorityCall.Ok (d : AuthorityStores) : AuthorityCall → Prop
  | .missed userId floor => floor ≤ d.version userId
  | .loaded _ floor version _ => floor ≤ version
  | .answered answer => answer.floor ≤ answer.version
  | .written id changes | .deactivated id changes | .retiring id _ changes
  | .childless id _ _ changes | .unmapped id changes => ChangesOk id changes d
  | .invalidated changes => ∀ change ∈ changes, change.2 ≤ d.due change.1
  | _ => True

/-- Versions only go up. -/
structure VersionsGrown (d d' : AuthorityStores) : Prop where
  version : ∀ userId, d.version userId ≤ d'.version userId
  due : ∀ userId, d.due userId ≤ d'.due userId

section Steps
variable {d d' : AuthorityStores} {id userId : String} {changes : GrantChanges}
  {users : UserTable}

theorem VersionsGrown.of_eq (hversion : d'.version = d.version) (hdue : d'.due = d.due) :
    VersionsGrown d d' :=
  ⟨fun _ => hversion ▸ le_rfl, fun _ => hdue ▸ le_rfl⟩

theorem VersionsGrown.write (users : UserTable) (d : AuthorityStores) :
    VersionsGrown d (d.write users) :=
  ⟨fun _ => le_version_write, fun _ => le_rfl⟩

theorem ChangesOk.grown (h : ChangesOk id changes d) (hgrown : VersionsGrown d d') :
    ChangesOk id changes d' := by
  intro change hchange
  obtain ⟨hversion, hdue⟩ := h change hchange
  exact ⟨hversion.trans (hgrown.version _), fun hother => (hdue hother).trans (hgrown.due _)⟩

theorem AuthorityCall.Ok.grown {call : AuthorityCall} (h : call.Ok d)
    (hgrown : VersionsGrown d d') : call.Ok d' := by
  cases call with
  | missed userId floor => exact Nat.le_trans h (hgrown.version userId)
  | loaded userId floor version user => exact h
  | answered answer => exact h
  | written id changes => exact ChangesOk.grown h hgrown
  | deactivated id changes => exact ChangesOk.grown h hgrown
  | retiring id parents changes => exact ChangesOk.grown h hgrown
  | childless id parentId parents changes => exact ChangesOk.grown h hgrown
  | unmapped id changes => exact ChangesOk.grown h hgrown
  | invalidated changes => exact fun change hchange => (h change hchange).trans (hgrown.due _)
  | _ => trivial

theorem VersionsOk.write (h : VersionsOk d) : VersionsOk (d.write users) where
  settled := h.settled
  due userId := (h.due userId).trans le_version_write
  live := h.live

theorem changesOk_write : ChangesOk id (changesOf id d (d.write users)) (d.write users) := by
  intro change hchange
  rw [mem_changesOf hchange]
  exact ⟨le_rfl, fun hother => absurd rfl hother⟩

theorem live_invalidate (h : VersionsOk d) {entry : AuthorityEntry}
    (hentry : d.cache.invalidate id userId = some entry) (hlive : d.now < entry.expiresAt) :
    d.due userId ≤ entry.version ∧ userId ≠ id := by
  by_cases hkey : userId = id
  · subst hkey
    simp at hentry
  rw [AuthorityCache.invalidate_of_ne hkey] at hentry
  exact ⟨h.live userId entry hentry hlive, hkey⟩

theorem grown_invalidate : VersionsGrown d (invalidateAuthority id changes d) :=
  ⟨fun _ => le_rfl, fun _ => le_raise⟩

theorem versionsOk_invalidate (h : VersionsOk d) (hchanges : ChangesOk id changes d) :
    VersionsOk (invalidateAuthority id changes d) where
  settled userId := (h.settled userId).trans le_raise
  due userId := by
    refine raise_le_iff.2 ⟨h.due userId, ?_⟩
    intro change hchange huser
    exact huser ▸ (hchanges change (List.mem_of_mem_filter hchange)).1
  live userId entry hentry hlive := by
    obtain ⟨hdue, hother⟩ := live_invalidate h hentry hlive
    refine raise_le_iff.2 ⟨hdue, ?_⟩
    intro change hchange huser
    have hid := of_decide_eq_true (List.mem_filter.1 hchange).2
    exact absurd (huser.symm.trans hid) hother

theorem due_invalidate (hchanges : ChangesOk id changes d) :
    ∀ change ∈ changes, change.2 ≤ (invalidateAuthority id changes d).due change.1 := by
  intro change hchange
  by_cases hid : change.1 = id
  · exact le_raise_of_mem (List.mem_filter.2 ⟨hchange, decide_eq_true hid⟩)
  · exact ((hchanges change hchange).2 hid).trans le_raise

theorem versionsOk_settle (h : VersionsOk d) (hchanges : ∀ change ∈ changes,
    change.2 ≤ d.due change.1) : VersionsOk (settleChanges changes d) where
  settled userId := by
    refine raise_le_iff.2 ⟨h.settled userId, ?_⟩
    intro change hchange huser
    exact huser ▸ hchanges change hchange
  due := h.due
  live := h.live

/-- A store keeps to what is due. -/
theorem versionsOk_store (h : VersionsOk d) {entry : AuthorityEntry}
    (hdue : d.due userId ≤ entry.version) :
    VersionsOk { d with cache := d.cache.store userId entry } where
  settled := h.settled
  due := h.due
  live key entry' hentry hlive := by
    by_cases hkey : key = userId
    · subst hkey
      cases AuthorityCache.store_self.symm.trans hentry
      exact hdue
    · exact h.live key entry' ((AuthorityCache.store_of_ne hkey).symm.trans hentry) hlive

/-- A parent is archived while no authority of theirs is live. -/
theorem versionsOk_archiveParent (h : VersionsOk d) {parentId : String} {parents : List String}
    (hstep : (AuthorityCall.childless id parentId parents changes).StepOk d) :
    VersionsOk (archiveParent id parentId parents changes d).2 := by
  simp only [archiveParent]
  split
  · exact h.write
  rename_i hother
  refine ⟨fun key => (h.settled key).trans le_raise, fun key => ?_, ?_⟩
  · refine raise_le_iff.2 ⟨(h.due key).trans le_version_write, ?_⟩
    intro change hchange hkey
    rw [mem_changesOf hchange] at hkey ⊢
    exact hkey ▸ le_rfl
  intro key entry hentry hlive
  refine raise_le_iff.2 ⟨h.live key entry hentry hlive, ?_⟩
  intro change hchange hkey
  -- the entry would be one of the parent
  have hnone := hstep hother (List.ne_nil_of_mem hchange)
  rw [mem_changesOf hchange] at hkey
  have hsome := AuthorityCache.live_eq_some.2 ⟨hkey ▸ hentry, hlive⟩
  cases hnone.symm.trans hsome

theorem changesOk_archiveParent {parentId : String} {parents : List String}
    (hchanges : ChangesOk id changes d) :
    VersionsGrown d (archiveParent id parentId parents changes d).2
      ∧ (archiveParent id parentId parents changes d).1.Ok
        (archiveParent id parentId parents changes d).2 := by
  have hgrown : VersionsGrown d (archiveParent id parentId parents changes d).2 := by
    simp only [archiveParent]
    split
    · exact VersionsGrown.write _ d
    · exact ⟨fun _ => le_version_write, fun _ => le_raise⟩
  refine ⟨hgrown, ?_⟩
  have hkept := hchanges.grown hgrown
  simp only [archiveParent, AuthorityCall.Ok] at hkept ⊢
  intro change hchange
  rcases List.mem_append.1 hchange with hnew | hold
  · split
    · rename_i hsame
      have hboth := changesOk_write change hnew
      exact hsame ▸ hboth
    refine ⟨?_, fun _ => le_raise_of_mem hnew⟩
    rw [mem_changesOf hnew]
  · exact hkept change hold

/-- **What a step of a request keeps.** -/
theorem authorityStep_ok {call : AuthorityCall} (hversions : VersionsOk d) (hcall : call.Ok d)
    (hstep : call.StepOk d) :
    VersionsGrown d (authorityStep call d).2 ∧ VersionsOk (authorityStep call d).2
      ∧ (authorityStep call d).1.Ok (authorityStep call d).2 := by
  cases call with
  | asked request =>
    cases request with
    | getAuthority userId =>
      refine ⟨VersionsGrown.of_eq rfl rfl, hversions, ?_⟩
      simp only [authorityStep, lookUpAuthority]
      split
      · rename_i entry hlive
        obtain ⟨hentry, hlive⟩ := AuthorityCache.live_eq_some.1 hlive
        exact (hversions.settled userId).trans (hversions.live userId entry hentry hlive)
      · exact (hversions.settled userId).trans (hversions.due userId)
    | update env actor id body =>
      refine ⟨VersionsGrown.of_eq rfl rfl, hversions, ?_⟩
      simp only [authorityStep, planUpdate]
      split
      · trivial
      split
      · trivial
      · split <;> trivial
    | delete id =>
      refine ⟨VersionsGrown.of_eq rfl rfl, hversions, ?_⟩
      simp only [authorityStep, findDeleted]
      split <;> trivial
  | missed userId floor => exact ⟨VersionsGrown.of_eq rfl rfl, hversions, hcall⟩
  | loaded userId floor version user =>
    cases user with
    | none =>
      refine ⟨VersionsGrown.of_eq rfl rfl, ⟨hversions.settled, hversions.due, ?_⟩, hcall⟩
      exact fun key entry hentry hlive => (live_invalidate hversions hentry hlive).1
    | some user => exact ⟨VersionsGrown.of_eq rfl rfl, versionsOk_store hversions hstep, hcall⟩
  | planned id update =>
    simp only [authorityStep, writeUpdate]
    split
    · exact ⟨VersionsGrown.of_eq rfl rfl, hversions, trivial⟩
    · exact ⟨VersionsGrown.write _ d, hversions.write, changesOk_write⟩
  | written id changes =>
    exact ⟨grown_invalidate, versionsOk_invalidate hversions hcall, due_invalidate hcall⟩
  | invalidated changes =>
    exact ⟨VersionsGrown.of_eq rfl rfl, versionsOk_settle hversions hcall, trivial⟩
  | found id roles =>
    refine ⟨VersionsGrown.write _ d, hversions.write, ?_⟩
    simp only [authorityStep, archiveUser]
    split
    · exact changesOk_write
    · exact changesOk_write
  | deactivated id changes => exact ⟨VersionsGrown.of_eq rfl rfl, hversions, hcall⟩
  | retiring id parents changes =>
    refine ⟨VersionsGrown.of_eq rfl rfl, hversions, ?_⟩
    simp only [authorityStep, nextParent]
    split
    · exact hcall
    · split <;> exact hcall
  | childless id parentId parents changes =>
    obtain ⟨hgrown, hok⟩ := changesOk_archiveParent hcall
    exact ⟨hgrown, versionsOk_archiveParent hversions hstep, hok⟩
  | unmapped id changes =>
    exact ⟨⟨fun _ => le_rfl, fun _ => le_raise⟩,
      versionsOk_settle (versionsOk_invalidate hversions hcall) (due_invalidate hcall), trivial⟩
  | returned => exact ⟨VersionsGrown.of_eq rfl rfl, hversions, trivial⟩
  | answered answer => exact ⟨VersionsGrown.of_eq rfl rfl, hversions, hcall⟩
  | refused status message => exact ⟨VersionsGrown.of_eq rfl rfl, hversions, trivial⟩

/-- What else happens makes no record worse. -/
theorem authorityChange_ok (change : AuthorityChange) (h : VersionsOk d) :
    VersionsGrown d (change.apply d) ∧ VersionsOk (change.apply d) := by
  cases change with
  | writeUsers users => exact ⟨VersionsGrown.write users d, h.write⟩
  | setLinks links => exact ⟨VersionsGrown.of_eq rfl rfl, h.settled, h.due, h.live⟩
  | invalidate userId =>
    refine ⟨VersionsGrown.of_eq rfl rfl, h.settled, h.due, ?_⟩
    exact fun key entry hentry hlive => (live_invalidate h hentry hlive).1
  | pass milliseconds =>
    refine ⟨VersionsGrown.of_eq rfl rfl, h.settled, h.due, ?_⟩
    intro key entry hentry hlive
    have hbefore : d.now < entry.expiresAt := by
      have hpass : d.now + milliseconds < entry.expiresAt := hlive
      omega
    exact h.live key entry hentry hbefore

end Steps

/-! ## Runs -/

/-- The records are in order, and so is what every request has recorded. -/
structure AuthorityOk (s : AuthorityState) : Prop where
  records : VersionsOk s.shared
  calls : ∀ call ∈ s.calls, call.Ok s.shared

theorem AuthorityOk.gone {s : AuthorityState} (h : AuthorityOk s) : AuthorityGone s := by
  intro call hcall answer hanswer
  cases call with
  | answered answer' =>
    cases hanswer
    exact h.calls _ hcall
  | _ => cases hanswer

theorem authorityOk_step {s : AuthorityState} {e : AuthorityEvent} (h : AuthorityOk s)
    (hstep : AuthorityStepOk s e) : AuthorityOk (authorityService.step e s) := by
  cases e with
  | call request =>
    refine ⟨h.records, ?_⟩
    intro call hcall
    rcases List.mem_append.1 hcall with hold | hnew
    · exact h.calls call hold
    rw [List.mem_singleton.1 hnew]
    trivial
  | other change =>
    obtain ⟨hgrown, hversions⟩ := authorityChange_ok change h.records
    exact ⟨hversions, fun call hcall => (h.calls call hcall).grown hgrown⟩
  | advance i x =>
    cases hcall : s.calls[i]? with
    | none =>
      rw [Service.step_advance_none hcall]
      exact h
    | some call =>
      obtain ⟨hgrown, hversions, hok⟩ :=
        authorityStep_ok h.records (h.calls call (List.mem_of_getElem? hcall))
          (hstep call hcall)
      have hshared : (authorityService.step (.advance i x) s).shared
          = (authorityStep call s.shared).2 := by
        rw [Service.step_advance hcall]
        rfl
      refine ⟨hshared ▸ hversions, ?_⟩
      intro call' hcall'
      rw [hshared]
      rcases Service.mem_calls_advance hcall hcall' with hold | rfl
      · exact (h.calls call' hold).grown hgrown
      · exact hok

/-- The server with an empty cache and nothing under way. -/
def idleAuthority (users : UserTable) (links : List ParentLink) (now : ℤ) : AuthorityState where
  shared := { users, links, now }

/-- **A revoked authority is gone at once**, in every state of a run whose steps keep to it. -/
theorem authority_gone (users : UserTable) (links : List ParentLink) (now : ℤ)
    (es : List AuthorityEvent)
    (h : Along authorityService.step AuthorityStepOk (idleAuthority users links now) es) :
    ∀ pre, pre <+: es →
      AuthorityGone (run authorityService.step (idleAuthority users links now) pre) := by
  have hversions : VersionsOk (idleAuthority users links now).shared :=
    { settled := fun _ => Nat.le_refl 0, due := fun _ => Nat.le_refl 0
      live := fun _ _ hentry => by cases hentry }
  have hstart : AuthorityOk (idleAuthority users links now) :=
    ⟨hversions, fun _ hcall => by cases hcall⟩
  have hstep : ∀ s e, AuthorityOk s → AuthorityStepOk s e →
      AuthorityOk (authorityService.step e s) := fun _ _ => authorityOk_step
  exact fun pre hpre => (along_invariant_throughout hstep hstart h hpre).gone

/-- A bursar is disabled while their authority is cached; who asks afterwards is told so. -/
theorem authority_gone_disabled :
    let bursar : TenantUser := { id := "usr_1", email := "bola@school.ng", roles := ["bursar"] }
    let s := idleAuthority { rows := [bursar], nodup := by decide } [] 0
    let es : List AuthorityEvent :=
      [.call (.getAuthority "usr_1"), .advance 0 (), .advance 0 (), .advance 0 (),
       .call (.update {} none "usr_1" { isActive := some false }), .advance 1 (), .advance 1 (),
       .advance 1 (), .advance 1 (), .call (.getAuthority "usr_1"), .advance 2 (), .advance 2 (),
       .advance 2 ()]
    (run authorityService.step s es).calls.map AuthorityCall.answer?
        = [some { authority := some (authorityOf bursar), version := 0, floor := 0 }, none,
            some
              { authority := some (authorityOf { bursar with isActive := false }), version := 1
                floor := 1 }]
      ∧ ∀ pre, pre <+: es → AuthorityGone (run authorityService.step s pre) :=
  ⟨by decide, authority_gone _ _ _ _ (by decide)⟩

/-- A bursar is disabled while somebody reads their authority, who puts it back after the
invalidation; and a parent whose only child is deleted stays in the cache. -/
theorem not_authority_gone :
    let bursar : TenantUser := { id := "usr_1", email := "bola@school.ng", roles := ["bursar"] }
    let child : TenantUser := { id := "usr_2", email := "chidi@school.ng", roles := ["student"] }
    let parent : TenantUser := { id := "usr_3", email := "dayo@school.ng", roles := ["parent"] }
    let s := idleAuthority { rows := [bursar, child, parent], nodup := by decide }
      [{ parentId := "usr_3", studentId := "usr_2" }] 0
    ¬ AuthorityGone (run authorityService.step s
        [.call (.getAuthority "usr_1"), .advance 0 (), .advance 0 (),
         .call (.update {} none "usr_1" { isActive := some false }), .advance 1 (), .advance 1 (),
         .advance 1 (), .advance 1 (), .advance 0 (), .call (.getAuthority "usr_1"),
         .advance 2 ()])
      ∧ ¬ AuthorityGone (run authorityService.step s
        [.call (.getAuthority "usr_3"), .advance 0 (), .advance 0 (), .advance 0 (),
         .call (.delete "usr_2"), .advance 1 (), .advance 1 (), .advance 1 (), .advance 1 (),
         .advance 1 (), .advance 1 (), .advance 1 (), .call (.getAuthority "usr_3"),
         .advance 2 ()]) := by
  decide

end MultiAcademy.School
