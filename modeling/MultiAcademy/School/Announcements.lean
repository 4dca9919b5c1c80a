import MultiAcademy.Lib.Recent
import MultiAcademy.School.ListCacheSlots
import MultiAcademy.School.RolePermissions

/-!
# Announcements

`announcements/announcements.service.ts`, for one school.  An announcement is stored with its
audience; the users in it are notified as it is created, if it is published then.  What a user
has yet to acknowledge of the critical ones is read through the list cache, for thirty seconds:
a call may be given a list that is held there, or join a load that another call has started.

The rows of `announcements` are kept newest first: the clock does not go back, and no two
announcements are created in the same instant.
-/

namespace MultiAcademy.School

open MultiAcademy.Lib

/-! ## The tables -/

/-- `ANNOUNCEMENT_AUDIENCES`; the requests take no other. -/
inductive Audience
  | all
  | staff
  | students
  | parents
  deriving DecidableEq

/-- `ANNOUNCEMENT_SCHOOL_LEVELS`. -/
inductive SchoolLevel
  | primary
  | secondary
  | nursery
  deriving DecidableEq

/-- A row of `announcements`. -/
structure Announcement where
  id : String
  title : String
  body : String
  audience : Audience
  schoolLevel : Option SchoolLevel
  isPublished : Bool
  isCritical : Bool
  createdBy : String
  createdAt : Time
  updatedAt : Time

/-- A row of `users`; its column of roles is `none` when it does not parse. -/
structure SchoolUser where
  id : String
  roles : Option (List RoleId)
  isActive : Bool := true
  deriving DecidableEq

def staffRoles : List RoleId :=
  [.director, .schoolAdmin, .itAdmin, .headTeacher, .principal, .assistantHeadTeacher, .bursar,
   .classTeacher, .subjectTeacher, .administrativeStaff]

/-- The user belongs to the audience, as `notifyAudience` filters the users. -/
def Audience.includes (audience : Audience) (user : SchoolUser) : Bool :=
  let roles := user.roles.getD []
  match audience with
  | .all => true
  | .students => roles.contains .student
  | .parents => roles.contains .parent
  | .staff => roles.any fun role => staffRoles.contains role

/-- What `pendingCritical` selects of an announcement. -/
structure PendingAnnouncement where
  id : String
  title : String
  body : String
  createdAt : Time
  deriving DecidableEq

def Announcement.pending (a : Announcement) : PendingAnnouncement :=
  { id := a.id, title := a.title, body := a.body, createdAt := a.createdAt }

/-- A notification that `notifyAudience` creates; the announcement is not a column of it. -/
structure AnnouncementNotice where
  announcementId : String
  userId : String
  title : String
  message : String
  type : String
  href : String

/-- `PENDING_CRITICAL_CACHE_TTL_MS`. -/
def pendingCriticalTtl : Time := Time.seconds 30

/-- The keys that `invalidateCriticalCache` covers. -/
def criticalFamily (tenantId : String) : String :=
  "tenant:" ++ tenantId ++ ":announcements:critical:"

/-- The key of a user's list. -/
def criticalKey (tenantId userId : String) : String := criticalFamily tenantId ++ userId

/-- The tables of a school, the list cache, and what the query of each load has read. -/
structure AnnouncementStores where
  tenantId : String
  now : Time
  users : Keyed SchoolUser.id
  announcements : Keyed Announcement.id := .empty
  /-- The rows of `announcement_acks`: announcement and user. -/
  acks : List (String × String) := []
  notices : List AnnouncementNotice := []
  cache : ListCache (List PendingAnnouncement) := {}
  read : ℕ → Option (List PendingAnnouncement) := fun _ => none

/-! ## The bodies of the requests -/

/-- `CreateAnnouncementDto`; `none` is a field that is left out, or null. -/
structure CreateAnnouncement where
  title : String
  body : String
  audience : Option Audience := none
  schoolLevel : Option SchoolLevel := none
  isPublished : Option Bool := none
  isCritical : Option Bool := none

/-- `isPublished !== false`. -/
def CreateAnnouncement.published (body : CreateAnnouncement) : Bool :=
  body.isPublished ≠ some false

def CreateAnnouncement.critical (body : CreateAnnouncement) : Bool := body.isCritical.getD false

/-- The row that `create` inserts. -/
def CreateAnnouncement.row (id userId : String) (now : Time) (body : CreateAnnouncement) :
    Announcement where
  id := id
  title := body.title
  body := body.body
  audience := body.audience.getD .all
  schoolLevel := body.schoolLevel
  isPublished := body.published
  isCritical := body.critical
  createdBy := userId
  createdAt := now
  updatedAt := now

/-- `UpdateAnnouncementDto`: `none` is a field that is left out, and `some none` is null. -/
structure UpdateAnnouncement where
  title : Option (Option String) := none
  body : Option (Option String) := none
  audience : Option (Option Audience) := none
  schoolLevel : Option (Option SchoolLevel) := none
  isPublished : Option (Option Bool) := none
  isCritical : Option (Option Bool) := none

variable (body : UpdateAnnouncement)

/-- No field is set. -/
def UpdateAnnouncement.isEmpty : Bool :=
  body.title.isNone && body.body.isNone && body.audience.isNone && body.schoolLevel.isNone
    && body.isPublished.isNone && body.isCritical.isNone

/-- A column that is `NOT NULL` would be set to null. -/
def UpdateAnnouncement.setsNull : Bool :=
  body.title = some none || body.body = some none || body.audience = some none

/-- The row with the fields set. -/
def UpdateAnnouncement.apply (now : Time) (body : UpdateAnnouncement) (a : Announcement) :
    Announcement :=
  { a with
    title := body.title.join.getD a.title
    body := body.body.join.getD a.body
    audience := body.audience.join.getD a.audience
    schoolLevel := body.schoolLevel.getD a.schoolLevel
    isPublished := (body.isPublished.map (·.getD false)).getD a.isPublished
    isCritical := (body.isCritical.map (·.getD false)).getD a.isCritical
    updatedAt := now }

@[simp] theorem UpdateAnnouncement.apply_id (now : Time) (body : UpdateAnnouncement)
    (a : Announcement) : (body.apply now a).id = a.id := rfl

/-- `isCritical` or `isPublished` is set, which invalidates the lists. -/
def UpdateAnnouncement.invalidates : Bool :=
  body.isCritical.isSome || body.isPublished.isSome

inductive AnnouncementError
  | notFound (message : String)
  | badRequest (message : String)
  /-- The database refuses a null. -/
  | notNull

/-- The condition of the query of a user's list. -/
def pendingFor (acks : List (String × String)) (userId : String) (a : Announcement) : Bool :=
  a.isCritical && a.isPublished && !acks.contains (a.id, userId)

namespace AnnouncementStores

/-! ## The requests -/

variable (s : AnnouncementStores) (userId : String) (load : ℕ)

def invalidateCriticalCache : AnnouncementStores :=
  { s with cache := invalidateList (criticalFamily s.tenantId) s.cache }

/-- The active users of an audience. -/
def targets (audience : Audience) : List SchoolUser :=
  s.users.rows.filter fun user => user.isActive && audience.includes user

def notice (announcementId title : String) (user : SchoolUser) : AnnouncementNotice where
  announcementId := announcementId
  userId := user.id
  title := "New announcement"
  message := title
  type := "info"
  href := "/dashboard/announcements"

/-- The users whose notifications get through, of the first two hundred.  With the worker each is
posted on its own; without, the first one that fails ends the loop. -/
def reached (worker : Bool) (delivers : String → Bool) (targets : List SchoolUser) :
    List SchoolUser :=
  let capped := targets.take 200
  if worker then capped.filter fun user => delivers user.id
  else capped.takeWhile fun user => delivers user.id

def notifyAudience (worker : Bool) (delivers : String → Bool) (audience : Audience)
    (title announcementId : String) (s : AnnouncementStores) : List AnnouncementNotice :=
  (reached worker delivers (s.targets audience)).map (notice announcementId title)

/-- `create`, with the id it draws. -/
def create (id userId : String) (body : CreateAnnouncement) (worker : Bool)
    (delivers : String → Bool) (s : AnnouncementStores) : AnnouncementStores :=
  match s.announcements.push? (body.row id userId s.now) with
  | none => s
  | some announcements =>
    let sent :=
      if body.published then
        s.notifyAudience worker delivers (body.audience.getD .all) body.title id
      else []
    let stored : AnnouncementStores := { s with announcements, notices := s.notices ++ sent }
    if body.critical then stored.invalidateCriticalCache else stored

/-- The announcements after the statement of an update. -/
def updated (id : String) (body : UpdateAnnouncement) :
    Keyed Announcement.id :=
  s.announcements.updateWhere (fun a => a.id = id) (body.apply s.now) (body.apply_id s.now)

def update (id : String) (body : UpdateAnnouncement) (s : AnnouncementStores) :
    AnnouncementStores × Except AnnouncementError String :=
  match s.announcements.find? id with
  | none => (s, .error (.notFound "Announcement not found"))
  | some _ =>
    if body.isEmpty then (s, .error (.badRequest "No fields to update"))
    else if body.setsNull then (s, .error .notNull)
    else
      let stored : AnnouncementStores := { s with announcements := s.updated id body }
      (if body.invalidates then stored.invalidateCriticalCache else stored, .ok id)

def remove (id : String) (s : AnnouncementStores) : AnnouncementStores :=
  { s with announcements := s.announcements.deleteWhere fun a => a.id = id }

def acknowledge (userId announcementId : String) (s : AnnouncementStores) :
    AnnouncementStores :=
  invalidateCriticalCache { s with acks := s.acks.insert (announcementId, userId) }

/-! ## The lists -/

/-- The query of a user's list. -/
def loadPending : List PendingAnnouncement :=
  (s.announcements.newest 10 (pendingFor s.acks userId)).map Announcement.pending

/-- The list that the cache holds for a user, or that a load in flight has read. -/
def held : Option (List PendingAnnouncement) :=
  let key := criticalKey s.tenantId userId
  let pending := (s.cache.inFlight.get? key).bind s.read
  match s.cache.entries.get? key with
  | some cached => if s.now < cached.expiresAt then some cached.value else pending
  | none => pending

/-- What a call of `pendingCritical` gives, if nothing is written before it returns: what is
held, or what its load is about to read. -/
def pendingCritical : List PendingAnnouncement :=
  (s.held userId).getD (s.loadPending userId)

/-- A call of `pendingCritical`, up to its await. -/
def callPendingCritical (listTtl : Time) (userId : String) (s : AnnouncementStores) :
    AnnouncementStores :=
  { s with
    cache :=
      getOrLoad listTtl s.now (criticalKey s.tenantId userId) false (some pendingCriticalTtl)
        s.cache }

def pendingLoad : Option Load :=
  (s.cache.loads[load]?).filter fun l => l.phase = .pending

def runQuery (s : AnnouncementStores) : AnnouncementStores :=
  match s.pendingLoad load with
  | some l =>
    if l.key = criticalKey s.tenantId userId ∧ s.read load = none then
      { s with read := Function.update s.read load (some (s.loadPending userId)) }
    else s
  | none => s

/-- A load ends; no other step comes between its `then` and its `finally`. -/
def endQuery (l : Load) (result : Option (List PendingAnnouncement))
    (s : AnnouncementStores) : AnnouncementStores :=
  { s with cache := finishLoad s.now load l result s.cache }

/-- What the query of a load has read arrives. -/
def answerLoad (s : AnnouncementStores) : AnnouncementStores :=
  match s.pendingLoad load, s.read load with
  | some l, some result => s.endQuery load l (some result)
  | _, _ => s

def failLoad (s : AnnouncementStores) : AnnouncementStores :=
  match s.pendingLoad load, s.read load with
  | some l, none => s.endQuery load l none
  | _, _ => s

end AnnouncementStores

structure NewestFirst (s : AnnouncementStores) : Prop where
  sorted : s.announcements.rows.Pairwise fun a b => b.createdAt ≤ a.createdAt
  past : ∀ a ∈ s.announcements.rows, a.createdAt ≤ s.now

/-- A request, a call of `pendingCritical` or a part of its load, or time passes. -/
inductive AnnouncementEvent
  | create (id userId : String) (body : CreateAnnouncement) (worker : Bool)
      (delivers : String → Bool)
  | update (id : String) (body : UpdateAnnouncement)
  | remove (id : String)
  | acknowledge (userId announcementId : String)
  | pendingCritical (userId : String)
  | query (userId : String) (load : ℕ)
  | answer (load : ℕ)
  | fail (load : ℕ)
  | pass (elapsed : ℕ)

def announcementStep (listTtl : Time) (e : AnnouncementEvent) (s : AnnouncementStores) :
    AnnouncementStores :=
  match e with
  | .create id userId body worker delivers => s.create id userId body worker delivers
  | .update id body => (s.update id body).1
  | .remove id => s.remove id
  | .acknowledge userId announcementId => s.acknowledge userId announcementId
  | .pendingCritical userId => s.callPendingCritical listTtl userId
  | .query userId load => s.runQuery userId load
  | .answer load => s.answerLoad load
  | .fail load => s.failLoad load
  | .pass elapsed => { s with now := s.now + elapsed }

end MultiAcademy.School
