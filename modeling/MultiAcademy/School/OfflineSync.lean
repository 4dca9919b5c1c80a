import MultiAcademy.Lib.Flight
import MultiAcademy.School.Timetable

/-!
# Offline operations

`sync/sync.service.ts`: an operation that a device recorded offline is looked up among the
applied operations, applied, and then recorded as applied, in three statements and no
transaction.  The record is found by the operation's id alone, which the device chooses.
-/

namespace MultiAcademy.School

open MultiAcademy.Lib

/-! ## The tables -/

/-- A row of `academic_lesson_notes`. -/
structure LessonNote where
  id : String
  classId : String
  subjectId : Option String := none
  termId : Option String := none
  title : String
  content : String
  weekLabel : Option String := none
  createdBy : Option String
  updatedAt : ℕ
  deriving DecidableEq

/-- `body.action`. -/
inductive SyncAction
  | create | update
  deriving DecidableEq

/-- A row of `sync_operations`. -/
structure SyncOperation where
  operationId : String
  userId : String
  entity : String
  action : SyncAction
  deriving DecidableEq

structure SyncTables where
  notes : Keyed LessonNote.id := Keyed.empty
  slots : Slots := Keyed.empty

structure SyncDb where
  tables : SyncTables := {}
  operations : Keyed SyncOperation.operationId := Keyed.empty

/-! ## An operation -/

/-- The status and the message of a refusal. -/
abbrev SyncError := ℕ × String

structure SyncPayload extends OfflineSlot where
  termId : Option String := none
  title : Option String := none
  content : Option String := none
  weekLabel : Option String := none
  deriving DecidableEq

structure SyncBody where
  operationId : String
  entity : String
  action : SyncAction
  payload : SyncPayload
  deriving DecidableEq

/-- `isSafeSyncOperation`, for an action and a payload of the right kinds. -/
def isSafeSyncOperation (body : SyncBody) : Bool :=
  !blank body.operationId && !blank body.entity

/-- What a statement of an operation did. -/
structure SyncEffect where
  entityId : String
  /-- A row was inserted or updated; the code does not look. -/
  changed : Bool
  tables : SyncTables

/-- The columns hold the row. -/
def LessonNote.storable (note : LessonNote) : Bool :=
  note.id.length ≤ 64 && note.classId.length ≤ 64 && note.subjectId.all (·.length ≤ 64)
    && note.termId.all (·.length ≤ 64) && note.title.length ≤ 255
    && note.weekLabel.all (·.length ≤ 64) && note.createdBy.all (·.length ≤ 64)

def SyncPayload.note (userId drawn : String) (now : ℕ) (payload : SyncPayload) :
    Option LessonNote := do
  let classId ← orNull payload.classId
  let title ← orNull payload.title
  let content ← orNull payload.content
  return { id := (orNull payload.id).getD drawn, classId
           subjectId := orNull payload.subjectId, termId := orNull payload.termId
           title, content, weekLabel := orNull payload.weekLabel
           createdBy := some userId, updatedAt := now }

/-- `title = COALESCE(?, title)`, and so on. -/
def SyncPayload.edit (now : ℕ) (payload : SyncPayload) (note : LessonNote) : LessonNote :=
  { note with
    title := (orNull payload.title).getD note.title
    content := (orNull payload.content).getD note.content
    weekLabel := orNull payload.weekLabel <|> note.weekLabel
    updatedAt := now }

/-- `INSERT INTO academic_lesson_notes`. -/
def insertNote (note : LessonNote) (tables : SyncTables) : Except SyncError SyncEffect :=
  match (if note.storable then tables.notes.insert? note else none) with
  | some notes => .ok { entityId := note.id, changed := true, tables := { tables with notes } }
  | none => .error (500, "Internal server error")

/-- `UPDATE academic_lesson_notes … WHERE id = ? AND created_by = ?`. -/
def updateNote (userId id : String) (now : ℕ) (payload : SyncPayload) (tables : SyncTables) :
    Except SyncError SyncEffect :=
  let own (note : LessonNote) : Bool := note.id = id && note.createdBy = some userId
  if (tables.notes.rows.filter own).all fun note => (payload.edit now note).storable then
    .ok { entityId := id
          changed := tables.notes.rows.any own
          tables := { tables with
            notes := tables.notes.updateWhere own (payload.edit now) fun _ => rfl } }
  else .error (500, "Internal server error")

/-- `applySupported`, with the id that is drawn when the payload has none. -/
def applySupported (userId drawn : String) (now : ℕ) (body : SyncBody) (tables : SyncTables) :
    Except SyncError (Option SyncEffect) :=
  let p := body.payload
  if body.entity = "lesson_note" then
    match body.action with
    | .create =>
      match p.note userId drawn now with
      | none => .ok none
      | some note => some <$> insertNote note tables
    | .update =>
      match orNull p.id with
      | none => .ok none
      | some id =>
        if (orNull p.title).isNone ∧ (orNull p.content).isNone ∧ (orNull p.weekLabel).isNone
        then .ok none
        else some <$> updateNote userId id now p tables
  else if body.entity = "timetable_slot" ∧ body.action = .create then do
    let (created, slots) ← createOfflineSlot userId drawn p.toOfflineSlot tables.slots
    return created.map fun entityId =>
      { entityId, changed := true, tables := { tables with slots } }
  else .ok none

/-! ## A request -/

/-- What the server answers. -/
inductive SyncReply
  | applied (entityId : String)
  | alreadyApplied
  deriving DecidableEq

/-- Where a request is. -/
inductive SyncPhase
  | checking
  | applying
  | recording (entityId : String)
  | replied (reply : SyncReply)
  | failed (status : ℕ) (message : String)
  /-- Its process died. -/
  | dead
  deriving DecidableEq

def SyncPhase.isReplied : SyncPhase → Bool
  | .replied _ => true
  | _ => false

/-- The reply is given, or the request has failed. -/
def SyncPhase.ended : SyncPhase → Bool
  | .replied _ | .failed _ _ => true
  | _ => false

/-- A request that has come in. -/
structure SyncCall where
  userId : String
  body : SyncBody
  drawn : String
  /-- The flag `comms.offline_sync`. -/
  enabled : Bool := true

structure SyncRequest where
  userId : String
  body : SyncBody
  drawn : String
  phase : SyncPhase
  /-- Its statement changed a row; no table keeps this. -/
  changed : Bool := false
  deriving DecidableEq

/-- `apply` up to the first query. -/
def SyncCall.start (call : SyncCall) : SyncRequest :=
  { userId := call.userId, body := call.body, drawn := call.drawn
    phase :=
      if call.enabled = false then .failed 403 "Feature disabled: comms.offline_sync"
      else if isSafeSyncOperation call.body = false then .failed 409 "Invalid offline operation"
      else .checking }

/-- What comes next for a request: the answer to its query, at a time, or a crash. -/
inductive SyncInput
  | query (now : ℕ)
  | crash

def SyncDb.recorded (operationId : String) (db : SyncDb) : Bool :=
  (db.operations.find? operationId).isSome

/-- `INSERT INTO sync_operations`. -/
def recordOperation (request : SyncRequest) (db : SyncDb) : Option SyncDb :=
  if request.body.operationId.length ≤ 128 ∧ request.userId.length ≤ 64 then
    (db.operations.insert?
      { operationId := request.body.operationId, userId := request.userId
        entity := String.ofList (request.body.entity.toList.take 128)
        action := request.body.action }).map fun operations => { db with operations }
  else none

/-- What `applySupported` comes to for a request. -/
def SyncRequest.apply (now : ℕ) (request : SyncRequest) (db : SyncDb) :
    Except SyncError (Option SyncEffect) :=
  applySupported request.userId request.drawn now request.body db.tables

/-- The next query of `apply`. -/
def syncStep (now : ℕ) (request : SyncRequest) (db : SyncDb) : SyncRequest × SyncDb :=
  match request.phase with
  | .checking =>
    if db.recorded request.body.operationId then
      ({ request with phase := .replied .alreadyApplied }, db)
    else ({ request with phase := .applying }, db)
  | .applying =>
    match request.apply now db with
    | .error (status, message) => ({ request with phase := .failed status message }, db)
    | .ok none =>
      ({ request with
          phase := .failed 409 "Unsupported offline entity or invalid payload" }, db)
    | .ok (some effect) =>
      ({ request with
          phase := .recording effect.entityId
          changed := request.changed || effect.changed },
        { db with tables := effect.tables })
  | .recording entityId =>
    match recordOperation request db with
    | some db' => ({ request with phase := .replied (.applied entityId) }, db')
    | none => ({ request with phase := .failed 500 "Internal server error" }, db)
  | .replied _ | .failed _ _ | .dead => (request, db)

/-- The requests; other writers edit the tables as they like. -/
def syncService : Service SyncCall SyncInput (SyncTables → SyncTables) SyncDb SyncRequest where
  start := SyncCall.start
  next
    | .query now, request, db => syncStep now request db
    | .crash, request, db =>
      (if request.phase.ended then request else { request with phase := .dead }, db)
  other edit db := { db with tables := edit db.tables }

abbrev SyncState := Flight SyncDb SyncRequest
abbrev SyncEvent := FlightEvent SyncCall SyncInput (SyncTables → SyncTables)

/-! ## Effects -/

/-- The request is of the user's operation, and changed a row. -/
def SyncRequest.effected (userId operationId : String) (request : SyncRequest) : Bool :=
  request.userId = userId && request.body.operationId = operationId && request.changed

/-- How often the user's operation has changed a row. -/
def effects (userId operationId : String) (s : SyncState) : ℕ :=
  s.calls.countP (SyncRequest.effected userId operationId)

/-- The user's operation has taken effect. -/
def TookEffect (userId operationId : String) (s : SyncState) : Prop :=
  0 < effects userId operationId s

/-- Each operation takes effect once at most, and a reply is given for one that did. -/
structure ExactlyOnce (s : SyncState) : Prop where
  once : ∀ userId operationId, effects userId operationId s ≤ 1
  replies : ∀ request ∈ s.calls, request.phase.isReplied = true →
    TookEffect request.userId request.body.operationId s

def SyncRequest.changesRow (now : ℕ) (request : SyncRequest) (db : SyncDb) : Bool :=
  (request.apply now db).toOption.any fun effect => effect.any (·.changed)

/-- What a request acts on is so: a record it finds is of an operation of its user that took
effect, an operation it applies has not taken effect yet, and one it records has. -/
def RequestHolds (now : ℕ) (request : SyncRequest) (s : SyncState) : Prop :=
  match request.phase with
  | .checking =>
    s.shared.recorded request.body.operationId = true →
      TookEffect request.userId request.body.operationId s
  | .applying =>
    request.changesRow now s.shared = true →
      ¬ TookEffect request.userId request.body.operationId s
  | .recording _ =>
    (recordOperation request s.shared).isSome = true →
      TookEffect request.userId request.body.operationId s
  | .replied _ | .failed _ _ | .dead => True

/-- What the request that takes a step acts on is so. -/
def ChecksHold (s : SyncState) : SyncEvent → Prop
  | .advance i (.query now) => ∀ request ∈ s.calls[i]?, RequestHolds now request s
  | .advance _ .crash | .call _ | .other _ => True

variable {s s' : SyncState} {e : SyncEvent} {i now : ℕ} {request request' : SyncRequest}
  {userId operationId : String} {db : SyncDb}

/-! ## One request -/

/-- Before its statement a request has changed nothing. -/
def SyncRequest.Fresh (request : SyncRequest) : Prop :=
  request.phase = .checking ∨ request.phase = .applying → request.changed = false

theorem start_not_effected (call : SyncCall) :
    (syncService.start call).effected userId operationId = false := by
  simp [syncService, SyncCall.start, SyncRequest.effected]

/-- A step of a request leaves whose operation it is, and what it has done. -/
theorem syncStep_keeps (now : ℕ) (request : SyncRequest) (db : SyncDb) :
    (syncStep now request db).1.userId = request.userId
      ∧ (syncStep now request db).1.body = request.body
      ∧ (request.changed = true → (syncStep now request db).1.changed = true) := by
  simp only [syncStep]
  split
  · split
    · exact ⟨rfl, rfl, id⟩
    · exact ⟨rfl, rfl, id⟩
  · split
    · exact ⟨rfl, rfl, id⟩
    · exact ⟨rfl, rfl, id⟩
    refine ⟨rfl, rfl, fun h => ?_⟩
    simp [h]
  · split
    · exact ⟨rfl, rfl, id⟩
    · exact ⟨rfl, rfl, id⟩
  · exact ⟨rfl, rfl, id⟩
  · exact ⟨rfl, rfl, id⟩
  · exact ⟨rfl, rfl, id⟩

theorem effected_iff : request.effected userId operationId = true
    ↔ userId = request.userId ∧ operationId = request.body.operationId
      ∧ request.changed = true := by
  simp only [SyncRequest.effected, Bool.and_eq_true, decide_eq_true_eq]
  constructor
  · rintro ⟨⟨rfl, rfl⟩, h⟩
    exact ⟨rfl, rfl, h⟩
  rintro ⟨rfl, rfl, h⟩
  exact ⟨⟨rfl, rfl⟩, h⟩

structure Moves (i : ℕ) (request request' : SyncRequest) (s s' : SyncState) : Prop where
  before : s.calls[i]? = some request
  after : s'.calls = s.calls.set i request'
  user : request'.userId = request.userId
  body : request'.body = request.body

/-- A step that changes no row. -/
theorem Moves.effects_eq (h : Moves i request request' s s')
    (hsame : request'.changed = request.changed) (userId operationId : String) :
    effects userId operationId s' = effects userId operationId s := by
  have hcount := Service.countP_set_add (p := SyncRequest.effected userId operationId) h.before
    request'
  have heffected : request'.effected userId operationId = request.effected userId operationId := by
    simp only [SyncRequest.effected, h.user, h.body, hsame]
  rw [heffected] at hcount
  rw [effects, effects, h.after]
  exact Nat.add_right_cancel hcount

/-- A step that changes no row is right when its reply is. -/
theorem Moves.exactlyOnce_iff (h : Moves i request request' s s') (hs : ExactlyOnce s)
    (hsame : request'.changed = request.changed) :
    ExactlyOnce s' ↔ (request'.phase.isReplied = true →
      TookEffect request.userId request.body.operationId s) := by
  have heffects := h.effects_eq hsame
  have htook : ∀ userId operationId, TookEffect userId operationId s'
      ↔ TookEffect userId operationId s := by
    intro userId operationId
    rw [TookEffect, TookEffect, heffects]
  constructor
  · intro hs' hreplied
    have hmem : request' ∈ s'.calls := by
      rw [h.after]
      exact List.mem_set (List.getElem?_eq_some_iff.1 h.before).1 request'
    have hafter := hs'.replies request' hmem hreplied
    rwa [htook, h.user, h.body] at hafter
  intro hreply
  refine ⟨?_, ?_⟩
  · intro userId operationId
    rw [heffects]
    exact hs.once userId operationId
  intro c hc hreplied
  rw [htook]
  rw [h.after] at hc
  rcases List.mem_or_eq_of_mem_set hc with hold | rfl
  · exact hs.replies c hold hreplied
  rw [h.user, h.body]
  exact hreply hreplied

/-- A step that changes a row is right when it is the first of its operation. -/
theorem Moves.exactlyOnce_iff_first (h : Moves i request request' s s') (hs : ExactlyOnce s)
    (hbefore : request.changed = false) (hafter : request'.changed = true)
    (hreplied : request'.phase.isReplied = false) :
    ExactlyOnce s' ↔ ¬ TookEffect request.userId request.body.operationId s := by
  have hcount : ∀ userId operationId, effects userId operationId s'
      = effects userId operationId s
        + if userId = request.userId ∧ operationId = request.body.operationId then 1 else 0 := by
    intro userId operationId
    have hset := Service.countP_set_add (p := SyncRequest.effected userId operationId) h.before
      request'
    have hold : request.effected userId operationId = false := by
      simp [SyncRequest.effected, hbefore]
    have hnew : request'.effected userId operationId = true
        ↔ userId = request.userId ∧ operationId = request.body.operationId := by
      rw [effected_iff, h.user, h.body]
      simp [hafter]
    simp only [hold, Bool.false_eq_true, if_false, Nat.add_zero, hnew] at hset
    rw [effects, effects, h.after]
    exact hset
  constructor
  · intro hs' htook
    have hone := hs'.once request.userId request.body.operationId
    rw [hcount, if_pos ⟨rfl, rfl⟩] at hone
    rw [TookEffect] at htook
    omega
  intro hfirst
  refine ⟨?_, ?_⟩
  · intro userId operationId
    rw [hcount]
    split
    · rename_i heq
      rw [heq.1, heq.2]
      rw [TookEffect] at hfirst
      omega
    · exact hs.once userId operationId
  intro c hc hrep
  rw [h.after] at hc
  rcases List.mem_or_eq_of_mem_set hc with hold | rfl
  · have htook := hs.replies c hold hrep
    rw [TookEffect] at htook ⊢
    rw [hcount]
    omega
  rw [hreplied] at hrep
  cases hrep

/-- **A query of a request keeps operations to one effect exactly when what it acts on is
so.** -/
theorem exactlyOnce_query (hrequest : s.calls[i]? = some request) (hfresh : request.Fresh)
    (hs : ExactlyOnce s) :
    ExactlyOnce (syncService.step (.advance i (.query now)) s) ↔ RequestHolds now request s := by
  rw [Service.step_advance hrequest]
  change ExactlyOnce
    { shared := (syncStep now request s.shared).2
      calls := s.calls.set i (syncStep now request s.shared).1 } ↔ _
  obtain ⟨huser, hbody, -⟩ := syncStep_keeps now request s.shared
  have hmoves : Moves i request (syncStep now request s.shared).1 s
      { shared := (syncStep now request s.shared).2
        calls := s.calls.set i (syncStep now request s.shared).1 } :=
    ⟨hrequest, rfl, huser, hbody⟩
  simp only [RequestHolds]
  cases hphase : request.phase with
  | checking =>
    cases hrecorded : s.shared.recorded request.body.operationId with
    | true =>
      have hnext : (syncStep now request s.shared).1
          = { request with phase := .replied .alreadyApplied } := by
        simp [syncStep, hphase, hrecorded]
      rw [hmoves.exactlyOnce_iff hs (by rw [hnext]), hnext]
      exact Iff.rfl
    | false =>
      have hnext : (syncStep now request s.shared).1 = { request with phase := .applying } := by
        simp [syncStep, hphase, hrecorded]
      rw [hmoves.exactlyOnce_iff hs (by rw [hnext]), hnext]
      exact iff_of_true (by intro h; cases h) (by intro h; cases h)
  | applying =>
    have hchanged : request.changed = false := hfresh (Or.inr hphase)
    cases happly : request.apply now s.shared with
    | error error =>
      have hnext : (syncStep now request s.shared).1
          = { request with phase := .failed error.1 error.2 } := by
        simp [syncStep, hphase, happly]
      rw [hmoves.exactlyOnce_iff hs (by rw [hnext]), hnext]
      exact iff_of_true (by intro h; cases h) (by simp [SyncRequest.changesRow, happly, Except.toOption])
    | ok found =>
      cases found with
      | none =>
        have hnext : (syncStep now request s.shared).1
            = { request with
                phase := .failed 409 "Unsupported offline entity or invalid payload" } := by
          simp [syncStep, hphase, happly]
        rw [hmoves.exactlyOnce_iff hs (by rw [hnext]), hnext]
        exact iff_of_true (by intro h; cases h) (by simp [SyncRequest.changesRow, happly, Except.toOption])
      | some effect =>
        have hnext : (syncStep now request s.shared).1
            = { request with
                phase := .recording effect.entityId
                changed := effect.changed } := by
          simp [syncStep, hphase, happly, hchanged]
        have hrow : request.changesRow now s.shared = effect.changed := by
          simp [SyncRequest.changesRow, happly, Except.toOption]
        rw [hrow]
        cases heffect : effect.changed with
        | true =>
          rw [hmoves.exactlyOnce_iff_first hs hchanged (by rw [hnext, heffect])
            (by rw [hnext]; rfl)]
          exact ⟨fun h _ => h, fun h => h rfl⟩
        | false =>
          rw [hmoves.exactlyOnce_iff hs (by rw [hnext, heffect, hchanged]), hnext]
          exact iff_of_true (by intro h; cases h) (by intro h; cases h)
  | recording entityId =>
    cases hrecord : recordOperation request s.shared with
    | none =>
      have hnext : (syncStep now request s.shared).1
          = { request with phase := .failed 500 "Internal server error" } := by
        simp [syncStep, hphase, hrecord]
      rw [hmoves.exactlyOnce_iff hs (by rw [hnext]), hnext]
      exact iff_of_true (by intro h; cases h) (by intro h; cases h)
    | some db' =>
      have hnext : (syncStep now request s.shared).1
          = { request with phase := .replied (.applied entityId) } := by
        simp [syncStep, hphase, hrecord]
      rw [hmoves.exactlyOnce_iff hs (by rw [hnext]), hnext]
      exact Iff.rfl
  | replied reply =>
    have hnext : (syncStep now request s.shared).1 = request := by simp [syncStep, hphase]
    rw [hmoves.exactlyOnce_iff hs (by rw [hnext]), hnext]
    refine iff_of_true ?_ trivial
    exact hs.replies request (List.mem_of_getElem? hrequest)
  | failed status message =>
    have hnext : (syncStep now request s.shared).1 = request := by simp [syncStep, hphase]
    rw [hmoves.exactlyOnce_iff hs (by rw [hnext]), hnext, hphase]
    exact iff_of_true (by intro h; cases h) trivial
  | dead =>
    have hnext : (syncStep now request s.shared).1 = request := by simp [syncStep, hphase]
    rw [hmoves.exactlyOnce_iff hs (by rw [hnext]), hnext, hphase]
    exact iff_of_true (by intro h; cases h) trivial

/-- **A step keeps operations to one effect exactly when what it acts on is so.** -/
theorem exactlyOnce_step (hfresh : ∀ request ∈ s.calls, request.Fresh) (hs : ExactlyOnce s) :
    ExactlyOnce (syncService.step e s) ↔ ChecksHold s e := by
  cases e with
  | call call =>
    have heffects : ∀ userId operationId,
        effects userId operationId (syncService.step (.call call) s)
          = effects userId operationId s := by
      intro userId operationId
      simp [effects, start_not_effected]
    refine iff_of_true ⟨?_, ?_⟩ trivial
    · intro userId operationId
      rw [heffects]
      exact hs.once userId operationId
    intro request hrequest hreplied
    rw [TookEffect, heffects]
    rcases List.mem_append.1 hrequest with hold | hnew
    · exact hs.replies request hold hreplied
    rw [List.mem_singleton.1 hnew] at hreplied
    simp only [syncService, SyncCall.start] at hreplied
    split at hreplied
    · cases hreplied
    split at hreplied
    · cases hreplied
    · cases hreplied
  | other edit => exact iff_of_true ⟨hs.once, hs.replies⟩ trivial
  | advance i x =>
    cases hrequest : s.calls[i]? with
    | none =>
      rw [Service.step_advance_none hrequest]
      refine iff_of_true hs ?_
      cases x with
      | crash => trivial
      | query now =>
        intro request hmem
        rw [hrequest] at hmem
        cases hmem
    | some request =>
      cases x with
      | query now =>
        refine (exactlyOnce_query hrequest (hfresh request (List.mem_of_getElem? hrequest))
          hs).trans ?_
        simp [ChecksHold, hrequest]
      | crash =>
        refine iff_of_true ?_ trivial
        rw [Service.step_advance hrequest]
        have hsame : (syncService.next .crash request s.shared).1.changed
              = request.changed
            ∧ (syncService.next .crash request s.shared).1.userId = request.userId
            ∧ (syncService.next .crash request s.shared).1.body = request.body := by
          simp only [syncService]
          split
          · exact ⟨rfl, rfl, rfl⟩
          · exact ⟨rfl, rfl, rfl⟩
        have hmoves : Moves i request (syncService.next .crash request s.shared).1 s
            { shared := (syncService.next .crash request s.shared).2
              calls := s.calls.set i (syncService.next .crash request s.shared).1 } :=
          ⟨hrequest, rfl, hsame.2.1, hsame.2.2⟩
        rw [hmoves.exactlyOnce_iff hs hsame.1]
        intro hreplied
        simp only [syncService] at hreplied
        split at hreplied
        · exact hs.replies request (List.mem_of_getElem? hrequest) hreplied
        · cases hreplied

theorem fresh_syncStep (hfresh : request.Fresh) (now : ℕ) (db : SyncDb) :
    (syncStep now request db).1.Fresh := by
  simp only [SyncRequest.Fresh] at hfresh ⊢
  cases hphase : request.phase with
  | checking =>
    have hchanged : request.changed = false := hfresh (Or.inl hphase)
    simp only [syncStep, hphase]
    split
    · exact fun _ => hchanged
    · exact fun _ => hchanged
  | applying =>
    simp only [syncStep, hphase]
    split
    · rintro (h | h) <;> cases h
    · rintro (h | h) <;> cases h
    · rintro (h | h) <;> cases h
  | recording entityId =>
    simp only [syncStep, hphase]
    split
    · rintro (h | h) <;> cases h
    · rintro (h | h) <;> cases h
  | replied | failed | dead =>
    simp only [syncStep, hphase]
    rintro (h | h) <;> cases h

theorem fresh_step (hfresh : ∀ request ∈ s.calls, request.Fresh) :
    ∀ request ∈ (syncService.step e s).calls, request.Fresh := by
  refine Service.forall_calls_step (Q := fun _ (request : SyncRequest) => request.Fresh)
    ?_ ?_ ?_ ?_ hfresh
  · intro call _ _
    rfl
  · intro x request db h
    cases x with
    | query now => exact fresh_syncStep h now db
    | crash =>
      simp only [syncService]
      split
      · exact h
      · rintro (hphase | hphase) <;> cases hphase
  · intro _ _ _ _ _ h
    exact h
  intro _ _ _ h
  exact h

/-! ## Runs -/

/-- Nothing has been applied. -/
def syncStart : SyncState := { shared := {} }

/-- **Every operation of a user takes effect at most once, and a reply is given only for one
that took effect, throughout a run exactly when what the requests act on is so.** -/
theorem exactly_once_iff (es : List SyncEvent) :
    (∀ pre, pre <+: es → ExactlyOnce (run syncService.step syncStart pre))
      ↔ Along syncService.step ChecksHold syncStart es := by
  have hstart : ExactlyOnce syncStart := by
    refine ⟨fun _ _ => Nat.zero_le 1, ?_⟩
    intro request hrequest
    cases hrequest
  refine (along_iff_throughout_with (J := fun s => ∀ request ∈ s.calls, request.Fresh)
    (D := fun _ _ => True) (fun _ _ _ _ hfresh => fresh_step hfresh)
    (fun _ _ _ hs hfresh => exactlyOnce_step hfresh hs)
    (along_of_forall (D := fun _ => True) fun _ _ => trivial) hstart ?_).symm
  intro request hrequest
  cases hrequest

/-! ## Two devices with one id -/

namespace Example

/-- A lesson note that a device recorded as `op-1`. -/
def note (userId title : String) : SyncCall :=
  { userId, drawn := "lnt_" ++ userId
    body :=
      { operationId := "op-1", entity := "lesson_note", action := .create
        payload := { classId := some "7A", title := some title, content := some "Chapter 1" } } }

/-- The first user's note is applied and recorded, and then the second user's comes in. -/
def sameId : List SyncEvent :=
  [.call (note "ada" "Fractions"), .advance 0 (.query 1), .advance 0 (.query 2),
    .advance 0 (.query 3), .call (note "ben" "Poems"), .advance 1 (.query 4)]

/-- The second user's request, at its end. -/
def answered : SyncRequest :=
  { (note "ben" "Poems").start with phase := .replied .alreadyApplied }

end Example

/-- The second user is told that the note was applied already. -/
theorem not_exactly_once :
    ¬ ∀ es : List SyncEvent, ExactlyOnce (run syncService.step syncStart es) := by
  intro h
  have hmem : Example.answered ∈ (run syncService.step syncStart Example.sameId).calls :=
    List.mem_of_getElem? (i := 1) (by decide)
  have htook := (h Example.sameId).replies Example.answered hmem rfl
  revert htook
  simp only [TookEffect]
  decide

end MultiAcademy.School
