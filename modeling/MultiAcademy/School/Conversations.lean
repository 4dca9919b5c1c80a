import MultiAcademy.Lib.Limits
import MultiAcademy.School.WardReads

/-!
# Threads, messages and meetings

The lists of `messaging/messaging.service.ts` and `meetings/meetings.service.ts`, for one school.
A list of threads or meetings stops at the hundredth row of the whole school and then keeps what
the user takes part in; the list of a thread's messages begins with the oldest and stops at the
five hundredth.

The order in which the database lists rows of one time is its own, and a parameter.  A column of
user ids is a JSON array; it is modelled as what `safeJsonArray` and `parseIds` read in it.
-/

namespace MultiAcademy.School

open MultiAcademy.Lib

/-! ## The tables -/

/-- A row of `message_threads`. -/
structure MessageThread where
  id : String
  subject : String
  participantIds : List String
  createdBy : Option String
  createdAt : ℤ
  updatedAt : ℤ
  deriving DecidableEq

/-- A row of `messages`. -/
structure Message where
  id : String
  threadId : String
  senderId : String
  body : String
  createdAt : ℤ
  deriving DecidableEq

/-- A row of `virtual_meetings`. -/
structure VirtualMeeting where
  id : String
  title : String
  startsAt : ℤ
  endsAt : Option ℤ
  providerId : String
  providerMeetingId : String
  joinUrl : String
  hostUrl : Option String
  attendeeIds : List String
  createdBy : Option String
  classId : Option String
  subjectId : Option String
  kind : String
  audioOnly : Bool
  recordingUrl : Option String
  createdAt : ℤ
  deriving DecidableEq

/-- The academic tables that tell the classes of a user. -/
structure ClassLinks where
  /-- `student_class_enrollments`: student and class. -/
  enrollments : List (String × Option String)
  /-- `parent_student_links`: parent and student. -/
  parentLinks : List (String × String)
  /-- `academic_class_teacher_links`: teacher and class. -/
  teacherLinks : List (String × Option String)
  /-- `academic_classes`: id and class teacher. -/
  classes : List (String × Option String)

structure ConversationDb where
  threads : Keyed MessageThread.id := .empty
  messages : Keyed Message.id := .empty
  meetings : Keyed VirtualMeeting.id := .empty
  /-- `none`: the academic tables do not exist yet. -/
  classLinks : Option ClassLinks := none

/-- The flags of the school, and the orders in which the database lists rows of one time. -/
structure ConversationEnv where
  messaging : Bool
  meetings : Bool
  byUpdate : Listing fun a b : MessageThread => b.updatedAt ≤ a.updatedAt
  byCreation : Listing fun a b : Message => a.createdAt ≤ b.createdAt
  byStart : Listing fun a b : VirtualMeeting => b.startsAt ≤ a.startsAt

/-! ## Messages -/

def MessageThread.includes (userId : String) (thread : MessageThread) : Bool :=
  userId ∈ thread.participantIds

def listThreads (env : ConversationEnv) (userId : String) (db : ConversationDb) :
    Except (ℕ × String) (List MessageThread) :=
  if !env.messaging then .error (featureDisabled "comms.messaging")
  else .ok (((env.byUpdate.list db.threads.rows).take 100).filter (·.includes userId))

def assertParticipant (threadId userId : String) (db : ConversationDb) :
    Except (ℕ × String) MessageThread :=
  match db.threads.find? threadId with
  | none => .error (404, "Thread not found")
  | some thread =>
    if thread.includes userId then .ok thread else .error (403, "Not a participant")

/-- The messages of a thread, in the order they were inserted. -/
def ConversationDb.messagesOf (db : ConversationDb) (threadId : String) : List Message :=
  db.messages.rows.filter fun message => message.threadId = threadId

def listMessages (env : ConversationEnv) (userId threadId : String) (db : ConversationDb) :
    Except (ℕ × String) (List Message) :=
  if !env.messaging then .error (featureDisabled "comms.messaging")
  else
    match assertParticipant threadId userId db with
    | .error refusal => .error refusal
    | .ok _ => .ok ((env.byCreation.list (db.messagesOf threadId)).take 500)

/-- `postMessage`, with the id it draws and the time, notifications apart. -/
def postMessage (env : ConversationEnv) (now : ℤ) (id userId threadId text : String)
    (db : ConversationDb) : ConversationDb × Except (ℕ × String) String :=
  if !env.messaging then (db, .error (featureDisabled "comms.messaging"))
  else if trim text = "" then (db, .error (403, "Message body cannot be empty"))
  else if 5000 < utf16Length (trim text) then (db, .error (403, "Message body is too long"))
  else
    match assertParticipant threadId userId db with
    | .error refusal => (db, .error refusal)
    | .ok _ =>
      match db.messages.insert?
          { id, threadId, senderId := userId, body := trim text, createdAt := now } with
      | none => (db, .error (500, "Internal server error"))
      | some messages =>
        ({ db with
            messages
            threads :=
              db.threads.updateWhere (fun thread => thread.id = threadId)
                (fun thread => { thread with updatedAt := now }) fun _ => rfl },
          .ok id)

/-! ## Meetings -/

def classIdsForUser (userId : String) (db : ConversationDb) : List String :=
  match db.classLinks with
  | none => []
  | some links =>
    ((links.enrollments.filter fun row => row.1 = userId).filterMap (·.2)
      ++ (links.enrollments.filter fun row =>
          links.parentLinks.any fun link => link.1 = userId && link.2 = row.1).filterMap (·.2)
      ++ (links.teacherLinks.filter fun row => row.1 = userId).filterMap (·.2)
      ++ (links.classes.filter fun row => row.2 = some userId).map (·.1)).filter (· ≠ "")

def canViewMeeting (meeting : VirtualMeeting) (userId : String) : Bool :=
  meeting.createdBy = some userId || meeting.attendeeIds.any (· = userId)

def canJoinMeeting (meeting : VirtualMeeting) (userId : String) (classIds : List String) : Bool :=
  canViewMeeting meeting userId
    || meeting.classId.any fun classId => classId ≠ "" && classId ∈ classIds

/-- What a user is shown of a meeting: the host's address is for whoever created it. -/
structure MeetingView where
  id : String
  title : String
  startsAt : ℤ
  endsAt : Option ℤ
  providerId : String
  providerMeetingId : String
  joinUrl : String
  hostUrl : Option String
  createdBy : Option String
  classId : Option String
  subjectId : Option String
  kind : String
  audioOnly : Bool
  recordingUrl : Option String
  createdAt : ℤ
  deriving DecidableEq

def VirtualMeeting.view (userId : String) (meeting : VirtualMeeting) : MeetingView :=
  { id := meeting.id, title := meeting.title, startsAt := meeting.startsAt
    endsAt := meeting.endsAt, providerId := meeting.providerId
    providerMeetingId := meeting.providerMeetingId, joinUrl := meeting.joinUrl
    hostUrl := if meeting.createdBy = some userId then meeting.hostUrl else none
    createdBy := meeting.createdBy, classId := meeting.classId, subjectId := meeting.subjectId
    kind := meeting.kind, audioOnly := meeting.audioOnly, recordingUrl := meeting.recordingUrl
    createdAt := meeting.createdAt }

def MeetingsService.list (env : ConversationEnv) (userId : String) (db : ConversationDb) :
    Except (ℕ × String) (List MeetingView) :=
  if !env.meetings then .error (featureDisabled "comms.meetings")
  else
    .ok ((((env.byStart.list db.meetings.rows).take 100).filter fun meeting =>
        canJoinMeeting meeting userId (classIdsForUser userId db)).map (·.view userId))

/-! ## The law -/

/-- **What a user takes part in stays visible**: with the features on, it is shown its threads
or the hundred last updated of them, of each of these the five hundred newest messages with the
one that was posted last, and the meetings it may join or the hundred latest of them. -/
structure StaysVisible (env : ConversationEnv) (userId : String) (db : ConversationDb) :
    Prop where
  threads : env.messaging = true → ∃ shown, listThreads env userId db = .ok shown
    ∧ Newest (·.updatedAt) 100 (db.threads.rows.filter (·.includes userId)) shown
  messages : env.messaging = true →
    ∀ thread ∈ db.threads.rows, thread.includes userId = true →
      ∃ shown, listMessages env userId thread.id db = .ok shown
        ∧ Newest (·.createdAt) 500 (db.messagesOf thread.id) shown
        ∧ ∀ posted ∈ (db.messagesOf thread.id).getLast?, posted ∈ shown
  meetings : env.meetings = true → ∃ shown,
    MeetingsService.list env userId db = .ok (shown.map (·.view userId))
      ∧ Newest (·.startsAt) 100
        (db.meetings.rows.filter fun meeting =>
          canJoinMeeting meeting userId (classIdsForUser userId db)) shown

/-- The stop leaves out no row of the user's, or the user's rows are all there is before it. -/
def StopsAfter {α : Type} (mine : α → Bool) (rows : List α) : Prop :=
  (∀ row ∈ rows.drop 100, mine row = false) ∨ ∀ row ∈ rows.take 100, mine row = true

/-- The thread has at most five hundred messages; or they are all of one time, and the one that
was posted last is listed among the first five hundred. -/
def ShortThread (env : ConversationEnv) (db : ConversationDb) (threadId : String) : Prop :=
  (db.messagesOf threadId).length ≤ 500
    ∨ (∀ a ∈ db.messagesOf threadId, ∀ b ∈ db.messagesOf threadId, a.createdAt = b.createdAt)
      ∧ ∀ posted ∈ (db.messagesOf threadId).getLast?,
        posted ∈ (env.byCreation.list (db.messagesOf threadId)).take 500

/-- The limits cut off nothing of the user's. -/
structure WithinLimits (env : ConversationEnv) (userId : String) (db : ConversationDb) :
    Prop where
  threads : env.messaging = true →
    StopsAfter (·.includes userId) (env.byUpdate.list db.threads.rows)
  messages : env.messaging = true →
    ∀ thread ∈ db.threads.rows, thread.includes userId = true → ShortThread env db thread.id
  meetings : env.meetings = true →
    StopsAfter (fun meeting => canJoinMeeting meeting userId (classIdsForUser userId db))
      (env.byStart.list db.meetings.rows)

section Visible
variable {env : ConversationEnv} {userId threadId : String} {db db' : ConversationDb}

theorem newest_listed_iff {α : Type} {time : α → ℤ} {rows : List α}
    (order : Listing fun a b : α => time b ≤ time a) (mine : α → Bool) (hnodup : rows.Nodup) :
    Newest time 100 (rows.filter mine) (((order.list rows).take 100).filter mine)
      ↔ StopsAfter mine (order.list rows) := by
  have hperm : (rows.filter mine).Perm ((order.list rows).filter mine) :=
    ((order.perm rows).filter mine).symm
  rw [Newest.congr hperm]
  exact newest_filter_take_iff ((order.perm rows).nodup_iff.2 hnodup) (order.sorted rows) mine

theorem threads_visible_iff (hon : env.messaging = true) :
    (∃ shown, listThreads env userId db = .ok shown
        ∧ Newest (·.updatedAt) 100 (db.threads.rows.filter (·.includes userId)) shown)
      ↔ StopsAfter (·.includes userId) (env.byUpdate.list db.threads.rows) := by
  rw [listThreads, hon, ← newest_listed_iff env.byUpdate _ db.threads.rows_nodup]
  simp

theorem meetings_visible_iff (hon : env.meetings = true) :
    (∃ shown, MeetingsService.list env userId db = .ok (shown.map (·.view userId))
        ∧ Newest (·.startsAt) 100
          (db.meetings.rows.filter fun meeting =>
            canJoinMeeting meeting userId (classIdsForUser userId db)) shown)
      ↔ StopsAfter (fun meeting => canJoinMeeting meeting userId (classIdsForUser userId db))
        (env.byStart.list db.meetings.rows) := by
  rw [MeetingsService.list, hon, ← newest_listed_iff env.byStart _ db.meetings.rows_nodup]
  constructor
  · rintro ⟨shown, hlist, hnewest⟩
    -- two lists of meetings that read the same have the same ids
    have hids := congrArg (List.map MeetingView.id) (Except.ok.inj hlist)
    rw [List.map_map, List.map_map] at hids
    have heq := db.meetings.eq_of_map_key_eq
      (fun meeting h => (env.byStart.perm _).subset (List.mem_of_mem_take (List.mem_of_mem_filter h)))
      (fun meeting h => List.mem_of_mem_filter (hnewest.subset meeting h)) hids
    rwa [heq]
  · exact fun h => ⟨_, rfl, h⟩

theorem assertParticipant_of_mem {thread : MessageThread} (hmem : thread ∈ db.threads.rows)
    (hmine : thread.includes userId = true) :
    assertParticipant thread.id userId db = .ok thread := by
  rw [assertParticipant, Keyed.find?_eq_some.2 ⟨hmem, rfl⟩]
  exact if_pos hmine

theorem messages_visible_iff (hon : env.messaging = true) {thread : MessageThread}
    (hmem : thread ∈ db.threads.rows) (hmine : thread.includes userId = true) :
    (∃ shown, listMessages env userId thread.id db = .ok shown
        ∧ Newest (·.createdAt) 500 (db.messagesOf thread.id) shown
        ∧ ∀ posted ∈ (db.messagesOf thread.id).getLast?, posted ∈ shown)
      ↔ ShortThread env db thread.id := by
  have hlist : listMessages env userId thread.id db
      = .ok ((env.byCreation.list (db.messagesOf thread.id)).take 500) := by
    rw [listMessages, hon, assertParticipant_of_mem hmem hmine]
    rfl
  have hperm := env.byCreation.perm (db.messagesOf thread.id)
  have hnodup : (db.messagesOf thread.id).Nodup := db.messages.rows_nodup.filter _
  have hnewest : Newest Message.createdAt 500 (env.byCreation.list (db.messagesOf thread.id))
      ((env.byCreation.list (db.messagesOf thread.id)).take 500) ↔ _ :=
    newest_take_oldest_iff (by decide) (hperm.nodup_iff.2 hnodup) (env.byCreation.sorted _)
  rw [hperm.length_eq] at hnewest
  have hsame : (∀ a ∈ env.byCreation.list (db.messagesOf thread.id),
      ∀ b ∈ env.byCreation.list (db.messagesOf thread.id), a.createdAt = b.createdAt)
      ↔ ∀ a ∈ db.messagesOf thread.id, ∀ b ∈ db.messagesOf thread.id,
        a.createdAt = b.createdAt := by
    simp only [hperm.mem_iff]
  constructor
  · rintro ⟨shown, hshown, hnew, hposted⟩
    rw [← Except.ok.inj (hlist.symm.trans hshown)] at hnew hposted
    rcases hnewest.1 ((Newest.congr hperm).2 hnew) with hshort | hall
    · exact Or.inl hshort
    · exact Or.inr ⟨hsame.1 hall, hposted⟩
  intro hshort
  refine ⟨_, hlist, (Newest.congr hperm).1 (hnewest.2 ?_), fun posted hposted => ?_⟩
  · exact hshort.imp id fun h => hsame.2 h.1
  rcases hshort with hfew | ⟨-, hin⟩
  · rw [List.take_of_length_le (hperm.length_eq.le.trans hfew)]
    exact hperm.symm.subset (List.mem_of_getLast? hposted)
  · exact hin posted hposted

/-- **What a user takes part in is visible exactly when the limits cut off nothing of it.** -/
theorem stays_visible_iff :
    StaysVisible env userId db ↔ WithinLimits env userId db := by
  constructor
  · rintro ⟨hthreads, hmessages, hmeetings⟩
    exact ⟨fun hon => (threads_visible_iff hon).1 (hthreads hon),
      fun hon thread hmem hmine =>
        (messages_visible_iff hon hmem hmine).1 (hmessages hon thread hmem hmine),
      fun hon => (meetings_visible_iff hon).1 (hmeetings hon)⟩
  rintro ⟨hthreads, hmessages, hmeetings⟩
  exact ⟨fun hon => (threads_visible_iff hon).2 (hthreads hon),
    fun hon thread hmem hmine =>
      (messages_visible_iff hon hmem hmine).2 (hmessages hon thread hmem hmine),
    fun hon => (meetings_visible_iff hon).2 (hmeetings hon)⟩

/-- The message that was posted is the thread's last. -/
theorem postMessage_getLast? {now : ℤ} {id text : String}
    (h : (postMessage env now id userId threadId text db).2 = .ok id) :
    ((postMessage env now id userId threadId text db).1.messagesOf threadId).getLast?
      = some { id, threadId, senderId := userId, body := trim text, createdAt := now } := by
  revert h
  rw [postMessage]
  split_ifs
  · intro h
    cases h
  · intro h
    cases h
  · intro h
    cases h
  cases assertParticipant threadId userId db with
  | error refusal =>
    intro h
    cases h
  | ok thread =>
    cases hinsert : db.messages.insert?
        { id, threadId, senderId := userId, body := trim text, createdAt := now } with
    | none =>
      intro h
      cases h
    | some messages =>
      intro _
      simp [ConversationDb.messagesOf, Keyed.rows_insert? hinsert, List.filter_append]

theorem StaysVisible.threads_perm (h : StaysVisible env userId db) (hon : env.messaging = true)
    (hfew : (db.threads.rows.filter (·.includes userId)).length ≤ 100) :
    ∃ shown, listThreads env userId db = .ok shown
      ∧ shown.Perm (db.threads.rows.filter (·.includes userId)) := by
  obtain ⟨shown, hlist, hnew⟩ := h.threads hon
  exact ⟨shown, hlist, hnew.perm_of_length_le hfew⟩

end Visible

/-! ## A thread behind a hundred others -/

def threadNumber (n : ℕ) : MessageThread :=
  { id := String.ofList (List.replicate n 't'), subject := "Lesson plans"
    participantIds := [if n = 100 then "ada" else "bola"], createdBy := none
    createdAt := -n, updatedAt := -n }

def crowdedDb : ConversationDb where
  threads :=
    { rows := (List.range 101).map threadNumber
      nodup := by
        rw [List.map_map]
        refine List.nodup_range.map fun m n h => ?_
        simpa using congrArg List.length (String.ofList_injective h) }

/-- The features are on, and rows of one time are listed in the order of the table. -/
def openEnv : ConversationEnv where
  messaging := true
  meetings := true
  byUpdate := Listing.sorting _
  byCreation := Listing.sorting _
  byStart := Listing.sorting _

theorem includes_threadNumber (n : ℕ) :
    (threadNumber n).includes "ada" = decide (n = 100) := by
  by_cases h : n = 100
  · simp [MessageThread.includes, threadNumber, h]
  · simp [MessageThread.includes, threadNumber, h]

theorem filter_threadNumber :
    ((List.range 100).map threadNumber).filter (·.includes "ada") = [] := by
  rw [List.filter_eq_nil_iff]
  intro thread hthread
  obtain ⟨n, hn, rfl⟩ := List.mem_map.1 hthread
  rw [includes_threadNumber, decide_eq_true_iff]
  exact (List.mem_range.1 hn).ne

theorem crowdedDb_threads :
    crowdedDb.threads.rows = (List.range 100).map threadNumber ++ [threadNumber 100] := by
  rw [← List.map_singleton, ← List.map_append, ← List.range_succ]
  rfl

/-- The list of a user whose only thread is older than a hundred threads of others is empty. -/
theorem thread_behind_others :
    listThreads openEnv "ada" crowdedDb = .ok []
      ∧ crowdedDb.threads.rows.filter (·.includes "ada") = [threadNumber 100]
      ∧ ¬ ∀ (env : ConversationEnv) (userId : String) (db : ConversationDb),
        StaysVisible env userId db := by
  have hmine : crowdedDb.threads.rows.filter (·.includes "ada") = [threadNumber 100] := by
    rw [crowdedDb_threads, List.filter_append, filter_threadNumber, List.nil_append,
      List.filter_singleton, includes_threadNumber]
    rfl
  have hordered : crowdedDb.threads.rows.Pairwise fun a b => b.updatedAt ≤ a.updatedAt := by
    refine List.pairwise_map.2 (List.pairwise_lt_range.imp fun h => ?_)
    simpa [threadNumber] using h.le
  have hlist : listThreads openEnv "ada" crowdedDb = .ok [] := by
    have hrows : openEnv.byUpdate.list crowdedDb.threads.rows = crowdedDb.threads.rows :=
      Listing.sorting_of_pairwise hordered
    have htake : crowdedDb.threads.rows.take 100 = (List.range 100).map threadNumber := by
      rw [crowdedDb_threads]
      exact List.take_left' (by simp)
    rw [listThreads, hrows, htake, filter_threadNumber]
    rfl
  refine ⟨hlist, hmine, fun hall => ?_⟩
  obtain ⟨shown, hshown, hperm⟩ :=
    (hall openEnv "ada" crowdedDb).threads_perm rfl (by rw [hmine]; decide)
  rw [hlist, Except.ok.injEq] at hshown
  rw [← hshown, hmine] at hperm
  exact absurd hperm.length_eq (by decide)

end MultiAcademy.School
