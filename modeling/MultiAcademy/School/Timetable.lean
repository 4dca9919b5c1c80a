import MultiAcademy.Lib.Exclusion
import MultiAcademy.Lib.Fallible
import MultiAcademy.School.AcademicCalendar
import MultiAcademy.School.Grading

/-!
# The timetable

`timetable/timetable.service.ts`, the loop of `applySwaps` in `ai/timetable-solver.service.ts`
and the slots that `sync/sync.service.ts` creates.  A slot's times are texts, which the clash
queries compare as the database orders texts; the offline creation asks no such query.
-/

namespace MultiAcademy.School

open MultiAcademy.Lib

/-- The status and the message of a refusal. -/
abbrev TimetableError := ℕ × String

/-- A row of `timetable_slots`. -/
structure Slot where
  id : String
  classId : String
  subjectId : Option String := none
  teacherId : Option String := none
  dayOfWeek : ℤ
  startTime : String
  endTime : String
  room : Option String := none
  deriving DecidableEq

abbrev Slots := Keyed Slot.id

/-! ## Clock time -/

def number (digits : List Char) : Option ℕ :=
  if digits.all Char.isDigit then
    some (digits.foldl (fun n c => 10 * n + (c.toNat - '0'.toNat)) 0)
  else none

def secondOfDay (hour minute second : List Char) : Option ℕ := do
  let h ← number hour
  let m ← number minute
  let s ← number second
  if h < 24 ∧ m < 60 ∧ s < 60 then some (3600 * h + 60 * m + s) else none

/-- The clock time that a text tells, as `9:05`, `09:05` or `09:05:00`. -/
def clockTime (text : String) : Option ℕ :=
  match text.toList with
  | [h, ':', m, m'] => secondOfDay [h] [m, m'] []
  | [h, h', ':', m, m'] => secondOfDay [h, h'] [m, m'] []
  | [h, h', ':', m, m', ':', s, s'] => secondOfDay [h, h'] [m, m'] [s, s']
  | _ => none

/-- Some moment of the clock is in both slots. -/
def Slot.meets (a b : Slot) : Bool :=
  (clockTime a.startTime).any fun s => (clockTime a.endTime).any fun e =>
    (clockTime b.startTime).any fun s' => (clockTime b.endTime).any fun e' => max s s' < min e e'

def Slot.shares (a b : Slot) : Bool :=
  a.classId = b.classId || a.teacherId.any fun teacher => b.teacherId = some teacher

/-- The slots take the same time of a class or of a teacher. -/
def DoubleBooked (a b : Slot) : Prop :=
  a.dayOfWeek = b.dayOfWeek ∧ a.shares b = true ∧ a.meets b = true

instance (a b : Slot) : Decidable (DoubleBooked a b) := inferInstanceAs (Decidable (_ ∧ _))

/-! ## The requests -/

def codeUnits (c : Char) : List ℕ :=
  if c.toNat < 0x10000 then [c.toNat]
  else [0xD800 + (c.toNat - 0x10000) / 0x400, 0xDC00 + (c.toNat - 0x10000) % 0x400]

/-- `a <= b` of JavaScript texts. -/
def notAfter (a b : String) : Bool := a.toList.flatMap codeUnits ≤ b.toList.flatMap codeUnits

/-- The flags of the tenant and the roles of the actor at a request. -/
structure TimetableEnv where
  timetable : Bool := true
  timetableSolver : Bool := true
  offlineSync : Bool := true
  roles : List String := []

def assertTimetable (env : TimetableEnv) : Except TimetableError Unit :=
  if env.timetable then .ok () else .error (403, "Feature disabled: academic.timetable")

def assertManager (env : TimetableEnv) : Except TimetableError Unit :=
  if env.roles.any fun role =>
      role ∈ ["director", "school_admin", "it_admin", "principal", "head_teacher",
        "administrative_staff"] then
    .ok ()
  else .error (404, "Timetable management is restricted")

/-- The body of `create`. -/
structure SlotBody where
  classId : String
  subjectId : Option String := none
  teacherId : Option String := none
  dayOfWeek : ℤ
  startTime : String
  endTime : String
  room : Option String := none

/-- The row `create` inserts. -/
def SlotBody.slot (id : String) (body : SlotBody) : Slot :=
  { id, classId := body.classId, subjectId := orNull body.subjectId
    teacherId := orNull body.teacherId, dayOfWeek := body.dayOfWeek
    startTime := body.startTime, endTime := body.endTime, room := orNull body.room }

/-- The new day and times of a slot. -/
structure Move where
  dayOfWeek : ℤ
  startTime : String
  endTime : String

/-- `SET day_of_week = ?, start_time = ?, end_time = ?`. -/
def Slot.move (target : Move) (slot : Slot) : Slot :=
  { slot with
    dayOfWeek := target.dayOfWeek, startTime := target.startTime, endTime := target.endTime }

/-- The day is one of the week, and the slot starts before it ends. -/
def validTimes (message : String) (target : Move) : Except TimetableError Unit :=
  if target.startTime = "" ∨ target.endTime = ""
      ∨ notAfter target.endTime target.startTime = true then
    .error (400, message)
  else .ok ()

def validDay (dayOfWeek : ℤ) : Except TimetableError Unit :=
  if dayOfWeek < 0 ∨ 6 < dayOfWeek then .error (400, "dayOfWeek must be 0–6") else .ok ()

/-- The columns hold the row: `varchar(8)` times and `varchar(64)` texts. -/
def Slot.storable (slot : Slot) : Bool :=
  slot.startTime.length ≤ 8 && slot.endTime.length ≤ 8 && slot.id.length ≤ 64
    && slot.classId.length ≤ 64 && slot.subjectId.all (·.length ≤ 64)
    && slot.teacherId.all (·.length ≤ 64) && slot.room.all (·.length ≤ 64)

section Queries
-- `a < b`, as the database orders texts
variable (sqlLt : String → String → Bool)

/-- `day_of_week = ? AND start_time < ? AND end_time > ?`. -/
def inWindow (slot row : Slot) : Bool :=
  row.dayOfWeek = slot.dayOfWeek && sqlLt row.startTime slot.endTime
    && sqlLt slot.startTime row.endTime

/-- `class_id = ? AND …`. -/
def classClash (slot row : Slot) : Bool := row.classId = slot.classId && inWindow sqlLt slot row

/-- `teacher_id = ? AND …`, for a slot with a teacher. -/
def teacherClash (slot row : Slot) : Bool :=
  slot.teacherId.any fun teacher =>
    teacher ≠ "" && row.teacherId = some teacher && inWindow sqlLt slot row

/-- The two queries, on the rows they range over. -/
def checkClash (slot : Slot) (others : List Slot) : Except TimetableError Unit :=
  if others.any (classClash sqlLt slot) then
    .error (400, "Timetable clash: class already has a slot in this window")
  else if others.any (teacherClash sqlLt slot) then
    .error (400, "Timetable clash: teacher already assigned in this window")
  else .ok ()

/-- One of the queries finds a row. -/
def clashFound (slot : Slot) (others : List Slot) : Bool :=
  others.any fun row => classClash sqlLt slot row || teacherClash sqlLt slot row

/-- `INSERT INTO timetable_slots`. -/
def insertSlot (slot : Slot) (db : Slots) : Except TimetableError Slots :=
  match (if slot.storable then db.insert? slot else none) with
  | some written => .ok written
  | none => .error (500, "Internal server error")

variable (env : TimetableEnv)

/-- The checks of `create` before its queries. -/
def TimetableService.checkCreate (body : SlotBody) :
    Except TimetableError Unit := do
  assertTimetable env
  validDay body.dayOfWeek
  assertManager env
  if body.classId = "" then throw (400, "Timetable slot values are invalid")
  validTimes "Timetable slot values are invalid" ⟨body.dayOfWeek, body.startTime, body.endTime⟩

/-- `create`, with the id that is drawn. -/
def TimetableService.create (body : SlotBody) (id : String) (db : Slots) :
    Except TimetableError (String × Slots) := do
  checkCreate env body
  checkClash sqlLt (body.slot id) db.rows
  let written ← insertSlot (body.slot id) db
  return (id, written)

/-- The checks of `reschedule` before its queries. -/
def TimetableService.checkReschedule (target : Move) :
    Except TimetableError Unit := do
  assertTimetable env
  validDay target.dayOfWeek
  validTimes "Timetable slot times are invalid" target
  assertManager env

def otherSlots (slotId : String) (db : Slots) : List Slot :=
  db.rows.filter fun row => row.id ≠ slotId

/-- `reschedule`, which returns the slot as it is now. -/
def TimetableService.reschedule (slotId : String) (target : Move)
    (db : Slots) : Except TimetableError (Slot × Slots) := do
  checkReschedule env target
  match db.find? slotId with
  | none => throw (404, "Timetable slot not found")
  | some slot =>
    checkClash sqlLt (slot.move target) (otherSlots slotId db)
    if (slot.move target).storable then
      return (slot.move target,
        db.updateWhere (fun row => row.id = slotId) (Slot.move target) fun _ => rfl)
    else throw (500, "Internal server error")

def TimetableService.remove (id : String) (db : Slots) :
    Except TimetableError (String × Slots) := do
  assertTimetable env
  assertManager env
  return (id, db.deleteWhere fun row => row.id = id)

/-! ## The solver's swaps -/

/-- A move of `applySwaps`. -/
structure Swap where
  slotId : String
  proposedDay : Option ℤ := none
  proposedStart : String := ""
  proposedEnd : String := ""

/-- What `applySwaps` reports. -/
structure SwapReport where
  applied : List String := []
  skipped : List (String × String) := []
  failed : List (String × String) := []

def Swap.proposed (swap : Swap) : Option Move :=
  (swap.proposedDay.filter fun day => 0 ≤ day ∧ day ≤ 6).bind fun day =>
    if swap.proposedStart = "" ∨ swap.proposedEnd = "" then none
    else some ⟨day, swap.proposedStart, swap.proposedEnd⟩

/-- A move of a slot of the class, or why it is skipped. -/
def Swap.check (classSlotIds : List String) (swap : Swap) : Except (String × String) Move :=
  if swap.slotId = "" ∨ swap.slotId ∉ classSlotIds then
    .error (if swap.slotId = "" then "unknown" else swap.slotId, "slot_not_in_class")
  else
    match swap.proposed with
    | none => .error (swap.slotId, "no_proposed_period")
    | some target => .ok target

/-- One turn of the loop. -/
def moveSlot (classSlotIds : List String) (swap : Swap)
    (report : SwapReport) (db : Slots) : SwapReport × Slots :=
  match swap.check classSlotIds with
  | .error skipped => ({ report with skipped := report.skipped ++ [skipped] }, db)
  | .ok target =>
    match TimetableService.reschedule sqlLt env swap.slotId target db with
    | .ok (_, db') => ({ report with applied := report.applied ++ [swap.slotId] }, db')
    | .error (_, message) =>
      ({ report with failed := report.failed ++ [(swap.slotId, message)] }, db)

def moveSlots (env : TimetableEnv) (classSlotIds : List String) :
    List Swap → SwapReport → Slots → SwapReport × Slots
  | [], report, db => (report, db)
  | swap :: swaps, report, db =>
    let next := moveSlot sqlLt env classSlotIds swap report db
    moveSlots env classSlotIds swaps next.1 next.2

def classSlotIds (classId : String) (db : Slots) : List String :=
  (db.rows.filter fun row => row.classId = classId).map Slot.id

def applySwaps (classId : String) (moves : List Swap) (db : Slots) :
    Except TimetableError (SwapReport × Slots) :=
  if env.timetableSolver = false then .error (403, "Feature disabled: ai.timetable_solver")
  else if blank classId then .error (400, "classId is required")
  else if moves = [] then .error (400, "moves array is required")
  else .ok (moveSlots sqlLt env (classSlotIds classId db) moves {} db)

/-! ## Offline creation -/

structure OfflineSlot where
  id : Option String := none
  classId : Option String := none
  subjectId : Option String := none
  teacherId : Option String := none
  dayOfWeek : Option ℤ := none
  startTime : Option String := none
  endTime : Option String := none
  room : Option String := none
  deriving DecidableEq

def OfflineSlot.slot (userId drawn : String) (payload : OfflineSlot) : Option Slot := do
  let classId ← orNull payload.classId
  let dayOfWeek ← payload.dayOfWeek
  let startTime ← orNull payload.startTime
  let endTime ← orNull payload.endTime
  return { id := (orNull payload.id).getD drawn, classId
           subjectId := orNull payload.subjectId
           teacherId := some ((orNull payload.teacherId).getD userId)
           dayOfWeek, startTime, endTime, room := orNull payload.room }

/-- The branch of `applySupported` for a slot: its id, or `none` for a payload that is not
complete. -/
def createOfflineSlot (userId drawn : String) (payload : OfflineSlot) (db : Slots) :
    Except TimetableError (Option String × Slots) :=
  match payload.slot userId drawn with
  | none => .ok (none, db)
  | some slot => do
    let written ← insertSlot slot db
    return (some slot.id, written)

/-! ## One request after another -/

/-- A request, or one of the moves of `applySwaps`. -/
inductive TimetableEvent
  | create (env : TimetableEnv) (body : SlotBody) (id : String)
  | reschedule (env : TimetableEnv) (slotId : String) (target : Move)
  | remove (env : TimetableEnv) (id : String)
  | swap (env : TimetableEnv) (classSlotIds : List String) (move : Swap)
  | offline (userId drawn : String) (payload : OfflineSlot)

/-- What a request leaves; a refusal writes nothing. -/
def slotsAfter {ρ : Type} (db : Slots) : Except TimetableError (ρ × Slots) → Slots
  | .ok (_, db') => db'
  | .error _ => db

def timetableStep (e : TimetableEvent) (db : Slots) : Slots :=
  match e with
  | .create env body id => slotsAfter db (TimetableService.create sqlLt env body id db)
  | .reschedule env slotId target =>
    slotsAfter db (TimetableService.reschedule sqlLt env slotId target db)
  | .remove env id => slotsAfter db (TimetableService.remove env id db)
  | .swap env ids move => (moveSlot sqlLt env ids move {} db).2
  | .offline userId drawn payload => slotsAfter db (createOfflineSlot userId drawn payload db)

/-! ## Clashes that are found -/

/-- Where the clock tells that the slot is double-booked with one of the others, one of the
queries finds a row. -/
def FindsClash (slot : Slot) (others : List Slot) : Prop :=
  (∃ row ∈ others, DoubleBooked slot row) → clashFound sqlLt slot others = true

instance (slot : Slot) (others : List Slot) : Decidable (FindsClash sqlLt slot others) :=
  inferInstanceAs (Decidable (_ → _))

def MoveFindsClash (slotId : String) (target : Move) (db : Slots) : Prop :=
  (TimetableService.checkReschedule env target).isOk = true → ∀ slot ∈ db.find? slotId,
    (slot.move target).storable = true →
      FindsClash sqlLt (slot.move target) (otherSlots slotId db)

/-- A request whose values are in order finds the clashes there are; an offline creation,
which does not look for any, meets none. -/
def RequestFindsClash (db : Slots) : TimetableEvent → Prop
  | .create env body id =>
    (TimetableService.checkCreate env body).isOk = true →
      (insertSlot (body.slot id) db).isOk = true → FindsClash sqlLt (body.slot id) db.rows
  | .reschedule env slotId target => MoveFindsClash sqlLt env slotId target db
  | .remove _ _ => True
  | .swap env ids move =>
    ∀ target ∈ (move.check ids).toOption, MoveFindsClash sqlLt env move.slotId target db
  | .offline userId drawn payload =>
    ∀ slot ∈ payload.slot userId drawn, (insertSlot slot db).isOk = true →
      ∀ row ∈ db.rows, ¬ DoubleBooked slot row

variable {sqlLt : String → String → Bool} {db db' : Slots} {slot : Slot} {e : TimetableEvent}

/-! ## One slot -/

def Slot.covers (t : ℕ) (slot : Slot) : Prop :=
  ∃ s ∈ clockTime slot.startTime, ∃ e ∈ clockTime slot.endTime, s ≤ t ∧ t < e

theorem Slot.meets_iff (a b : Slot) : a.meets b = true ↔ ∃ t, a.covers t ∧ b.covers t := by
  simp only [Slot.meets, Option.any_eq_true, decide_eq_true_eq]
  constructor
  · rintro ⟨s, hs, e, he, s', hs', e', he', hlt⟩
    refine ⟨max s s', ⟨s, hs, e, he, ?_⟩, s', hs', e', he', ?_⟩
    · omega
    · omega
  rintro ⟨t, ⟨s, hs, e, he, ht⟩, s', hs', e', he', ht'⟩
  refine ⟨s, hs, e, he, s', hs', e', he', ?_⟩
  omega

theorem DoubleBooked.symm (a b : Slot) (h : DoubleBooked a b) : DoubleBooked b a := by
  obtain ⟨hday, hshares, hmeets⟩ := h
  rw [Slot.meets_iff] at hmeets
  obtain ⟨t, ha, hb⟩ := hmeets
  refine ⟨hday.symm, ?_, (Slot.meets_iff b a).2 ⟨t, hb, ha⟩⟩
  simp only [Slot.shares, Bool.or_eq_true, decide_eq_true_eq, Option.any_eq_true] at hshares ⊢
  rcases hshares with hclass | ⟨teacher, ha, hb⟩
  · exact Or.inl hclass.symm
  · exact Or.inr ⟨teacher, hb, ha⟩

/-- The queries let a slot pass exactly when they find no row. -/
theorem checkClash_isOk (slot : Slot) (others : List Slot) :
    (checkClash sqlLt slot others).isOk = true ↔ clashFound sqlLt slot others = false := by
  have hany : clashFound sqlLt slot others
      = (others.any (classClash sqlLt slot) || others.any (teacherClash sqlLt slot)) := by
    rw [clashFound]
    induction others with
    | nil => rfl
    | cons row rows ih =>
      simp only [List.any_cons, ih]
      cases classClash sqlLt slot row <;> cases teacherClash sqlLt slot row <;> simp
  rw [hany, checkClash]
  split
  · rename_i hclass
    simp [hclass, Except.isOk, Except.toBool]
  rename_i hclass
  split
  · rename_i hteacher
    simp [hteacher, Except.isOk, Except.toBool]
  rename_i hteacher
  simp [hclass, hteacher, Except.isOk, Except.toBool]

theorem findsClash_iff {others : List Slot} (hpassed : clashFound sqlLt slot others = false) :
    FindsClash sqlLt slot others ↔ ∀ row ∈ others, ¬ DoubleBooked slot row := by
  rw [FindsClash, hpassed]
  simp

/-! ## One request -/

theorem insertSlot_ok (h : insertSlot slot db = .ok db') : db.insert? slot = some db' := by
  simp only [insertSlot] at h
  split at h
  · rename_i hinsert
    split at hinsert
    · cases h
      exact hinsert
    · cases hinsert
  · cases h

theorem clear_insertSlot (hc : Keyed.Clear DoubleBooked db) (h : insertSlot slot db = .ok db') :
    Keyed.Clear DoubleBooked db' ↔ ∀ row ∈ db.rows, ¬ DoubleBooked slot row :=
  Keyed.clear_insert? DoubleBooked.symm hc (insertSlot_ok h)

theorem clear_create (hc : Keyed.Clear DoubleBooked db) (env : TimetableEnv) (body : SlotBody)
    (id : String) :
    Keyed.Clear DoubleBooked (timetableStep sqlLt (.create env body id) db)
      ↔ RequestFindsClash sqlLt db (.create env body id) := by
  simp only [timetableStep, TimetableService.create, RequestFindsClash]
  cases hcheck : TimetableService.checkCreate env body with
  | error error => exact iff_of_true hc nofun
  | ok _ =>
    have hpassed := @checkClash_isOk sqlLt (body.slot id) db.rows
    cases hclash : checkClash sqlLt (body.slot id) db.rows with
    | error error =>
      rw [hclash] at hpassed
      have hfound : clashFound sqlLt (body.slot id) db.rows = true := by
        simpa [Except.isOk, Except.toBool] using hpassed
      exact iff_of_true hc fun _ _ _ => hfound
    | ok _ =>
      rw [hclash] at hpassed
      have hnone : clashFound sqlLt (body.slot id) db.rows = false := hpassed.1 rfl
      cases hinsert : insertSlot (body.slot id) db with
      | error error =>
        refine iff_of_true ?_ fun _ h => absurd h (by simp [Except.isOk, Except.toBool])
        exact hc
      | ok db' =>
        rw [findsClash_iff hnone]
        refine (clear_insertSlot hc hinsert).trans ?_
        exact ⟨fun h _ _ => h, fun h => h rfl rfl⟩

theorem clear_reschedule (hc : Keyed.Clear DoubleBooked db) (env : TimetableEnv)
    (slotId : String) (target : Move) :
    Keyed.Clear DoubleBooked
        (slotsAfter db (TimetableService.reschedule sqlLt env slotId target db))
      ↔ MoveFindsClash sqlLt env slotId target db := by
  simp only [TimetableService.reschedule, MoveFindsClash]
  cases hcheck : TimetableService.checkReschedule env target with
  | error error => exact iff_of_true hc (by simp [Except.isOk, Except.toBool])
  | ok _ =>
    simp only [Except.isOk, Except.toBool, forall_const]
    cases hfind : db.find? slotId with
    | none =>
      refine iff_of_true hc ?_
      intro slot hslot
      cases hslot
    | some slot =>
      obtain ⟨hmem, hid⟩ := Keyed.find?_eq_some.1 hfind
      simp only [Option.mem_def, Option.some.injEq, forall_eq']
      have hpassed := @checkClash_isOk sqlLt (slot.move target)
        (otherSlots slotId db)
      cases hclash : checkClash sqlLt (slot.move target) (otherSlots slotId db) with
      | error error =>
        rw [hclash] at hpassed
        have hfound : clashFound sqlLt (slot.move target) (otherSlots slotId db) = true := by
          simpa [Except.isOk, Except.toBool] using hpassed
        exact iff_of_true hc fun _ _ => hfound
      | ok _ =>
        rw [hclash] at hpassed
        have hnone : clashFound sqlLt (slot.move target) (otherSlots slotId db) = false :=
          hpassed.1 rfl
        by_cases hfits : (slot.move target).storable = true
        · rw [findsClash_iff hnone]
          simp only [bind, Except.bind, if_pos hfits, pure, Except.pure, slotsAfter,
            forall_prop_of_true hfits]
          refine (Keyed.clear_updateWhere (f := Slot.move target) (fun _ => rfl)
            DoubleBooked.symm hc hmem hid).trans ?_
          simp [otherSlots]
        refine iff_of_true ?_ fun h => absurd h hfits
        simp only [bind, Except.bind, if_neg hfits]
        exact hc

theorem moveSlot_slots (ids : List String) (swap : Swap)
    (report : SwapReport) (db : Slots) :
    (moveSlot sqlLt env ids swap report db).2
      = (swap.check ids).toOption.elim db fun target =>
          slotsAfter db (TimetableService.reschedule sqlLt env swap.slotId target db) := by
  simp only [moveSlot]
  cases swap.check ids with
  | error skipped => rfl
  | ok target =>
    simp only [Except.toOption, Option.elim_some]
    cases TimetableService.reschedule sqlLt env swap.slotId target db with
    | error error => rfl
    | ok moved => rfl

theorem clear_offline (hc : Keyed.Clear DoubleBooked db) (userId drawn : String)
    (payload : OfflineSlot) :
    Keyed.Clear DoubleBooked (slotsAfter db (createOfflineSlot userId drawn payload db))
      ↔ ∀ slot ∈ payload.slot userId drawn, (insertSlot slot db).isOk = true →
        ∀ row ∈ db.rows, ¬ DoubleBooked slot row := by
  simp only [createOfflineSlot]
  cases hslot : payload.slot userId drawn with
  | none =>
    refine iff_of_true hc ?_
    intro slot hnone
    cases hnone
  | some slot =>
    simp only [Option.mem_def, Option.some.injEq, forall_eq']
    cases hinsert : insertSlot slot db with
    | error error =>
      exact iff_of_true hc fun h => absurd h (by simp [Except.isOk, Except.toBool])
    | ok db' =>
      refine (clear_insertSlot hc hinsert).trans ?_
      exact ⟨fun h _ => h, fun h => h rfl⟩

/-- **A request leaves no slots double-booked exactly when it finds the clashes there are.** -/
theorem timetableStep_clear (hc : Keyed.Clear DoubleBooked db) :
    Keyed.Clear DoubleBooked (timetableStep sqlLt e db) ↔ RequestFindsClash sqlLt db e := by
  cases e with
  | create env body id => exact clear_create hc env body id
  | reschedule env slotId target => exact clear_reschedule hc env slotId target
  | remove env id =>
    refine iff_of_true ?_ trivial
    simp only [timetableStep, TimetableService.remove]
    cases assertTimetable env with
    | error error => exact hc
    | ok _ =>
      cases assertManager env with
      | error error => exact hc
      | ok _ => exact hc.deleteWhere _
  | swap env ids move =>
    simp only [timetableStep, moveSlot_slots, RequestFindsClash]
    cases hcheck : move.check ids with
    | error skipped =>
      refine iff_of_true hc ?_
      intro target htarget
      cases htarget
    | ok target =>
      simp only [Except.toOption, Option.elim_some, Option.mem_def, Option.some.injEq,
        forall_eq']
      exact clear_reschedule hc env move.slotId target
  | offline userId drawn payload => exact clear_offline hc userId drawn payload

/-! ## Runs -/

end Queries

/-! ## A lesson that is created offline -/

namespace Example

/-- A mathematics lesson of class `7A`, on Monday at nine. -/
def lesson : TimetableEvent :=
  .create { roles := ["principal"] }
    { classId := "7A", teacherId := some "ada", dayOfWeek := 1, startTime := "09:00"
      endTime := "09:45" } "tts_1"

/-- Its teacher's device has meanwhile created a lesson that begins at half past. -/
def offlineLesson : TimetableEvent :=
  .offline "ada" "tts_2"
    { classId := some "7B", dayOfWeek := some 1, startTime := some "09:30"
      endTime := some "10:15" }

end Example

end MultiAcademy.School
