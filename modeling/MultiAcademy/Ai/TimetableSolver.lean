import MultiAcademy.Lib.Constraints

/-!
# The timetable solver

`services/timetable_solver.py`.  The slots of a class that clash with another slot of their
teacher may be moved; where to is answered by a constraint solver, which is given a switch for
every such slot and every period that occurs.  Its constraints compare periods as names, so
periods that overlap in part are apart to them.
-/

namespace MultiAcademy.Ai

open MultiAcademy.Lib

/-! ## Slots and periods -/

structure TimetableSlotInput where
  slotId : String
  classId : String
  subjectId : Option String := none
  teacherId : Option String := none
  dayOfWeek : ℤ
  startTime : String
  endTime : String
  room : Option String := none
  deriving DecidableEq

structure TimetableSolveRequest where
  classId : String
  classSlots : List TimetableSlotInput
  allSlots : List TimetableSlotInput := []
  explain : Bool := true

structure Period where
  day : ℤ
  start : String
  finish : String
  deriving DecidableEq

namespace Period

def dayNames : List String := ["Mon", "Tue", "Wed", "Thu", "Fri", "Sat", "Sun"]

def label (p : Period) : String :=
  let dayName :=
    if 0 ≤ p.day ∧ p.day < dayNames.length then dayNames.getD p.day.toNat "" else s!"D{p.day}"
  s!"{dayName} {p.start}–{p.finish}"

/-- The order of the sort's keys. -/
def notAfter (a b : Period) : Prop :=
  a.day < b.day ∨ a.day = b.day ∧ (a.start < b.start ∨ a.start = b.start ∧ a.finish ≤ b.finish)

instance (a b : Period) : Decidable (notAfter a b) := inferInstanceAs (Decidable (_ ∨ _))

def overlaps (a b : Period) : Bool := a.day = b.day && (a.start < b.finish && b.start < a.finish)

theorem overlaps_self (a : Period) : a.overlaps a = true ↔ a.start < a.finish := by
  simp [overlaps]

end Period

namespace TimetableSlotInput

def period (slot : TimetableSlotInput) : Period := ⟨slot.dayOfWeek, slot.startTime, slot.endTime⟩

/-- A teacher's id that is not empty. -/
def teacher? (slot : TimetableSlotInput) : Option String := slot.teacherId.filter (· ≠ "")

theorem teacher?_eq_some {slot : TimetableSlotInput} {teacher : String} :
    slot.teacher? = some teacher ↔ slot.teacherId = some teacher ∧ teacher ≠ "" := by
  simp [teacher?, Option.filter_eq_some_iff]

end TimetableSlotInput

def overlap (a b : TimetableSlotInput) : Bool :=
  a.dayOfWeek = b.dayOfWeek && (a.startTime < b.endTime && b.startTime < a.endTime)

theorem overlap_eq (a b : TimetableSlotInput) : overlap a b = a.period.overlaps b.period := rfl

def clashCount (slot : TimetableSlotInput) (allSlots : List TimetableSlotInput) : ℕ :=
  match slot.teacher? with
  | none => 0
  | some _ =>
    allSlots.countP fun other =>
      other.slotId ≠ slot.slotId && (other.teacherId = slot.teacherId && overlap slot other)

def seenPeriods (slots : List TimetableSlotInput) : List Period :=
  slots.foldl
    (fun periods slot => if slot.period ∈ periods then periods else periods ++ [slot.period]) []

def collectPeriods (groups : List (List TimetableSlotInput)) : List Period :=
  (seenPeriods groups.flatten).insertionSort Period.notAfter

def periodIndex (periods : List Period) (slot : TimetableSlotInput) : Except String ℕ :=
  match periods.findIdx? (· = slot.period) with
  | some idx => .ok idx
  | none => .error s!"Unknown period for slot {slot.slotId}"

/-- The slot a dictionary by ids keeps: the last one listed. -/
def slotOf (slots : List TimetableSlotInput) (id : String) : Option TimetableSlotInput :=
  slots.reverse.find? (·.slotId = id)

/-! ## The constraints -/

namespace TimetableSolveRequest
variable (request : TimetableSolveRequest)

/-- `request.all_slots or class_slots`. -/
def slots : List TimetableSlotInput :=
  if request.allSlots = [] then request.classSlots else request.allSlots

def periods : List Period := collectPeriods [request.classSlots, request.slots]

/-- `clash_by_slot.get(slot_id, 0)`. -/
def clashBySlot (id : String) : ℕ :=
  match slotOf request.classSlots id with
  | some slot => clashCount slot request.slots
  | none => 0

/-- `total_clashes`, over the distinct ids. -/
def totalClashes : ℕ :=
  (request.classSlots.map (·.slotId)).dedup.countP fun id => 0 < request.clashBySlot id

def movable : List TimetableSlotInput :=
  request.classSlots.filter fun slot => 0 < request.clashBySlot slot.slotId

def fixedClass : List TimetableSlotInput :=
  request.classSlots.filter fun slot => slot ∉ request.movable

/-- `current_idx[slot_id]`. -/
def currentIdx (id : String) : Except String ℕ :=
  match slotOf request.classSlots id with
  | some slot => periodIndex request.periods slot
  | none => .error id

/-- The slots that stay at the period. -/
def fixedHere (period : Period) : ℕ :=
  request.fixedClass.countP fun slot =>
    slot.dayOfWeek = period.day && (slot.startTime = period.start && slot.endTime = period.finish)

def classIds : List String := request.classSlots.map (·.slotId)

/-- `external_by_teacher_period.get((teacher_id, p_idx), 0)`. -/
def externalByTeacherPeriod (teacher : String) (pIdx : ℕ) : ℕ :=
  request.slots.countP fun slot =>
    slot.slotId ∉ request.classIds &&
      (slot.teacher? = some teacher && (periodIndex request.periods slot).toOption = some pIdx)

def teachers : List String := (request.classSlots.filterMap (·.teacher?)).dedup

def teacherFixed (teacher : String) (pIdx : ℕ) : ℕ :=
  request.fixedClass.countP fun slot =>
    slot.teacherId = some teacher && (request.currentIdx slot.slotId).toOption = some pIdx

/-- The switches of a slot: `assignment[slot_id]`. -/
def switches (slot : TimetableSlotInput) : List (String × ℕ) :=
  (List.range request.periods.length).map fun pIdx => (slot.slotId, pIdx)

/-- One slot per period, left out where slots that stay are at odds already. -/
def classCapacity (pIdx : ℕ) (period : Period) : List (Constraint (String × ℕ)) :=
  if 1 < request.fixedHere period then []
  else
    let movableVars := request.movable.map fun slot => (slot.slotId, pIdx)
    if movableVars = [] then [] else [.atMost movableVars (request.fixedHere period) 1]

/-- One slot per period of a teacher, with the slots outside the class. -/
def teacherCapacity (teacher : String) (pIdx : ℕ) : List (Constraint (String × ℕ)) :=
  let teacherMovable :=
    (request.movable.filter (·.teacherId = some teacher)).map fun slot => (slot.slotId, pIdx)
  if teacherMovable = [] then []
  else
    [.atMost teacherMovable
      (request.teacherFixed teacher pIdx + request.externalByTeacherPeriod teacher pIdx) 1]

/-- The model that the solver is given; a slot's switches off its period are penalties. -/
def cpModel : ConstraintModel (String × ℕ) where
  constraints :=
    request.movable.map (fun slot => .exactlyOne (request.switches slot))
      ++ request.periods.zipIdx.flatMap (fun (period, pIdx) => request.classCapacity pIdx period)
      ++ request.teachers.flatMap fun teacher =>
          (List.range request.periods.length).flatMap (request.teacherCapacity teacher)
  objective :=
    request.movable.flatMap fun slot =>
      (request.switches slot).filter fun s =>
        (request.currentIdx slot.slotId).toOption ≠ some s.2

end TimetableSolveRequest

/-! ## The suggestions -/

structure SwapSuggestion where
  slotId : String
  clashCount : ℕ
  currentDay : ℤ
  currentStart : String
  currentEnd : String
  proposedDay : Option ℤ := none
  proposedStart : Option String := none
  proposedEnd : Option String := none
  suggestion : String
  explanation : Option String := none

structure TimetableSolveResponse where
  classId : String
  slotCount : ℕ
  clashCount : ℕ
  solver : String := "ortools"
  suggestions : List SwapSuggestion := []
  disclaimer : String :=
    "Review suggestions, then apply via Nest or use auto-apply on AI Tools."

/-- The suggestion where the solver has no answer. -/
def unsolved (request : TimetableSolveRequest) (slot : TimetableSlotInput) : SwapSuggestion :=
  let clashes := request.clashBySlot slot.slotId
  { slotId := slot.slotId, clashCount := clashes, currentDay := slot.dayOfWeek
    currentStart := slot.startTime, currentEnd := slot.endTime
    suggestion := s!"No OR-Tools slot found — manually move {slot.startTime}–{slot.endTime} "
      ++ s!"(clashes with {clashes} other slot(s))." }

/-- The first period whose switch is on, and else the slot's own. -/
def chosenIdx (request : TimetableSolveRequest) (value : String × ℕ → Bool) (id : String) :
    Except String ℕ := do
  let current ← request.currentIdx id
  return ((List.range request.periods.length).find? fun pIdx => value (id, pIdx)).getD current

/-- `periods[idx]`. -/
def periodAt (periods : List Period) (idx : ℕ) : Except String Period :=
  match periods[idx]? with
  | some period => .ok period
  | none => .error "list index out of range"

/-- What is suggested for a slot whose period is `cur` and whose switch is on at `period`. -/
def swapSuggestion (request : TimetableSolveRequest) (slot : TimetableSlotInput) (moved : Bool)
    (cur period : Period) : SwapSuggestion :=
  let clashes := request.clashBySlot slot.slotId
  { slotId := slot.slotId, clashCount := clashes, currentDay := slot.dayOfWeek
    currentStart := slot.startTime, currentEnd := slot.endTime
    proposedDay := if moved then some period.day else none
    proposedStart := if moved then some period.start else none
    proposedEnd := if moved then some period.finish else none
    suggestion :=
      if moved then
        s!"Move slot from {cur.label} to {period.label} to resolve {clashes} teacher clash(es)."
      else
        s!"Keep at {cur.label} but reassign teacher — {clashes} clash(es) remain "
          ++ "with current teacher." }

/-- The suggestion for a slot, by the solver's answer. -/
def suggest (request : TimetableSolveRequest) (value : String × ℕ → Bool)
    (slot : TimetableSlotInput) : Except String SwapSuggestion := do
  let current ← request.currentIdx slot.slotId
  let chosen ← chosenIdx request value slot.slotId
  let period ← periodAt request.periods chosen
  let cur ← periodAt request.periods current
  return swapSuggestion request slot (decide (chosen ≠ current)) cur period

/-- `solve_with_ortools`; there is no answer of the solver where its status is neither `OPTIMAL`
nor `FEASIBLE`. -/
def solveWithOrtools (request : TimetableSolveRequest)
    (answer : Option (String × ℕ → Bool)) : Except String TimetableSolveResponse :=
  if request.classSlots = [] then
    .ok { classId := request.classId, slotCount := 0, clashCount := 0 }
  else if request.periods = [] ∨ request.movable = [] then
    .ok { classId := request.classId, slotCount := request.classSlots.length, clashCount := 0 }
  else do
    let suggestions ←
      match answer with
      | none => pure (request.movable.map (unsolved request))
      | some value => request.movable.mapM (suggest request value)
    return {
      classId := request.classId, slotCount := request.classSlots.length
      clashCount := request.totalClashes, suggestions }

/-! ## What the suggestions make of the timetable -/

def TimetableSolveRequest.timetable (request : TimetableSolveRequest) : List TimetableSlotInput :=
  (request.slots ++ request.classSlots).filter fun slot =>
    slotOf (request.slots ++ request.classSlots) slot.slotId = some slot

def SwapSuggestion.apply (g : SwapSuggestion) (slot : TimetableSlotInput) : TimetableSlotInput :=
  match g.proposedDay, g.proposedStart, g.proposedEnd with
  | some day, some start, some finish =>
    if slot.slotId = g.slotId then
      { slot with dayOfWeek := day, startTime := start, endTime := finish }
    else slot
  | _, _, _ => slot

/-- The slot, once all suggestions are applied. -/
def applyAll (suggestions : List SwapSuggestion) (slot : TimetableSlotInput) :
    TimetableSlotInput :=
  suggestions.foldl (fun slot g => g.apply slot) slot

/-- A suggestion proposes a period for the slot. -/
def MovedBy (suggestions : List SwapSuggestion) (slot : TimetableSlotInput) : Prop :=
  ∃ g ∈ suggestions, g.slotId = slot.slotId ∧ g.proposedDay.isSome = true

def SameTeacher (a b : TimetableSlotInput) : Prop :=
  a.teacher?.isSome = true ∧ b.teacherId = a.teacherId

/-- **No moved slot overlaps another slot of its teacher or its class.** -/
def ConflictFree (request : TimetableSolveRequest) (suggestions : List SwapSuggestion) : Prop :=
  ∀ slot ∈ request.timetable, MovedBy suggestions slot →
    ∀ other ∈ request.timetable, other.slotId ≠ slot.slotId →
      SameTeacher slot other ∨ other.classId = slot.classId →
      overlap (applyAll suggestions slot) (applyAll suggestions other) = false

/-! ## Periods and their indices -/

variable {slots : List TimetableSlotInput}

variable {p : Period} {periods : List Period}

theorem mem_seenPeriods_foldl (seen : List Period) :
    p ∈ slots.foldl (fun periods slot =>
        if slot.period ∈ periods then periods else periods ++ [slot.period]) seen
      ↔ p ∈ seen ∨ ∃ slot ∈ slots, slot.period = p := by
  induction slots generalizing seen with
  | nil => simp
  | cons slot slots ih =>
    rw [List.foldl_cons, ih]
    by_cases hseen : slot.period ∈ seen
    · rw [if_pos hseen]
      constructor
      · rintro (h | ⟨other, hother, rfl⟩)
        · exact Or.inl h
        · exact Or.inr ⟨other, List.mem_cons_of_mem _ hother, rfl⟩
      rintro (h | ⟨other, hother, rfl⟩)
      · exact Or.inl h
      rcases List.mem_cons.1 hother with rfl | hother
      · exact Or.inl hseen
      · exact Or.inr ⟨other, hother, rfl⟩
    rw [if_neg hseen]
    simp only [List.mem_append, List.mem_singleton, List.exists_mem_cons_iff, or_assoc,
      eq_comm]

theorem nodup_seenPeriods_foldl (seen : List Period)
    (h : seen.Nodup) :
    (slots.foldl (fun periods slot =>
      if slot.period ∈ periods then periods else periods ++ [slot.period]) seen).Nodup := by
  induction slots generalizing seen with
  | nil => exact h
  | cons slot slots ih =>
    rw [List.foldl_cons]
    by_cases hseen : slot.period ∈ seen
    · rw [if_pos hseen]
      exact ih seen h
    rw [if_neg hseen]
    refine ih _ (List.nodup_append.2 ⟨h, List.nodup_singleton _, ?_⟩)
    intro a ha b hb hab
    rw [List.mem_singleton] at hb
    exact hseen (hb ▸ hab ▸ ha)

theorem mem_collectPeriods {groups : List (List TimetableSlotInput)} :
    p ∈ collectPeriods groups ↔ ∃ slot ∈ groups.flatten, slot.period = p := by
  rw [collectPeriods, List.mem_insertionSort, seenPeriods, mem_seenPeriods_foldl]
  simp

theorem nodup_collectPeriods (groups : List (List TimetableSlotInput)) :
    (collectPeriods groups).Nodup := by
  rw [collectPeriods, (List.perm_insertionSort _ _).nodup_iff]
  exact nodup_seenPeriods_foldl [] List.nodup_nil

theorem index_unique (hnodup : periods.Nodup) {i j : ℕ}
    (hi : periods[i]? = some p) (hj : periods[j]? = some p) : i = j :=
  (List.getElem?_inj (List.getElem?_eq_some_iff.1 hi).1 hnodup).1 (hi.trans hj.symm)

theorem periodIndex_eq_ok {slot : TimetableSlotInput} {idx : ℕ}
    (hnodup : periods.Nodup) :
    periodIndex periods slot = .ok idx ↔ periods[idx]? = some slot.period := by
  have hfind : periodIndex periods slot = .ok idx
      ↔ periods.findIdx? (· = slot.period) = some idx := by
    rw [periodIndex]
    cases periods.findIdx? (· = slot.period) <;> simp
  rw [hfind, List.findIdx?_eq_some_iff_getElem]
  constructor
  · rintro ⟨hlt, heq, -⟩
    rw [List.getElem?_eq_getElem hlt, of_decide_eq_true heq]
  intro hat
  obtain ⟨hlt, heq⟩ := List.getElem?_eq_some_iff.1 hat
  refine ⟨hlt, decide_eq_true heq, ?_⟩
  intro j hj hdec
  rw [decide_eq_true_eq] at hdec
  have hatj : periods[j]? = some slot.period := by
    rw [List.getElem?_eq_getElem (hj.trans hlt), hdec]
  exact absurd (index_unique hnodup hatj hat) (Nat.ne_of_lt hj)

theorem periodIndex_of_mem {slot : TimetableSlotInput}
    (hnodup : periods.Nodup) (h : slot.period ∈ periods) :
    ∃ idx, periodIndex periods slot = .ok idx := by
  obtain ⟨idx, hidx⟩ := List.mem_iff_getElem?.1 h
  exact ⟨idx, (periodIndex_eq_ok hnodup).2 hidx⟩

/-! ## The slots by their ids -/

theorem slotOf_eq_some {id : String} {slot : TimetableSlotInput}
    (h : slotOf slots id = some slot) : slot ∈ slots ∧ slot.slotId = id := by
  rw [slotOf] at h
  have hid := List.find?_some h
  exact ⟨List.mem_reverse.1 (List.mem_of_find?_eq_some h), by simpa using hid⟩

theorem slotOf_append (slots others : List TimetableSlotInput) (id : String) :
    slotOf (slots ++ others) id = (slotOf others id).or (slotOf slots id) := by
  rw [slotOf, List.reverse_append, List.find?_append]
  rfl

theorem slotOf_isSome {id : String}
    (h : id ∈ slots.map (·.slotId)) : ∃ slot, slotOf slots id = some slot := by
  obtain ⟨slot, hslot, rfl⟩ := List.mem_map.1 h
  rw [← Option.isSome_iff_exists, slotOf, List.find?_isSome]
  exact ⟨slot, List.mem_reverse.2 hslot, decide_eq_true rfl⟩

namespace TimetableSolveRequest
variable {request : TimetableSolveRequest} {slot : TimetableSlotInput}

theorem periods_nodup (request : TimetableSolveRequest) : request.periods.Nodup :=
  nodup_collectPeriods _

theorem period_mem_periods (h : slot ∈ request.slots ++ request.classSlots) :
    slot.period ∈ request.periods := by
  rw [periods, mem_collectPeriods]
  refine ⟨slot, ?_, rfl⟩
  simpa [or_comm] using h

theorem mem_slots_of_timetable (h : slot ∈ request.timetable) :
    slot ∈ request.slots ++ request.classSlots :=
  (List.mem_filter.1 h).1

theorem slotOf_class_of_timetable (h : slot ∈ request.timetable)
    (hid : slot.slotId ∈ request.classIds) : slotOf request.classSlots slot.slotId = some slot := by
  have hlast := of_decide_eq_true (List.mem_filter.1 h).2
  obtain ⟨other, hother⟩ := slotOf_isSome hid
  rw [slotOf_append, hother] at hlast
  rw [hother]
  exact hlast

theorem mem_slots_of_outside (h : slot ∈ request.timetable)
    (hid : slot.slotId ∉ request.classIds) : slot ∈ request.slots := by
  rcases List.mem_append.1 (mem_slots_of_timetable h) with hslots | hclass
  · exact hslots
  · exact absurd (List.mem_map_of_mem hclass) hid

theorem mem_class_of_clash {id : String} (h : 0 < request.clashBySlot id) :
    id ∈ request.classIds := by
  rw [clashBySlot] at h
  cases hfound : slotOf request.classSlots id with
  | none => simp [hfound] at h
  | some slot =>
    obtain ⟨hmem, rfl⟩ := slotOf_eq_some hfound
    exact List.mem_map_of_mem hmem

theorem mem_movable :
    slot ∈ request.movable ↔ slot ∈ request.classSlots ∧ 0 < request.clashBySlot slot.slotId := by
  simp [movable]

theorem mem_fixedClass :
    slot ∈ request.fixedClass
      ↔ slot ∈ request.classSlots ∧ ¬ 0 < request.clashBySlot slot.slotId := by
  simp only [fixedClass, List.mem_filter, decide_eq_true_eq, mem_movable]
  tauto

/-- `current_idx` holds a period for every slot of the class. -/
theorem currentIdx_of_mem (h : slot ∈ request.classSlots) :
    ∃ current, request.currentIdx slot.slotId = .ok current
      ∧ ∃ period, request.periods[current]? = some period := by
  obtain ⟨kept, hkept⟩ := slotOf_isSome (List.mem_map_of_mem h)
  have hmem := (slotOf_eq_some hkept).1
  obtain ⟨idx, hidx⟩ := periodIndex_of_mem (periods_nodup request)
    (period_mem_periods (List.mem_append_right _ hmem))
  refine ⟨idx, ?_, kept.period, (periodIndex_eq_ok (periods_nodup request)).1 hidx⟩
  rw [currentIdx, hkept]
  exact hidx

theorem currentIdx_of_timetable (h : slot ∈ request.timetable)
    (hid : slot.slotId ∈ request.classIds) {idx : ℕ} :
    request.currentIdx slot.slotId = .ok idx ↔ request.periods[idx]? = some slot.period := by
  rw [currentIdx, slotOf_class_of_timetable h hid]
  exact periodIndex_eq_ok (periods_nodup request)

end TimetableSolveRequest

/-! ## The solver's answer -/

section Answer
variable {request : TimetableSolveRequest} {value : String × ℕ → Bool}
  {slot other : TimetableSlotInput} {period : Period}

/-- By the answer the slot is at the period: where a switch of it is on, and, if it is not to be
moved, where it is. -/
def Takes (request : TimetableSolveRequest) (value : String × ℕ → Bool)
    (slot : TimetableSlotInput) (period : Period) : Prop :=
  if 0 < request.clashBySlot slot.slotId then
    ∃ idx, request.periods[idx]? = some period ∧ value (slot.slotId, idx) = true
  else slot.period = period

theorem exactlyOne_of_feasible (hfeasible : request.cpModel.Feasible value)
    (h : slot ∈ request.movable) :
    (Constraint.exactlyOne (request.switches slot)).Holds value := by
  refine hfeasible _ (List.mem_append_left _ (List.mem_append_left _ ?_))
  exact List.mem_map_of_mem h

theorem mem_switches {idx : ℕ} (h : request.periods[idx]? = some period) :
    (slot.slotId, idx) ∈ request.switches slot :=
  List.mem_map_of_mem (List.mem_range.2 (List.getElem?_eq_some_iff.1 h).1)

theorem exists_switch (hfeasible : request.cpModel.Feasible value)
    (h : slot ∈ request.movable) :
    ∃ idx period, request.periods[idx]? = some period ∧ value (slot.slotId, idx) = true := by
  obtain ⟨a, ha, hon⟩ := (exactlyOne_of_feasible hfeasible h).exists_on
  obtain ⟨idx, hidx, rfl⟩ := List.mem_map.1 ha
  exact ⟨idx, _, List.getElem?_eq_getElem (List.mem_range.1 hidx), hon⟩

theorem switch_unique (hfeasible : request.cpModel.Feasible value) (h : slot ∈ request.movable)
    {i j : ℕ} {q : Period} (hi : request.periods[i]? = some period)
    (hj : request.periods[j]? = some q) (hvi : value (slot.slotId, i) = true)
    (hvj : value (slot.slotId, j) = true) : i = j := by
  have honly := (exactlyOne_of_feasible hfeasible h).only
    (mem_switches hi) (mem_switches hj) hvi hvj
  exact congrArg Prod.snd honly

theorem takes_unique (hfeasible : request.cpModel.Feasible value)
    {q : Period} (hslot : Takes request value slot period) (hq : Takes request value slot q)
    (hmem : slot ∈ request.timetable) : period = q := by
  unfold Takes at hslot hq
  by_cases hclash : 0 < request.clashBySlot slot.slotId
  · rw [if_pos hclash] at hslot hq
    obtain ⟨i, hi, hvi⟩ := hslot
    obtain ⟨j, hj, hvj⟩ := hq
    have hclass := TimetableSolveRequest.mem_class_of_clash hclash
    have hfound := TimetableSolveRequest.slotOf_class_of_timetable hmem hclass
    have hmovable := TimetableSolveRequest.mem_movable.2 ⟨(slotOf_eq_some hfound).1, hclash⟩
    obtain rfl := switch_unique hfeasible hmovable hi hj hvi hvj
    exact Option.some.inj (hi.symm.trans hj)
  rw [if_neg hclash] at hslot hq
  exact hslot.symm.trans hq

theorem mem_movable_of_timetable (hmem : slot ∈ request.timetable)
    (hclash : 0 < request.clashBySlot slot.slotId) : slot ∈ request.movable := by
  have hclass := TimetableSolveRequest.mem_class_of_clash hclash
  have hfound := TimetableSolveRequest.slotOf_class_of_timetable hmem hclass
  exact TimetableSolveRequest.mem_movable.2 ⟨(slotOf_eq_some hfound).1, hclash⟩

/-! ### What the capacities exclude -/

theorem classCapacity_of_feasible (hfeasible : request.cpModel.Feasible value) {idx : ℕ}
    (hperiod : request.periods[idx]? = some period) (hroom : request.fixedHere period ≤ 1)
    (hmovable : slot ∈ request.movable) :
    (Constraint.atMost (request.movable.map fun slot => (slot.slotId, idx))
      (request.fixedHere period) 1).Holds value := by
  refine hfeasible _ (List.mem_append_left _ (List.mem_append_right _ ?_))
  refine List.mem_flatMap.2 ⟨(period, idx), List.mem_zipIdx_iff_getElem?.2 hperiod, ?_⟩
  have hsome : request.movable.map (fun slot => (slot.slotId, idx)) ≠ [] := by
    intro hnil
    rw [List.map_eq_nil_iff] at hnil
    exact List.not_mem_nil (hnil ▸ hmovable)
  simp [TimetableSolveRequest.classCapacity, Nat.not_lt.2 hroom, List.map_eq_nil_iff.not.1 hsome]

theorem teacherCapacity_of_feasible (hfeasible : request.cpModel.Feasible value) {idx : ℕ}
    (hperiod : request.periods[idx]? = some period) {teacher : String}
    (hmovable : slot ∈ request.movable) (hteacher : slot.teacher? = some teacher) :
    (Constraint.atMost
      ((request.movable.filter (·.teacherId = some teacher)).map fun slot => (slot.slotId, idx))
      (request.teacherFixed teacher idx + request.externalByTeacherPeriod teacher idx)
      1).Holds value := by
  have hclass := (TimetableSolveRequest.mem_movable.1 hmovable).1
  have hnamed := (TimetableSlotInput.teacher?_eq_some.1 hteacher).1
  refine hfeasible _ (List.mem_append_right _ (List.mem_flatMap.2 ⟨teacher, ?_, ?_⟩))
  · exact List.mem_dedup.2 (List.mem_filterMap.2 ⟨slot, hclass, hteacher⟩)
  refine List.mem_flatMap.2 ⟨idx, ?_, ?_⟩
  · exact List.mem_range.2 (List.getElem?_eq_some_iff.1 hperiod).1
  have hsome : request.movable.filter (·.teacherId = some teacher) ≠ [] := by
    intro hnil
    have hin : slot ∈ request.movable.filter (·.teacherId = some teacher) :=
      List.mem_filter.2 ⟨hmovable, decide_eq_true hnamed⟩
    exact List.not_mem_nil (hnil ▸ hin)
  simp only [TimetableSolveRequest.teacherCapacity, List.map_eq_nil_iff, if_neg hsome,
    List.mem_singleton]

/-- **Two slots of the class are not at one period**, unless slots that stay are at odds there. -/
theorem not_takes_of_class (hfeasible : request.cpModel.Feasible value)
    (hslot : slot ∈ request.timetable) (hclash : 0 < request.clashBySlot slot.slotId)
    (htakes : Takes request value slot period) (hother : other ∈ request.timetable)
    (hclass : other.slotId ∈ request.classIds) (hne : other.slotId ≠ slot.slotId)
    (hroom : request.fixedHere period ≤ 1) : ¬ Takes request value other period := by
  intro hat
  have hmovable := mem_movable_of_timetable hslot hclash
  rw [Takes, if_pos hclash] at htakes
  obtain ⟨idx, hidx, hon⟩ := htakes
  have hcapacity := classCapacity_of_feasible hfeasible hidx hroom hmovable
  have hvar : ∀ {m}, m ∈ request.movable →
      (m.slotId, idx) ∈ request.movable.map fun slot => (slot.slotId, idx) :=
    fun hm => List.mem_map.2 ⟨_, hm, rfl⟩
  by_cases hmoves : 0 < request.clashBySlot other.slotId
  · rw [Takes, if_pos hmoves] at hat
    obtain ⟨j, hj, honj⟩ := hat
    obtain rfl := index_unique request.periods_nodup hidx hj
    have hsame := hcapacity.unique (hvar hmovable) (hvar (mem_movable_of_timetable hother hmoves))
      hon honj
    exact hne (congrArg Prod.fst hsame).symm
  rw [Takes, if_neg hmoves] at hat
  have hzero := hcapacity.alone (hvar hmovable) hon
  rw [TimetableSolveRequest.fixedHere, List.countP_eq_zero] at hzero
  have hfound := TimetableSolveRequest.slotOf_class_of_timetable hother hclass
  have hfixed := TimetableSolveRequest.mem_fixedClass.2 ⟨(slotOf_eq_some hfound).1, hmoves⟩
  refine hzero other hfixed ?_
  rw [← hat]
  simp [TimetableSlotInput.period]

/-- **Two slots of a teacher are not at one period.** -/
theorem not_takes_of_teacher (hfeasible : request.cpModel.Feasible value)
    (hslot : slot ∈ request.timetable) (hclash : 0 < request.clashBySlot slot.slotId)
    (htakes : Takes request value slot period) (hother : other ∈ request.timetable)
    (hne : other.slotId ≠ slot.slotId) (hsame : SameTeacher slot other) :
    ¬ Takes request value other period := by
  intro hat
  have hmovable := mem_movable_of_timetable hslot hclash
  obtain ⟨teacher, hteacher⟩ := Option.isSome_iff_exists.1 hsame.1
  obtain ⟨hnamed, hnonempty⟩ := TimetableSlotInput.teacher?_eq_some.1 hteacher
  have hothers : other.teacherId = some teacher := hsame.2.trans hnamed
  rw [Takes, if_pos hclash] at htakes
  obtain ⟨idx, hidx, hon⟩ := htakes
  have hcapacity := teacherCapacity_of_feasible hfeasible hidx hmovable hteacher
  have hvar : ∀ {m}, m ∈ request.movable → m.teacherId = some teacher →
      (m.slotId, idx) ∈ (request.movable.filter (·.teacherId = some teacher)).map
        fun slot => (slot.slotId, idx) :=
    fun hm hteaches => List.mem_map.2 ⟨_, List.mem_filter.2 ⟨hm, decide_eq_true hteaches⟩, rfl⟩
  have hzero := hcapacity.alone (hvar hmovable hnamed) hon
  by_cases hmoves : 0 < request.clashBySlot other.slotId
  · rw [Takes, if_pos hmoves] at hat
    obtain ⟨j, hj, honj⟩ := hat
    obtain rfl := index_unique request.periods_nodup hidx hj
    have heq := hcapacity.unique (hvar hmovable hnamed)
      (hvar (mem_movable_of_timetable hother hmoves) hothers) hon honj
    exact hne (congrArg Prod.fst heq).symm
  rw [Takes, if_neg hmoves] at hat
  by_cases hclass : other.slotId ∈ request.classIds
  · -- a slot of the class that stays is counted by its own index
    have hfound := TimetableSolveRequest.slotOf_class_of_timetable hother hclass
    have hfixed := TimetableSolveRequest.mem_fixedClass.2 ⟨(slotOf_eq_some hfound).1, hmoves⟩
    have hcurrent := (TimetableSolveRequest.currentIdx_of_timetable hother hclass).2
      (hidx.trans (congrArg some hat.symm))
    have hnone := List.countP_eq_zero.1 (Nat.eq_zero_of_add_eq_zero hzero).1 other hfixed
    simp [hothers, hcurrent, Except.toOption] at hnone
  have hin := TimetableSolveRequest.mem_slots_of_outside hother hclass
  have hcurrent := (periodIndex_eq_ok request.periods_nodup).2
    (hidx.trans (congrArg some hat.symm))
  have hteaches := TimetableSlotInput.teacher?_eq_some.2 ⟨hothers, hnonempty⟩
  have hnone := List.countP_eq_zero.1 (Nat.eq_zero_of_add_eq_zero hzero).2 other hin
  simp [hteaches, hcurrent, hclass, Except.toOption] at hnone

end Answer

/-! ## Applying the suggestions -/

def SwapSuggestion.proposed (g : SwapSuggestion) : Option Period :=
  match g.proposedDay, g.proposedStart, g.proposedEnd with
  | some day, some start, some finish => some ⟨day, start, finish⟩
  | _, _, _ => none

theorem SwapSuggestion.apply_of_none {g : SwapSuggestion} (slot : TimetableSlotInput)
    (h : g.slotId = slot.slotId → g.proposed = none) : g.apply slot = slot := by
  unfold SwapSuggestion.apply
  split
  · rename_i hday hstart hfinish
    refine if_neg fun hid => ?_
    simp [SwapSuggestion.proposed, hday, hstart, hfinish] at h
    exact h hid.symm
  · rfl

theorem SwapSuggestion.apply_of_some {g : SwapSuggestion} {slot : TimetableSlotInput}
    {period : Period} (hid : g.slotId = slot.slotId) (h : g.proposed = some period) :
    (g.apply slot).slotId = slot.slotId ∧ (g.apply slot).period = period := by
  unfold SwapSuggestion.proposed at h
  unfold SwapSuggestion.apply
  split at h
  · rename_i hday hstart hfinish
    rw [if_pos hid.symm]
    exact ⟨rfl, Option.some.inj h⟩
  · exact absurd h (by simp)

section Applying
variable {slot : TimetableSlotInput} {period : Period} {gs : List SwapSuggestion}

theorem applyAll_of_none
    (h : ∀ g ∈ gs, g.slotId = slot.slotId → g.proposed = none) : applyAll gs slot = slot := by
  induction gs with
  | nil => rfl
  | cons g gs ih =>
    rw [applyAll, List.foldl_cons, SwapSuggestion.apply_of_none slot (h g List.mem_cons_self)]
    exact ih fun g' hg' => h g' (List.mem_cons_of_mem g hg')

/-- Suggestions for a slot that agree leave it at the period they propose. -/
theorem applyAll_of_agree (hstart : slot.period = period ∨
      ∃ g ∈ gs, g.slotId = slot.slotId ∧ g.proposed = some period)
    (h : ∀ g ∈ gs, g.slotId = slot.slotId → g.proposed = some period) :
    (applyAll gs slot).period = period := by
  induction gs generalizing slot with
  | nil =>
    rcases hstart with hat | ⟨g, hg, -⟩
    · exact hat
    · exact absurd hg List.not_mem_nil
  | cons g gs ih =>
    rw [applyAll, List.foldl_cons]
    by_cases hid : g.slotId = slot.slotId
    · have happly := SwapSuggestion.apply_of_some hid (h g List.mem_cons_self hid)
      refine ih (Or.inl happly.2) fun g' hg' hid' => ?_
      exact h g' (List.mem_cons_of_mem g hg') (hid'.trans happly.1)
    have hsame : g.apply slot = slot :=
      SwapSuggestion.apply_of_none slot fun h => absurd h hid
    rw [hsame]
    refine ih ?_ fun g' hg' => h g' (List.mem_cons_of_mem g hg')
    rcases hstart with hat | ⟨g', hg', hid', hp⟩
    · exact Or.inl hat
    rcases List.mem_cons.1 hg' with rfl | hg'
    · exact absurd hid' hid
    · exact Or.inr ⟨g', hg', hid', hp⟩

end Applying

/-! ## The suggestions of a feasible answer -/

section Solved
variable {request : TimetableSolveRequest} {value : String × ℕ → Bool}
  {slot other : TimetableSlotInput} {period : Period}

/-- The suggestion for a slot, with the index of its period and of the one its switch is on at:
that one is proposed where it is not the slot's own. -/
structure Suggests (request : TimetableSolveRequest) (value : String × ℕ → Bool)
    (slot : TimetableSlotInput) (g : SwapSuggestion) (current idx : ℕ) (period : Period) :
    Prop where
  suggested : suggest request value slot = .ok g
  slotId_eq : g.slotId = slot.slotId
  current_eq : request.currentIdx slot.slotId = .ok current
  period_at : request.periods[idx]? = some period
  on : value (slot.slotId, idx) = true
  day_eq : g.proposedDay.isSome = g.proposed.isSome
  proposed_eq : g.proposed = if idx ≠ current then some period else none

theorem chosenIdx_of_on (hfeasible : request.cpModel.Feasible value) (h : slot ∈ request.movable)
    {current idx : ℕ} (hcurrent : request.currentIdx slot.slotId = .ok current)
    (hidx : request.periods[idx]? = some period) (hon : value (slot.slotId, idx) = true) :
    chosenIdx request value slot.slotId = .ok idx := by
  have hlt : idx < request.periods.length := (List.getElem?_eq_some_iff.1 hidx).1
  have hfound : (List.range request.periods.length).find? (fun p => value (slot.slotId, p))
      = some idx := by
    cases hfind : (List.range request.periods.length).find? fun p => value (slot.slotId, p) with
    | none => exact absurd hon (List.find?_eq_none.1 hfind idx (List.mem_range.2 hlt))
    | some first =>
      have hfirst := List.mem_range.1 (List.mem_of_find?_eq_some hfind)
      have hfirston := List.find?_some hfind
      rw [switch_unique hfeasible h (List.getElem?_eq_getElem hfirst) hidx hfirston hon]
  simp only [chosenIdx, hcurrent, hfound]
  rfl

theorem exists_suggests (hfeasible : request.cpModel.Feasible value) (h : slot ∈ request.movable) :
    ∃ g current idx period, Suggests request value slot g current idx period := by
  obtain ⟨idx, period, hidx, hon⟩ := exists_switch hfeasible h
  obtain ⟨current, hcurrent, cur, hcur⟩ :=
    TimetableSolveRequest.currentIdx_of_mem (TimetableSolveRequest.mem_movable.1 h).1
  have hchosen := chosenIdx_of_on hfeasible h hcurrent hidx hon
  have hat : periodAt request.periods idx = .ok period := by rw [periodAt, hidx]
  have hatcur : periodAt request.periods current = .ok cur := by rw [periodAt, hcur]
  refine ⟨swapSuggestion request slot (decide (idx ≠ current)) cur period, current, idx, period,
    ?_, rfl, hcurrent, hidx, hon, ?_, ?_⟩
  · simp only [suggest, hcurrent, hchosen, bind, Except.bind, hat, hatcur]
    rfl
  · by_cases hmoved : idx = current <;> simp [swapSuggestion, SwapSuggestion.proposed, hmoved]
  · by_cases hmoved : idx = current <;> simp [swapSuggestion, SwapSuggestion.proposed, hmoved]

theorem mapM_suggest {slots : List TimetableSlotInput}
    (h : ∀ slot ∈ slots, ∃ g, suggest request value slot = .ok g) :
    ∃ gs, slots.mapM (suggest request value) = .ok gs
      ∧ (∀ slot ∈ slots, ∃ g ∈ gs, suggest request value slot = .ok g)
      ∧ ∀ g ∈ gs, ∃ slot ∈ slots, suggest request value slot = .ok g := by
  induction slots with
  | nil => exact ⟨[], rfl, by simp, by simp⟩
  | cons slot slots ih =>
    obtain ⟨g, hg⟩ := h slot List.mem_cons_self
    obtain ⟨gs, hgs, hall, honly⟩ :=
      ih fun other hother => h other (List.mem_cons_of_mem _ hother)
    refine ⟨g :: gs, ?_, ?_, ?_⟩
    · rw [List.mapM_cons, hg, hgs]
      rfl
    · intro other hother
      rcases List.mem_cons.1 hother with rfl | hother
      · exact ⟨g, List.mem_cons_self, hg⟩
      obtain ⟨g', hg', heq⟩ := hall other hother
      exact ⟨g', List.mem_cons_of_mem g hg', heq⟩
    intro g' hg'
    rcases List.mem_cons.1 hg' with rfl | hg'
    · exact ⟨slot, List.mem_cons_self, hg⟩
    obtain ⟨other, hother, heq⟩ := honly g' hg'
    exact ⟨other, List.mem_cons_of_mem _ hother, heq⟩

/-- The solver's answer is told as one suggestion for each slot that may be moved. -/
theorem solve_suggests (hfeasible : request.cpModel.Feasible value) :
    ∃ response, solveWithOrtools request (some value) = .ok response
      ∧ (∀ slot ∈ request.movable, ∃ g ∈ response.suggestions,
          suggest request value slot = .ok g)
      ∧ ∀ g ∈ response.suggestions, ∃ slot ∈ request.movable,
          suggest request value slot = .ok g := by
  by_cases hmovable : request.movable = []
  · rw [hmovable]
    by_cases hempty : request.classSlots = []
    · rw [solveWithOrtools, if_pos hempty]
      exact ⟨_, rfl, by simp, by simp⟩
    rw [solveWithOrtools, if_neg hempty, if_pos (Or.inr hmovable)]
    exact ⟨_, rfl, by simp, by simp⟩
  obtain ⟨slot, hslot⟩ := List.exists_mem_of_ne_nil _ hmovable
  have hclass := (TimetableSolveRequest.mem_movable.1 hslot).1
  have hmem := TimetableSolveRequest.period_mem_periods
    (List.mem_append_right request.slots hclass)
  have hneither : ¬ (request.periods = [] ∨ request.movable = []) := by
    rintro (hnone | hnone)
    · exact List.not_mem_nil (hnone ▸ hmem)
    · exact hmovable hnone
  obtain ⟨gs, hgs, hall, honly⟩ := mapM_suggest fun slot hslot =>
    (exists_suggests hfeasible hslot).imp fun g hg => hg.choose_spec.choose_spec.choose_spec.1
  rw [solveWithOrtools, if_neg (List.ne_nil_of_mem hclass), if_neg hneither]
  simp only [hgs]
  exact ⟨_, rfl, hall, honly⟩

variable {gs : List SwapSuggestion}

theorem applied_of_fixed
    (honly : ∀ g ∈ gs, ∃ slot ∈ request.movable, suggest request value slot = .ok g)
    (hfeasible : request.cpModel.Feasible value)
    (hstays : ¬ 0 < request.clashBySlot slot.slotId) :
    ¬ MovedBy gs slot ∧ applyAll gs slot = slot := by
  have hother : ∀ g ∈ gs, g.slotId ≠ slot.slotId := by
    intro g hg hid
    obtain ⟨m, hm, hsuggest⟩ := honly g hg
    obtain ⟨g', current, idx, p, hg'⟩ := exists_suggests hfeasible hm
    obtain rfl := Except.ok.inj (hsuggest.symm.trans hg'.suggested)
    have hsame : m.slotId = slot.slotId := hg'.slotId_eq.symm.trans hid
    exact hstays (hsame ▸ (TimetableSolveRequest.mem_movable.1 hm).2)
  constructor
  · rintro ⟨g, hg, hid, -⟩
    exact hother g hg hid
  · exact applyAll_of_none fun g hg hid => absurd hid (hother g hg)

/-- **The suggestions put each slot where the answer has it**, and move those it has elsewhere. -/
theorem applied_spec (hfeasible : request.cpModel.Feasible value)
    (hall : ∀ slot ∈ request.movable, ∃ g ∈ gs, suggest request value slot = .ok g)
    (honly : ∀ g ∈ gs, ∃ slot ∈ request.movable, suggest request value slot = .ok g)
    (hslot : slot ∈ request.timetable) :
    Takes request value slot (applyAll gs slot).period
      ∧ (MovedBy gs slot ↔ (applyAll gs slot).period ≠ slot.period) := by
  by_cases hclash : 0 < request.clashBySlot slot.slotId
  · have hmovable := mem_movable_of_timetable hslot hclash
    have hclass := TimetableSolveRequest.mem_class_of_clash hclash
    obtain ⟨g, current, idx, p, hg⟩ := exists_suggests hfeasible hmovable
    have hown := (TimetableSolveRequest.currentIdx_of_timetable hslot hclass).1 hg.current_eq
    -- every suggestion with the slot's id is by the same switches
    have hagree : ∀ g' ∈ gs, g'.slotId = slot.slotId →
        g'.proposed = (if idx ≠ current then some p else none)
          ∧ g'.proposedDay.isSome = g'.proposed.isSome := by
      intro g' hg' hid'
      obtain ⟨m, hm, hsuggest⟩ := honly g' hg'
      obtain ⟨_, current', idx', p', hm'⟩ := exists_suggests hfeasible hm
      obtain rfl := Except.ok.inj (hsuggest.symm.trans hm'.suggested)
      have hsame : m.slotId = slot.slotId := hm'.slotId_eq.symm.trans hid'
      have hcurrent := hm'.current_eq
      have hon := hm'.on
      rw [hsame] at hcurrent hon
      obtain rfl := Except.ok.inj (hg.current_eq.symm.trans hcurrent)
      obtain rfl := switch_unique hfeasible hmovable hg.period_at hm'.period_at hg.on hon
      obtain rfl := Option.some.inj (hg.period_at.symm.trans hm'.period_at)
      exact ⟨hm'.proposed_eq, hm'.day_eq⟩
    obtain ⟨_, hmem, hsuggest⟩ := hall slot hmovable
    obtain rfl := Except.ok.inj (hg.suggested.symm.trans hsuggest)
    rw [Takes, if_pos hclash]
    by_cases hmoved : idx = current
    · obtain rfl := hmoved
      have hsame : applyAll gs slot = slot :=
        applyAll_of_none fun g' hg' hid' => by simpa using (hagree g' hg' hid').1
      rw [hsame]
      refine ⟨⟨idx, hown, hg.on⟩, ?_⟩
      constructor
      · rintro ⟨g', hg', hid', hsome⟩
        have := hagree g' hg' hid'
        rw [this.2, this.1] at hsome
        simp at hsome
      · exact fun h => absurd rfl h
    have hthere : (applyAll gs slot).period = p := by
      refine applyAll_of_agree (Or.inr ⟨g, hmem, hg.slotId_eq, ?_⟩) fun g' hg' hid' => ?_
      · rw [hg.proposed_eq, if_pos hmoved]
      · rw [(hagree g' hg' hid').1, if_pos hmoved]
    rw [hthere]
    refine ⟨⟨idx, hg.period_at, hg.on⟩, ?_⟩
    have hne : p ≠ slot.period := by
      rintro rfl
      exact hmoved (index_unique request.periods_nodup hg.period_at hown)
    refine iff_of_true ⟨g, hmem, hg.slotId_eq, ?_⟩ hne
    rw [hg.day_eq, hg.proposed_eq, if_pos hmoved]
    rfl
  obtain ⟨hnot, hsame⟩ := applied_of_fixed honly hfeasible hclash
  rw [hsame, Takes, if_neg hclash]
  exact ⟨rfl, iff_of_false hnot fun h => h rfl⟩

end Solved

/-! ## What the encoding leaves out -/

/-- The answer has the slot at another period than its own. -/
def MovesTo (request : TimetableSolveRequest) (value : String × ℕ → Bool)
    (slot : TimetableSlotInput) (period : Period) : Prop :=
  Takes request value slot period ∧ period ≠ slot.period

/-- **The answer stays clear of what the constraints do not tell**: periods that overlap in part,
the periods where slots of the class are at odds already, and the slots of the class that are not
among `class_slots`. -/
structure Encoded (request : TimetableSolveRequest) (value : String × ℕ → Bool) : Prop where
  apart : ∀ slot ∈ request.timetable, ∀ period, MovesTo request value slot period →
    ∀ other ∈ request.timetable, other.slotId ≠ slot.slotId →
    SameTeacher slot other ∨ other.classId = slot.classId →
    ∀ q, Takes request value other q → q ≠ period → period.overlaps q = false
  room : ∀ slot ∈ request.timetable, ∀ period, MovesTo request value slot period →
    period.start < period.finish →
    ∀ other ∈ request.timetable, other.slotId ≠ slot.slotId → other.classId = slot.classId →
    other.slotId ∈ request.classIds → Takes request value other period →
    request.fixedHere period ≤ 1
  outside : ∀ slot ∈ request.timetable, ∀ period, MovesTo request value slot period →
    period.start < period.finish →
    ∀ other ∈ request.timetable, other.slotId ≠ slot.slotId → other.classId = slot.classId →
    other.slotId ∉ request.classIds → other.period ≠ period

section Soundness
variable {request : TimetableSolveRequest} {value : String × ℕ → Bool}
  {slot other : TimetableSlotInput} {period : Period}

theorem clash_of_movesTo (h : MovesTo request value slot period) :
    0 < request.clashBySlot slot.slotId := by
  by_contra hnone
  have htakes := h.1
  rw [Takes, if_neg hnone] at htakes
  exact h.2 htakes.symm

theorem takes_outside (h : other.slotId ∉ request.classIds) :
    Takes request value other period ↔ other.period = period := by
  rw [Takes, if_neg fun hclash => h (TimetableSolveRequest.mem_class_of_clash hclash)]

/-- No moved slot overlaps another, read off the answer. -/
def ApartByAnswer (request : TimetableSolveRequest) (value : String × ℕ → Bool) : Prop :=
  ∀ slot ∈ request.timetable, ∀ period, MovesTo request value slot period →
    ∀ other ∈ request.timetable, other.slotId ≠ slot.slotId →
    SameTeacher slot other ∨ other.classId = slot.classId →
    ∀ q, Takes request value other q → period.overlaps q = false

/-- **The constraints exclude every overlap but the three that they do not tell.** -/
theorem apartByAnswer_iff (hfeasible : request.cpModel.Feasible value) :
    ApartByAnswer request value ↔ Encoded request value := by
  constructor
  · intro h
    refine ⟨?_, ?_, ?_⟩
    · intro slot hslot period hmoves other hother hne hshares q hq _
      exact h slot hslot period hmoves other hother hne hshares q hq
    · intro slot hslot period hmoves hproper other hother hne hclass _ hat
      have hclear := h slot hslot period hmoves other hother hne (Or.inr hclass) period hat
      rw [(period.overlaps_self).2 hproper] at hclear
      exact absurd hclear (by decide)
    intro slot hslot period hmoves hproper other hother hne hclass houtside hat
    have htakes : Takes request value other period := (takes_outside houtside).2 hat
    have hclear := h slot hslot period hmoves other hother hne (Or.inr hclass) period htakes
    rw [(period.overlaps_self).2 hproper] at hclear
    exact absurd hclear (by decide)
  intro h slot hslot period hmoves other hother hne hshares q hq
  by_cases hsame : q = period
  · subst hsame
    by_contra hoverlap
    rw [Bool.not_eq_false, Period.overlaps_self] at hoverlap
    have hclash := clash_of_movesTo hmoves
    rcases hshares with hteacher | hclass
    · exact not_takes_of_teacher hfeasible hslot hclash hmoves.1 hother hne hteacher hq
    by_cases hin : other.slotId ∈ request.classIds
    · have hroom := h.room slot hslot q hmoves hoverlap other hother hne hclass hin hq
      exact not_takes_of_class hfeasible hslot hclash hmoves.1 hother hin hne hroom hq
    exact h.outside slot hslot q hmoves hoverlap other hother hne hclass hin
      ((takes_outside hin).1 hq)
  · exact h.apart slot hslot period hmoves other hother hne hshares q hq hsame

/-- **The repair is conflict-free exactly when the answer stays clear of what the constraints do
not tell.** -/
theorem repair_conflict_free_iff (request : TimetableSolveRequest) (value : String × ℕ → Bool)
    (hfeasible : request.cpModel.Feasible value) :
    ∃ response, solveWithOrtools request (some value) = .ok response
      ∧ (ConflictFree request response.suggestions ↔ Encoded request value) := by
  obtain ⟨response, hsolve, hall, honly⟩ := solve_suggests hfeasible
  refine ⟨response, hsolve, ?_⟩
  rw [← apartByAnswer_iff hfeasible]
  have hspec : ∀ {slot}, slot ∈ request.timetable →
      Takes request value slot (applyAll response.suggestions slot).period
        ∧ (MovedBy response.suggestions slot
          ↔ (applyAll response.suggestions slot).period ≠ slot.period) :=
    fun hslot => applied_spec hfeasible hall honly hslot
  constructor
  · intro h slot hslot period hmoves other hother hne hshares q hq
    have hthere := takes_unique hfeasible (hspec hslot).1 hmoves.1 hslot
    have hotherthere := takes_unique hfeasible (hspec hother).1 hq hother
    have hmoved := (hspec hslot).2.2 (hthere ▸ hmoves.2)
    have hclear := h slot hslot hmoved other hother hne hshares
    rwa [overlap_eq, hthere, hotherthere] at hclear
  intro h slot hslot hmoved other hother hne hshares
  rw [overlap_eq]
  exact h slot hslot _ ⟨(hspec hslot).1, (hspec hslot).2.1 hmoved⟩ other hother hne hshares _
    (hspec hother).1

end Soundness

/-! ## A repair onto half of another lesson -/

/-- A class slot at eight clashes with its teacher's lesson elsewhere; the teacher is taken again
from half past nine. -/
def tightMonday : TimetableSolveRequest :=
  let lesson : TimetableSlotInput :=
    { slotId := "s1", classId := "c1", teacherId := some "t1", dayOfWeek := 1
      startTime := "08:00", endTime := "09:00" }
  { classId := "c1", classSlots := [lesson]
    allSlots := [lesson,
      { lesson with slotId := "x1", classId := "c2" },
      { lesson with slotId := "x2", classId := "c2", startTime := "09:30", endTime := "10:30" },
      { lesson with
        slotId := "x3", classId := "c3", teacherId := some "t2"
        startTime := "09:00", endTime := "10:00" }] }

/-- The lesson at nine, the only period the constraints leave. -/
def atNine (s : String × ℕ) : Bool := s = ("s1", 1)

instance (suggestions : List SwapSuggestion) (slot : TimetableSlotInput) :
    Decidable (MovedBy suggestions slot) :=
  inferInstanceAs (Decidable (∃ g ∈ suggestions, g.slotId = slot.slotId ∧ _))

instance (a b : TimetableSlotInput) : Decidable (SameTeacher a b) :=
  inferInstanceAs (Decidable (_ ∧ _))

instance (request : TimetableSolveRequest) (suggestions : List SwapSuggestion) :
    Decidable (ConflictFree request suggestions) :=
  inferInstanceAs (Decidable (∀ slot ∈ request.timetable, _ → ∀ other ∈ request.timetable, _))

/-- The only feasible answer moves the lesson to nine, where it meets the teacher's other lesson
from half past nine. -/
theorem not_repair_conflict_free :
    ¬ ∀ (request : TimetableSolveRequest) (value : String × ℕ → Bool),
      request.cpModel.Feasible value →
      ∃ response, solveWithOrtools request (some value) = .ok response
        ∧ ConflictFree request response.suggestions := by
  intro h
  obtain ⟨response, hsolve, hfree⟩ := h tightMonday atNine (by decide)
  have hmeets : (solveWithOrtools tightMonday (some atNine)).toOption.all
      (fun response => !decide (ConflictFree tightMonday response.suggestions)) = true := by
    decide
  rw [hsolve] at hmeets
  exact absurd hfree (by simpa [Except.toOption] using hmeets)

theorem repair_conflict_free_tight :
    tightMonday.cpModel.Feasible atNine
      ∧ ∃ response, solveWithOrtools tightMonday (some atNine) = .ok response
        ∧ (ConflictFree tightMonday response.suggestions ↔ Encoded tightMonday atNine) := by
  have hfeasible : tightMonday.cpModel.Feasible atNine := by decide
  exact ⟨hfeasible, repair_conflict_free_iff tightMonday atNine hfeasible⟩

end MultiAcademy.Ai
