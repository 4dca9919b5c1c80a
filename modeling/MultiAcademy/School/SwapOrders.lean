import MultiAcademy.Lib.Relocations
import MultiAcademy.School.Timetable

/-!
# The order of the solver's swaps

`applySwaps` in `ai/timetable-solver.service.ts` reschedules the slots of its list one after
another, and `reschedule` in `timetable/timetable.service.ts` checks each against the timetable
as it is by then.  Two slots that exchange their places are each refused the place of the
other, although the timetable they would come to has no clash.
-/

namespace MultiAcademy.School

open MultiAcademy.Lib

/-- No move was skipped, and none failed. -/
def SwapReport.Complete (report : SwapReport) : Prop := report.skipped = [] ∧ report.failed = []

def swapMoves : Relocation Swap Slot.id where
  target := Swap.slotId
  place swap slot := swap.proposed.elim slot slot.move
  key_place swap _ := by
    cases swap.proposed with
    | none => rfl
    | some _ => rfl

/-- The timetable with every move carried out, at once. -/
def jointly (swaps : List Swap) (db : Slots) : Slots := swapMoves.joint swaps db

/-- The move is of a slot of the class and passes every check but the queries for clashes. -/
def Swap.lands (env : TimetableEnv) (ids : List String) (db : Slots) (swap : Swap) : Bool :=
  match swap.check ids, db.find? swap.slotId with
  | .ok target, some slot =>
    (TimetableService.checkReschedule env target).isOk && (slot.move target).storable
  | _, _ => false

section Orders
variable (sqlLt : String → String → Bool)

/-- One of the two queries for a slot finds the row. -/
def Clash (slot row : Slot) : Prop :=
  classClash sqlLt slot row = true ∨ teacherClash sqlLt slot row = true

instance (slot row : Slot) : Decidable (Clash sqlLt slot row) :=
  inferInstanceAs (Decidable (_ ∨ _))

/-- The request is one that `applySwaps` takes up. -/
def SwapsTaken (env : TimetableEnv) (classId : String) (moves : List Swap) : Prop :=
  env.timetableSolver = true ∧ blank classId = false ∧ moves ≠ []

/-- **The moves are applied whatever their order**: all of them, and to the same timetable. -/
def SwapsApply (env : TimetableEnv) (classId : String) (moves : List Swap) (db : Slots) : Prop :=
  ∀ order, order.Perm moves → ∃ report,
    applySwaps sqlLt env classId order db = .ok (report, jointly moves db)
      ∧ report.Complete ∧ report.applied = order.map Swap.slotId

variable {sqlLt} {env : TimetableEnv} {ids : List String} {db : Slots} {swap : Swap}
  {report : SwapReport}

/-! ## One move -/

/-- The place a move is checked for is the one it proposes. -/
theorem Swap.check_ok {target : Move} (h : swap.check ids = .ok target) :
    swap.proposed = some target := by
  simp only [Swap.check] at h
  split at h
  · cases h
  cases hproposed : swap.proposed with
  | none =>
    rw [hproposed] at h
    cases h
  | some proposed =>
    rw [hproposed] at h
    exact congrArg some (Except.ok.inj h)

theorem Swap.lands_iff :
    swap.lands env ids db = true ↔ ∃ target, swap.check ids = .ok target
      ∧ TimetableService.checkReschedule env target = .ok ()
      ∧ ∃ slot, db.find? swap.slotId = some slot ∧ (slot.move target).storable = true := by
  rw [Swap.lands]
  cases swap.check ids with
  | error skipped => simp
  | ok target =>
    cases db.find? swap.slotId with
    | none => simp
    | some slot =>
      cases hallowed : TimetableService.checkReschedule env target <;>
        simp [hallowed, Except.isOk, Except.toBool]

/-- The queries let a slot pass exactly when no other row clashes with it. -/
theorem checkClash_eq_ok {slot : Slot} {slotId : String} :
    checkClash sqlLt slot (otherSlots slotId db) = .ok ()
      ↔ ∀ row ∈ db.rows, row.id ≠ slotId → ¬ Clash sqlLt slot row := by
  have hok : checkClash sqlLt slot (otherSlots slotId db) = .ok ()
      ↔ (checkClash sqlLt slot (otherSlots slotId db)).isOk = true := by
    cases checkClash sqlLt slot (otherSlots slotId db) with
    | error error => simp [Except.isOk, Except.toBool]
    | ok _ => simp [Except.isOk, Except.toBool]
  rw [hok, checkClash_isOk, clashFound, List.any_eq_false, otherSlots]
  simp [Clash]

/-- A move that lands where nothing is in its way is applied. -/
theorem moveSlot_applied (hlands : swap.lands env ids db = true)
    (hfits : swapMoves.Fits (Clash sqlLt) db swap) :
    moveSlot sqlLt env ids swap report db
      = ({ report with applied := report.applied ++ [swap.slotId] }, swapMoves.apply swap db) := by
  obtain ⟨target, hcheck, hallowed, slot, hslot, hstorable⟩ := Swap.lands_iff.1 hlands
  have hproposed := Swap.check_ok hcheck
  have hplace : ∀ row, swapMoves.place swap row = row.move target := by
    intro row
    simp only [swapMoves, hproposed, Option.elim_some]
  have hfree : checkClash sqlLt (slot.move target) (otherSlots swap.slotId db) = .ok () := by
    rw [checkClash_eq_ok]
    intro row hrow hne
    rw [← hplace]
    exact hfits slot hslot row hrow hne
  have hdb : swapMoves.apply swap db
      = db.updateWhere (fun row => row.id = swap.slotId) (Slot.move target) fun _ => rfl := by
    simp only [Relocation.apply, Keyed.updateWhere, hplace]
    rfl
  simp only [moveSlot, hcheck, TimetableService.reschedule, hallowed, hslot, hfree, bind,
    Except.bind, if_pos hstorable, pure, Except.pure, hdb]

/-- Any other move is skipped, or it fails. -/
theorem moveSlot_refused
    (h : ¬ (swap.lands env ids db = true ∧ swapMoves.Fits (Clash sqlLt) db swap)) :
    ¬ (moveSlot sqlLt env ids swap report db).1.Complete := by
  rintro ⟨hskipped, hfailed⟩
  refine h ?_
  simp only [moveSlot] at hskipped hfailed
  cases hcheck : swap.check ids with
  | error skipped => simp [hcheck] at hskipped
  | ok target =>
    have hproposed := Swap.check_ok hcheck
    simp only [hcheck, TimetableService.reschedule, bind, Except.bind] at hfailed
    cases hallowed : TimetableService.checkReschedule env target with
    | error error => simp [hallowed] at hfailed
    | ok _ =>
      cases hslot : db.find? swap.slotId with
      | none => simp [hallowed, hslot, throw, throwThe, MonadExceptOf.throw] at hfailed
      | some slot =>
        cases hfree : checkClash sqlLt (slot.move target) (otherSlots swap.slotId db) with
        | error error => simp [hallowed, hslot, hfree] at hfailed
        | ok _ =>
          by_cases hstorable : (slot.move target).storable = true
          · refine ⟨Swap.lands_iff.2 ⟨target, hcheck, hallowed, slot, hslot, hstorable⟩, ?_⟩
            intro slot' hslot' row hrow hne
            obtain rfl := Option.some.inj (hslot.symm.trans hslot')
            simp only [swapMoves, hproposed, Option.elim_some]
            exact checkClash_eq_ok.1 hfree row hrow hne
          simp [hallowed, hslot, hfree, hstorable, throw, throwThe,
            MonadExceptOf.throw] at hfailed

theorem moveSlot_incomplete (h : ¬ report.Complete) :
    ¬ (moveSlot sqlLt env ids swap report db).1.Complete := by
  by_cases hgoes : swap.lands env ids db = true ∧ swapMoves.Fits (Clash sqlLt) db swap
  · rw [moveSlot_applied hgoes.1 hgoes.2]
    exact h
  · exact moveSlot_refused hgoes

/-! ## The loop -/

theorem moveSlots_incomplete (swaps : List Swap) (h : ¬ report.Complete) :
    ¬ (moveSlots sqlLt env ids swaps report db).1.Complete := by
  induction swaps generalizing report db with
  | nil => exact h
  | cons swap swaps ih => exact ih (moveSlot_incomplete h)

/-- The loop applies every move exactly when each lands, and fits, where it is carried out. -/
theorem moveSlots_complete_iff (swaps : List Swap) :
    (moveSlots sqlLt env ids swaps report db).1.Complete
      ↔ report.Complete ∧ Along swapMoves.apply
          (fun db swap => swap.lands env ids db = true ∧ swapMoves.Fits (Clash sqlLt) db swap)
          db swaps := by
  induction swaps generalizing report db with
  | nil => simp [moveSlots]
  | cons swap swaps ih =>
    rw [moveSlots, along_cons]
    by_cases hgoes : swap.lands env ids db = true ∧ swapMoves.Fits (Clash sqlLt) db swap
    · rw [moveSlot_applied hgoes.1 hgoes.2, ih]
      simp [SwapReport.Complete, hgoes]
    refine iff_of_false ?_ fun h => hgoes h.2.1
    exact moveSlots_incomplete swaps (moveSlot_refused hgoes)

/-- It comes to the timetable with every move carried out. -/
theorem moveSlots_eq {swaps : List Swap}
    (h : Along swapMoves.apply
      (fun db swap => swap.lands env ids db = true ∧ swapMoves.Fits (Clash sqlLt) db swap)
      db swaps) :
    moveSlots sqlLt env ids swaps report db
      = ({ report with applied := report.applied ++ swaps.map Swap.slotId },
          run swapMoves.apply db swaps) := by
  induction swaps generalizing report db with
  | nil => simp [moveSlots]
  | cons swap swaps ih =>
    obtain ⟨⟨hlands, hfits⟩, hrest⟩ := h
    rw [moveSlots, moveSlot_applied hlands hfits, ih hrest]
    simp

/-- Where a move lands does not depend on the moves of other slots. -/
theorem along_lands_iff {swaps : List Swap} (hd : (swaps.map Swap.slotId).Nodup) :
    Along swapMoves.apply (fun db swap => swap.lands env ids db = true) db swaps
      ↔ ∀ swap ∈ swaps, swap.lands env ids db = true := by
  induction swaps generalizing db with
  | nil => simp
  | cons swap swaps ih =>
    rw [List.map_cons, List.nodup_cons] at hd
    rw [along_cons, ih hd.2, List.forall_mem_cons]
    refine and_congr_right fun _ => forall₂_congr fun later hlater => ?_
    have hne : later.slotId ≠ swapMoves.target swap := by
      intro heq
      exact hd.1 (List.mem_map.2 ⟨later, hlater, heq⟩)
    rw [Swap.lands, Swap.lands, Relocation.find?_apply_of_ne hne]

/-- What `applySwaps` answers with is what its loop comes to. -/
theorem applySwaps_eq_ok {classId : String} {moves : List Swap} {result : SwapReport × Slots} :
    applySwaps sqlLt env classId moves db = .ok result
      ↔ SwapsTaken env classId moves
        ∧ moveSlots sqlLt env (classSlotIds classId db) moves {} db = result := by
  simp only [applySwaps, SwapsTaken]
  cases env.timetableSolver <;> cases blank classId <;> by_cases hnil : moves = [] <;> simp [hnil]

/-- A list is applied in its order exactly when its moves land and fit one after another. -/
theorem applySwaps_applied_iff {classId : String} {moves : List Swap}
    (hd : (moves.map Swap.slotId).Nodup) :
    (∃ report, applySwaps sqlLt env classId moves db = .ok (report, jointly moves db)
        ∧ report.Complete ∧ report.applied = moves.map Swap.slotId)
      ↔ SwapsTaken env classId moves
        ∧ (∀ swap ∈ moves, swap.lands env (classSlotIds classId db) db = true)
        ∧ Along swapMoves.apply (swapMoves.Fits (Clash sqlLt)) db moves := by
  simp only [applySwaps_eq_ok]
  constructor
  · rintro ⟨report, ⟨htaken, hloop⟩, hcomplete, -⟩
    have hrun : (moveSlots sqlLt env (classSlotIds classId db) moves {} db).1.Complete := by
      rw [hloop]
      exact hcomplete
    rw [moveSlots_complete_iff, along_and_iff, along_lands_iff hd] at hrun
    exact ⟨htaken, hrun.2⟩
  rintro ⟨htaken, hlands, hfits⟩
  refine ⟨{ applied := moves.map Swap.slotId }, ⟨htaken, ?_⟩, ⟨rfl, rfl⟩, rfl⟩
  rw [moveSlots_eq (along_and_iff.2 ⟨(along_lands_iff hd).2 hlands, hfits⟩),
    Relocation.run_apply hd, jointly, List.nil_append]

end Orders

/-- **The moves of distinct slots are applied whatever their order**, for every timetable and
every list of moves whose joint outcome has no clash, exactly when the request is taken up,
every move lands, and none is in the way of another. -/
theorem swaps_apply_iff (sqlLt : String → String → Bool) (env : TimetableEnv) (classId : String)
    (moves : List Swap) (db : Slots) (hdistinct : (moves.map Swap.slotId).Nodup)
    (hjoint : Keyed.Clear (Clash sqlLt) (jointly moves db)) :
    SwapsApply sqlLt env classId moves db
      ↔ SwapsTaken env classId moves
        ∧ (∀ swap ∈ moves, swap.lands env (classSlotIds classId db) db = true)
        ∧ ∀ a ∈ moves, ∀ b ∈ moves, a.slotId ≠ b.slotId →
            ¬ swapMoves.InTheWay (Clash sqlLt) db a b := by
  have hways : (∀ order, order.Perm moves →
        Along swapMoves.apply (swapMoves.Fits (Clash sqlLt)) db order)
      ↔ ∀ a ∈ moves, ∀ b ∈ moves, a.slotId ≠ b.slotId →
          ¬ swapMoves.InTheWay (Clash sqlLt) db a b :=
    Relocation.forall_order_fits_iff hdistinct hjoint
  have horder : ∀ order : List Swap, order.Perm moves →
      ((∃ report, applySwaps sqlLt env classId order db = .ok (report, jointly moves db)
          ∧ report.Complete ∧ report.applied = order.map Swap.slotId)
        ↔ SwapsTaken env classId moves
          ∧ (∀ swap ∈ moves, swap.lands env (classSlotIds classId db) db = true)
          ∧ Along swapMoves.apply (swapMoves.Fits (Clash sqlLt)) db order) := by
    intro order hperm
    have hsame : jointly order db = jointly moves db := Relocation.joint_perm hdistinct hperm
    have htaken : SwapsTaken env classId order ↔ SwapsTaken env classId moves := by
      simp only [SwapsTaken, ne_eq, List.eq_nil_iff_length_eq_zero, hperm.length_eq]
    rw [← hsame, applySwaps_applied_iff ((hperm.map Swap.slotId).nodup_iff.2 hdistinct), htaken]
    simp only [hperm.mem_iff]
  rw [← hways]
  constructor
  · intro h
    have hfirst := (horder moves (.refl _)).1 (h moves (.refl _))
    exact ⟨hfirst.1, hfirst.2.1, fun order hperm => ((horder order hperm).1 (h order hperm)).2.2⟩
  intro h order hperm
  exact (horder order hperm).2 ⟨h.1, h.2.1, h.2.2 order hperm⟩

namespace Example

/-- Class `7A` has mathematics at nine and English at ten, on Monday. -/
def monday : Slots where
  rows :=
    [{ id := "tts_1", classId := "7A", teacherId := some "ada", dayOfWeek := 1
       startTime := "09:00", endTime := "09:45" },
     { id := "tts_2", classId := "7A", teacherId := some "ben", dayOfWeek := 1
       startTime := "10:00", endTime := "10:45" }]
  nodup := by decide

/-- Both lessons are put off by two hours. -/
def afternoon : List Swap :=
  [{ slotId := "tts_1", proposedDay := some 1, proposedStart := "11:00", proposedEnd := "11:45" },
   { slotId := "tts_2", proposedDay := some 1, proposedStart := "12:00", proposedEnd := "12:45" }]

/-- The two lessons exchange their places. -/
def exchange : List Swap :=
  [{ slotId := "tts_1", proposedDay := some 1, proposedStart := "10:00", proposedEnd := "10:45" },
   { slotId := "tts_2", proposedDay := some 1, proposedStart := "09:00", proposedEnd := "09:45" }]

def principal : TimetableEnv := { roles := ["principal"] }

/-- The database orders the texts of a day as Lean does. -/
def textLt (a b : String) : Bool := a < b

end Example

/-- Two lessons that are put off to free places are moved in whatever order. -/
theorem swaps_apply_iff_example :
    SwapsApply Example.textLt Example.principal "7A" Example.afternoon Example.monday := by
  have hjoint : Keyed.Clear (Clash Example.textLt)
      (jointly Example.afternoon Example.monday) := by
    unfold Keyed.Clear
    decide
  refine (swaps_apply_iff Example.textLt Example.principal "7A" Example.afternoon Example.monday
    (by decide) hjoint).2 ⟨⟨rfl, by decide, by decide⟩, by decide, ?_⟩
  unfold Relocation.InTheWay
  decide

/-- Two lessons of a class that exchange their places are each refused the place of the
other, though neither timetable has a clash. -/
theorem not_swaps_apply :
    ¬ ∀ (sqlLt : String → String → Bool) (env : TimetableEnv) (classId : String)
      (moves : List Swap) (db : Slots), SwapsTaken env classId moves →
        (∀ swap ∈ moves, swap.lands env (classSlotIds classId db) db = true) →
        Keyed.Clear (Clash sqlLt) db → (moves.map Swap.slotId).Nodup →
        Keyed.Clear (Clash sqlLt) (jointly moves db) →
          SwapsApply sqlLt env classId moves db := by
  intro h
  have happly : SwapsApply Example.textLt Example.principal "7A" Example.exchange
      Example.monday := by
    refine h _ _ _ _ _ ⟨rfl, by decide, by decide⟩ (by decide) ?_ (by decide) ?_
    · unfold Keyed.Clear
      decide
    unfold Keyed.Clear
    decide
  obtain ⟨report, happlied, hcomplete, -⟩ := happly Example.exchange (.refl _)
  have hloop := (applySwaps_eq_ok.1 happlied).2
  have hfailed : (moveSlots Example.textLt Example.principal
      (classSlotIds "7A" Example.monday) Example.exchange {} Example.monday).1.failed ≠ [] := by
    decide
  rw [hloop] at hfailed
  exact hfailed hcomplete.2

end MultiAcademy.School
