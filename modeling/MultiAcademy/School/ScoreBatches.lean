import MultiAcademy.Lib.RowWrites
import MultiAcademy.School.GeneratedResults

/-!
# Saving a batch of scores

`saveScoreSheetBatch` of `academic/academic.service.ts`, with what it answers.  The entries are
checked and written one after the other, each for itself: where one is refused, those before it
are stored.  An entry without a row id whose sheet is found is compared with columns that were not
selected, and refused.
-/

namespace MultiAcademy.School

open MultiAcademy.Lib

/-! ## The request -/

def entrySheet (batch : ScoreSheetBatch) (entry : ScoreSheetEntry) (sheets : Table ScoreSheet) :
    Option ℕ :=
  match entry.id with
  | some id => if id < sheets.length then some id else none
  | none => sheets.first? fun sheet => sheet.studentId = entry.studentId && batch.selects sheet

/-- The entries in turn, up to the first that is refused, with the ids of their sheets. -/
def saveEntriesAnswer (actorUserId recordedBy : String) (batch : ScoreSheetBatch) :
    List ScoreSheetEntry → AcademicDb → AcademicDb × Except AcademicError (List ℕ)
  | [], db => (db, .ok [])
  | entry :: entries, db =>
    match saveEntry actorUserId recordedBy batch entry db with
    | .error refusal => (db, .error refusal)
    | .ok written =>
      let id := (entrySheet batch entry db.scoreSheets).getD db.scoreSheets.nextId
      let rest := saveEntriesAnswer actorUserId recordedBy batch entries written
      (rest.1, rest.2.map fun ids => id :: ids)

def recorderName (actorUserId : String) (db : AcademicDb) : String :=
  (((findUser actorUserId db).map (·.name)).filter (· ≠ "")).getD actorUserId

structure ScoreSheetsAnswer where
  ids : List ℕ
  status : SheetStatus
  deriving DecidableEq

/-- `saveScoreSheets`: what `saveScoreSheetBatch` leaves, and what it answers. -/
def saveScoreSheets (actorUserId : String) (batch : ScoreSheetBatch) (db : AcademicDb) :
    AcademicDb × Except AcademicError ScoreSheetsAnswer :=
  match checkBatch actorUserId batch db with
  | .error refusal => (db, .error refusal)
  | .ok () =>
    let saved :=
      saveEntriesAnswer actorUserId (recorderName actorUserId db) batch batch.entries db
    (saved.1, saved.2.map fun ids => { ids, status := batch.status })

section Save
variable {actorUserId recordedBy : String} {batch : ScoreSheetBatch} {entry : ScoreSheetEntry}
  {entries : List ScoreSheetEntry} {db db' : AcademicDb}

theorem saveScoreSheets_of_check (h : checkBatch actorUserId batch db = .ok ()) :
    saveScoreSheets actorUserId batch db
      = ((saveEntriesAnswer actorUserId (recorderName actorUserId db) batch batch.entries db).1,
        (saveEntriesAnswer actorUserId (recorderName actorUserId db) batch batch.entries db).2.map
          fun ids => { ids, status := batch.status }) := by
  rw [saveScoreSheets, h]

/-! ## One entry -/

variable {sheets : Table ScoreSheet}

theorem entrySheet_lt {i : ℕ}
    (h : entrySheet batch entry sheets = some i) : i < sheets.length := by
  rw [entrySheet] at h
  cases hid : entry.id with
  | some id =>
    rw [hid] at h
    simp only [Option.ite_none_right_eq_some, Option.some.injEq] at h
    exact h.2 ▸ h.1
  | none =>
    rw [hid] at h
    obtain ⟨sheet, hsheet, -⟩ := Table.mem_select.1 (Table.mem_of_first? h)
    exact (List.getElem?_eq_some_iff.1 hsheet).1

def sheetWrites (actorUserId recordedBy : String) (batch : ScoreSheetBatch) :
    RowWrites ScoreSheetEntry ScoreSheet where
  find := entrySheet batch
  write := ScoreSheetEntry.onto actorUserId recordedBy batch
  fresh := ScoreSheetEntry.newSheet actorUserId recordedBy batch
  find_lt := entrySheet_lt
  find_modify := by
    intro entry other sheets i
    rw [entrySheet, entrySheet, List.length_modify]
    cases entry.id with
    | some id => rfl
    | none => exact Table.first?_modify sheets i fun sheet => rfl
  write_write _ _ _ := rfl

structure EntryNumbers (entry : ScoreSheetEntry) : Prop where
  obtainable : ¬entry.obtainableScore ≤ 0
  score : ¬(entry.studentScore.any fun score => score < 0 || entry.obtainableScore < score) = true
  fits : fitsDecimal (decimal2 entry.obtainableScore) = true
    ∧ (entry.studentScore.map decimal2).all fitsDecimal = true

def mayOverwrite (batch : ScoreSheetBatch) (entry : ScoreSheetEntry) (sheet : ScoreSheet) : Bool :=
  (if entry.id.isSome then batch.selects sheet else batch.readsUndefined)
    && sheet.status ≠ .published

/-- The sheet that is found may be overwritten, or a new one inserted. -/
def Placed (actorUserId recordedBy : String) (batch : ScoreSheetBatch) (entry : ScoreSheetEntry)
    (sheets : Table ScoreSheet) : Prop :=
  match entrySheet batch entry sheets with
  | some i => ∀ sheet ∈ sheets[i]?, mayOverwrite batch entry sheet = true
  | none => (entry.newSheet actorUserId recordedBy batch).fits = true

theorem checkEntry_eq_ok {existing : Option ℕ} :
    checkEntry batch entry db = .ok existing
      ↔ ¬entry.obtainableScore ≤ 0
        ∧ ¬(entry.studentScore.any fun score =>
          score < 0 || entry.obtainableScore < score) = true
        ∧ existing = entrySheet batch entry db.scoreSheets
        ∧ ∀ i ∈ existing, ∀ sheet ∈ db.scoreSheets[i]?, mayOverwrite batch entry sheet = true := by
  rw [checkEntry, check_eq_ok, check_eq_ok]
  refine and_congr_right fun _ => and_congr_right fun _ => ?_
  rw [entrySheet]
  cases hid : entry.id with
  | some id =>
    by_cases hlt : id < db.scoreSheets.length
    · obtain ⟨sheet, hsheet⟩ : ∃ sheet, db.scoreSheets[id]? = some sheet :=
        ⟨_, List.getElem?_eq_getElem hlt⟩
      simp only [hsheet, if_pos hlt]
      rw [check_eq_ok, check_eq_ok]
      constructor
      · rintro ⟨hselects, hstatus, h⟩
        cases h
        refine ⟨rfl, fun i hi sheet' hsheet' => ?_⟩
        cases hi
        rw [hsheet] at hsheet'
        cases hsheet'
        simp [mayOverwrite, hid, hselects, hstatus]
      rintro ⟨rfl, h⟩
      have hmay := h id rfl sheet hsheet
      simp only [mayOverwrite, hid, Option.isSome_some, if_true, Bool.and_eq_true,
        decide_eq_true_iff] at hmay
      exact ⟨by simp [hmay.1], hmay.2, rfl⟩
    have hnone : db.scoreSheets[id]? = none := List.getElem?_eq_none (not_lt.1 hlt)
    simp only [hnone, if_neg hlt]
    constructor
    · intro h
      cases h
      exact ⟨rfl, fun i hi => by cases hi⟩
    rintro ⟨rfl, -⟩
    rfl
  | none =>
    cases hfirst : db.scoreSheets.first? fun sheet =>
        sheet.studentId = entry.studentId && batch.selects sheet with
    | none =>
      constructor
      · intro h
        cases h
        exact ⟨rfl, fun i hi => by cases hi⟩
      rintro ⟨rfl, -⟩
      rfl
    | some i =>
      obtain ⟨sheet, hsheet, -⟩ := Table.mem_select.1 (Table.mem_of_first? hfirst)
      simp only [hsheet, Option.any_some]
      rw [check_eq_ok, check_eq_ok]
      constructor
      · rintro ⟨hundefined, hstatus, h⟩
        cases h
        refine ⟨rfl, fun j hj sheet' hsheet' => ?_⟩
        cases hj
        rw [hsheet] at hsheet'
        cases hsheet'
        simpa [mayOverwrite, hid, hundefined] using hstatus
      rintro ⟨rfl, h⟩
      have hmay := h i rfl sheet hsheet
      simp only [mayOverwrite, hid, Option.isSome_none, Bool.false_eq_true, if_false,
        Bool.and_eq_true, decide_eq_true_iff] at hmay
      exact ⟨by simp [hmay.1], by simp [hmay.2], rfl⟩

/-- An entry that is in order is written to its sheet. -/
theorem saveEntry_eq_ok :
    saveEntry actorUserId recordedBy batch entry db = .ok db'
      ↔ EntryNumbers entry ∧ Placed actorUserId recordedBy batch entry db.scoreSheets
        ∧ db' = { db with
            scoreSheets :=
              (sheetWrites actorUserId recordedBy batch).step db.scoreSheets entry } := by
  rw [saveEntry, bind_eq_ok]
  simp only [checkEntry_eq_ok]
  constructor
  · rintro ⟨existing, ⟨hobtainable, hscore, rfl, hmay⟩, h⟩
    obtain ⟨hfits, h⟩ := check_eq_ok.1 h
    have hnumbers : EntryNumbers entry := ⟨hobtainable, hscore, by
      simpa [ScoreSheetEntry.newSheet] using hfits⟩
    cases hfind : entrySheet batch entry db.scoreSheets with
    | some i =>
      rw [hfind] at h hmay
      cases h
      refine ⟨hnumbers, ?_, by rw [RowWrites.step_of_find hfind]; rfl⟩
      rw [Placed, hfind]
      exact hmay i rfl
    | none =>
      rw [hfind] at h
      obtain ⟨hnew, h⟩ := check_eq_ok.1 h
      cases h
      refine ⟨hnumbers, ?_, by rw [RowWrites.step_of_find_eq_none hfind]; rfl⟩
      rw [Placed, hfind]
      simpa using hnew
  rintro ⟨⟨hobtainable, hscore, hfits⟩, hplaced, rfl⟩
  refine ⟨_, ⟨hobtainable, hscore, rfl, fun i hi => ?_⟩, check_eq_ok.2 ⟨?_, ?_⟩⟩
  · rw [Placed, Option.mem_def.1 hi] at hplaced
    exact hplaced
  · simpa [ScoreSheetEntry.newSheet] using hfits
  cases hfind : entrySheet batch entry db.scoreSheets with
  | some i =>
    rw [RowWrites.step_of_find hfind]
    rfl
  | none =>
    rw [Placed, hfind] at hplaced
    rw [RowWrites.step_of_find_eq_none hfind]
    exact check_eq_ok.2 ⟨by simpa using hplaced, rfl⟩

/-! ## The entries in turn -/

theorem saveEntriesAnswer_cons_ok {ids : List ℕ} :
    saveEntriesAnswer actorUserId recordedBy batch (entry :: entries) db = (db', .ok ids)
      ↔ ∃ written ids', saveEntry actorUserId recordedBy batch entry db = .ok written
        ∧ saveEntriesAnswer actorUserId recordedBy batch entries written = (db', .ok ids')
        ∧ ids = (entrySheet batch entry db.scoreSheets).getD db.scoreSheets.nextId :: ids' := by
  rw [saveEntriesAnswer]
  cases saveEntry actorUserId recordedBy batch entry db with
  | error refusal => simp
  | ok written =>
    rcases hrest : saveEntriesAnswer actorUserId recordedBy batch entries written
      with ⟨db'', refusal | ids'⟩
    · simp [Except.map, hrest]
    · simp [Except.map, hrest, eq_comm]

/-- Each entry is in order, and may be written to the sheet it is found once those before it are
written. -/
def Writable (actorUserId recordedBy : String) (batch : ScoreSheetBatch) :
    List ScoreSheetEntry → Table ScoreSheet → Prop
  | [], _ => True
  | entry :: entries, sheets =>
    EntryNumbers entry ∧ Placed actorUserId recordedBy batch entry sheets
      ∧ Writable actorUserId recordedBy batch entries
        ((sheetWrites actorUserId recordedBy batch).step sheets entry)

/-- Entries that all go through are written to their sheets. -/
theorem saveEntriesAnswer_eq_ok :
    (∃ ids, saveEntriesAnswer actorUserId recordedBy batch entries db = (db', .ok ids))
      ↔ Writable actorUserId recordedBy batch entries db.scoreSheets
        ∧ db' = { db with
            scoreSheets :=
              (sheetWrites actorUserId recordedBy batch).run entries db.scoreSheets } := by
  induction entries generalizing db with
  | nil => simp [saveEntriesAnswer, Writable, RowWrites.run, eq_comm]
  | cons entry entries ih =>
    simp only [saveEntriesAnswer_cons_ok]
    constructor
    · rintro ⟨ids, written, ids', hsave, hrest, -⟩
      obtain ⟨hnumbers, hplaced, rfl⟩ := saveEntry_eq_ok.1 hsave
      obtain ⟨hwritable, heq⟩ := ih.1 ⟨ids', hrest⟩
      exact ⟨⟨hnumbers, hplaced, hwritable⟩, heq⟩
    rintro ⟨⟨hnumbers, hplaced, hwritable⟩, heq⟩
    obtain ⟨ids', hrest⟩ : ∃ ids', saveEntriesAnswer actorUserId recordedBy batch entries
        { db with scoreSheets := _ } = (db', .ok ids') := ih.2 ⟨hwritable, heq⟩
    exact ⟨_, _, ids', saveEntry_eq_ok.2 ⟨hnumbers, hplaced, rfl⟩, hrest, rfl⟩

/-- Where the entries stop, the one that is refused comes after some that go through. -/
theorem saveEntriesAnswer_eq_error {refusal : AcademicError} :
    saveEntriesAnswer actorUserId recordedBy batch entries db = (db', .error refusal)
      ↔ ∃ pre entry post ids, entries = pre ++ entry :: post
        ∧ saveEntriesAnswer actorUserId recordedBy batch pre db = (db', .ok ids)
        ∧ saveEntry actorUserId recordedBy batch entry db' = .error refusal := by
  induction entries generalizing db with
  | nil => simp [saveEntriesAnswer]
  | cons first rest ih =>
    cases hsave : saveEntry actorUserId recordedBy batch first db with
    | error refusal' =>
      rw [saveEntriesAnswer, hsave]
      constructor
      · intro h
        cases h
        exact ⟨[], first, rest, [], rfl, rfl, hsave⟩
      rintro ⟨_ | ⟨first', pre⟩, entry, post, ids, heq, hpre, hentry⟩
      · cases heq
        cases hpre
        rw [hsave] at hentry
        cases hentry
        rfl
      cases heq
      obtain ⟨written, ids', hok, -⟩ := saveEntriesAnswer_cons_ok.1 hpre
      rw [hsave] at hok
      cases hok
    | ok written =>
      have hmore : saveEntriesAnswer actorUserId recordedBy batch (first :: rest) db
            = (db', .error refusal)
          ↔ saveEntriesAnswer actorUserId recordedBy batch rest written
            = (db', .error refusal) := by
        rw [saveEntriesAnswer, hsave]
        rcases hrest : saveEntriesAnswer actorUserId recordedBy batch rest written
          with ⟨db'', refusal | ids'⟩ <;> simp [Except.map, hrest]
      rw [hmore, ih]
      constructor
      · rintro ⟨pre, entry, post, ids, rfl, hpre, hentry⟩
        exact ⟨first :: pre, entry, post, _, rfl,
          saveEntriesAnswer_cons_ok.2 ⟨written, ids, hsave, hpre, rfl⟩, hentry⟩
      rintro ⟨_ | ⟨first', pre⟩, entry, post, ids, heq, hpre, hentry⟩
      · cases heq
        cases hpre
        rw [hsave] at hentry
        cases hentry
      cases heq
      obtain ⟨written', ids', hok, hpre', -⟩ := saveEntriesAnswer_cons_ok.1 hpre
      rw [hsave] at hok
      cases hok
      exact ⟨pre, entry, post, ids', rfl, hpre', hentry⟩

/-- The entries stop at one that may not be written. -/
theorem saveEntriesAnswer_stops :
    (∃ refusal, saveEntriesAnswer actorUserId recordedBy batch entries db
        = (db', .error refusal))
      ↔ ∃ pre entry post, entries = pre ++ entry :: post
        ∧ Writable actorUserId recordedBy batch pre db.scoreSheets
        ∧ db' = { db with
            scoreSheets := (sheetWrites actorUserId recordedBy batch).run pre db.scoreSheets }
        ∧ ¬(EntryNumbers entry
          ∧ Placed actorUserId recordedBy batch entry db'.scoreSheets) := by
  simp only [saveEntriesAnswer_eq_error]
  constructor
  · rintro ⟨refusal, pre, entry, post, ids, heq, hpre, hentry⟩
    obtain ⟨hwritable, hdb⟩ := saveEntriesAnswer_eq_ok.1 ⟨ids, hpre⟩
    refine ⟨pre, entry, post, heq, hwritable, hdb, fun ⟨hnumbers, hplaced⟩ => ?_⟩
    rw [saveEntry_eq_ok.2 ⟨hnumbers, hplaced, rfl⟩] at hentry
    cases hentry
  rintro ⟨pre, entry, post, heq, hwritable, hdb, hentry⟩
  obtain ⟨ids, hpre⟩ := saveEntriesAnswer_eq_ok.2 ⟨hwritable, hdb⟩
  cases hsave : saveEntry actorUserId recordedBy batch entry db' with
  | error refusal => exact ⟨refusal, pre, entry, post, ids, heq, hpre, hsave⟩
  | ok written =>
    obtain ⟨hnumbers, hplaced, -⟩ := saveEntry_eq_ok.1 hsave
    exact absurd ⟨hnumbers, hplaced⟩ hentry

/-! ## All or nothing -/

structure Holds (actorUserId recordedBy : String) (batch : ScoreSheetBatch)
    (entry : ScoreSheetEntry) (sheet : ScoreSheet) : Prop where
  selected : batch.selects sheet = true
  student : entry.id = none → sheet.studentId = entry.studentId
  values : entry.onto actorUserId recordedBy batch sheet = sheet

/-- Each entry is in the sheet that is answered for it, unless a later one is for the same sheet,
and no other sheet is changed. -/
structure AllSaved (actorUserId recordedBy : String) (batch : ScoreSheetBatch)
    (entries : List ScoreSheetEntry) (ids : List ℕ) (before after : Table ScoreSheet) : Prop where
  answered : ids.length = entries.length
  written : ∀ (k : ℕ) (entry : ScoreSheetEntry) (id : ℕ), entries[k]? = some entry → ids[k]? = some id →
    (∀ j > k, ids[j]? ≠ some id) →
      ∃ sheet, after[id]? = some sheet ∧ Holds actorUserId recordedBy batch entry sheet
  others : ∀ i ∉ ids, after[i]? = before[i]?

/-- A batch that is refused changes no sheet, and one that is not is saved whole. -/
structure SavedOrKept (actorUserId : String) (batch : ScoreSheetBatch) (db : AcademicDb) :
    Prop where
  kept : ∀ refusal, (saveScoreSheets actorUserId batch db).2 = .error refusal →
    (saveScoreSheets actorUserId batch db).1.scoreSheets = db.scoreSheets
  saved : ∀ answer, (saveScoreSheets actorUserId batch db).2 = .ok answer →
    AllSaved actorUserId (recorderName actorUserId db) batch batch.entries answer.ids
      db.scoreSheets (saveScoreSheets actorUserId batch db).1.scoreSheets

/-- The batch is for the teacher to save, and an entry that may not be written comes after some
that are, and that change a sheet. -/
def HalfSaved (actorUserId : String) (batch : ScoreSheetBatch) (db : AcademicDb) : Prop :=
  let recordedBy := recorderName actorUserId db
  let writes := sheetWrites actorUserId recordedBy batch
  checkBatch actorUserId batch db = .ok () ∧ ∃ pre entry post, batch.entries = pre ++ entry :: post
    ∧ Writable actorUserId recordedBy batch pre db.scoreSheets
    ∧ ¬(EntryNumbers entry
      ∧ Placed actorUserId recordedBy batch entry (writes.run pre db.scoreSheets))
    ∧ ¬writes.Idle db.scoreSheets pre

theorem selects_newSheet :
    batch.selects (entry.newSheet actorUserId recordedBy batch) = true := by
  have hsub (id : Option String) : (id.filter (· ≠ "")).getD "" = id.getD "" := by
    cases id with
    | none => rfl
    | some text => by_cases htext : text = "" <;> simp [Option.filter, htext]
  simpa [ScoreSheetBatch.selects, ScoreSheetEntry.newSheet] using hsub batch.subcategoryId

/-- The sheet of an entry that was written holds the entry. -/
theorem holds_step
    (hplaced : Placed actorUserId recordedBy batch entry sheets) :
    ∃ sheet, ((sheetWrites actorUserId recordedBy batch).step sheets entry)[
        (entrySheet batch entry sheets).getD sheets.nextId]? = some sheet
      ∧ Holds actorUserId recordedBy batch entry sheet := by
  cases hfind : entrySheet batch entry sheets with
  | none =>
    rw [RowWrites.step_of_find_eq_none hfind]
    exact ⟨_, List.getElem?_concat_length, selects_newSheet, fun _ => rfl, rfl⟩
  | some i =>
    obtain ⟨sheet, hsheet⟩ : ∃ sheet, sheets[i]? = some sheet :=
      ⟨_, List.getElem?_eq_getElem (entrySheet_lt hfind)⟩
    rw [RowWrites.step_of_find hfind, Option.getD_some, List.getElem?_modify_eq, hsheet]
    refine ⟨_, rfl, ?_⟩
    cases hid : entry.id with
    | some id =>
      rw [Placed, hfind] at hplaced
      have hmay := hplaced sheet hsheet
      simp only [mayOverwrite, hid, Option.isSome_some, if_true, Bool.and_eq_true] at hmay
      exact ⟨hmay.1, fun hnone => (by rw [hid] at hnone; cases hnone), rfl⟩
    | none =>
      rw [entrySheet, hid] at hfind
      obtain ⟨sheet', hsheet', hselects⟩ := Table.mem_select.1 (Table.mem_of_first? hfind)
      rw [hsheet] at hsheet'
      cases hsheet'
      simp only [Bool.and_eq_true, decide_eq_true_iff] at hselects
      exact ⟨hselects.2, fun _ => hselects.1, rfl⟩

/-- A sheet that is not the entry's stays. -/
theorem getElem?_step_of_ne {i : ℕ}
    (h : i ≠ (entrySheet batch entry sheets).getD sheets.nextId) :
    ((sheetWrites actorUserId recordedBy batch).step sheets entry)[i]? = sheets[i]? := by
  cases hfind : entrySheet batch entry sheets with
  | none =>
    rw [hfind, Option.getD_none] at h
    rw [RowWrites.step_of_find_eq_none hfind, ← Table.insert, Table.getElem?_insert, if_neg h]
  | some j =>
    rw [hfind, Option.getD_some] at h
    rw [RowWrites.step_of_find hfind, List.getElem?_modify]
    simp [h.symm]

/-- Entries that all go through are all saved. -/
theorem allSaved {ids : List ℕ}
    (h : saveEntriesAnswer actorUserId recordedBy batch entries db = (db', .ok ids)) :
    AllSaved actorUserId recordedBy batch entries ids db.scoreSheets db'.scoreSheets := by
  induction entries generalizing db ids with
  | nil =>
    cases h
    exact ⟨rfl, fun k entry id hentry => (by cases hentry), fun i _ => rfl⟩
  | cons entry entries ih =>
    obtain ⟨written, ids', hsave, hrest, rfl⟩ := saveEntriesAnswer_cons_ok.1 h
    obtain ⟨-, hplaced, rfl⟩ := saveEntry_eq_ok.1 hsave
    have hlater := ih hrest
    refine ⟨congrArg (· + 1) hlater.answered, fun k entry' id hentry hid hlast => ?_,
      fun i hi => ?_⟩
    · cases k with
      | zero =>
        cases hentry
        cases hid
        obtain ⟨sheet, hsheet, hholds⟩ := holds_step hplaced
        refine ⟨sheet, ?_, hholds⟩
        rw [← hsheet]
        refine hlater.others _ fun hmem => ?_
        obtain ⟨j, hj⟩ := List.getElem?_of_mem hmem
        exact hlast (j + 1) (Nat.succ_pos j) hj
      | succ k =>
        exact hlater.written k entry' id hentry hid fun j hj =>
          hlast (j + 1) (Nat.succ_lt_succ hj)
    rw [List.mem_cons, not_or] at hi
    rw [hlater.others i hi.2]
    exact getElem?_step_of_ne hi.1

end Save

section Batch
variable {actorUserId : String} {batch : ScoreSheetBatch} {db : AcademicDb}

/-- Two entries for maths, of which the second is above its maximum. -/
def secondTooHigh : ScoreSheetBatch where
  sitting := { sessionId := "session", termId := "term", classId := "class" }
  subjectId := "maths"
  categoryId := "exam"
  entries :=
    [ { studentId := "eve", studentScore := some 40, obtainableScore := 60 },
      { studentId := "fay", studentScore := some 70, obtainableScore := 60 } ]

theorem saveScoreSheets_eq_ok {db' : AcademicDb} :
    (∃ answer, saveScoreSheets actorUserId batch db = (db', .ok answer))
      ↔ checkBatch actorUserId batch db = .ok ()
        ∧ Writable actorUserId (recorderName actorUserId db) batch batch.entries db.scoreSheets
        ∧ db' = { db with
            scoreSheets := (sheetWrites actorUserId (recorderName actorUserId db) batch).run
              batch.entries db.scoreSheets } := by
  rw [← saveEntriesAnswer_eq_ok]
  constructor
  · rintro ⟨answer, h⟩
    cases hcheck : checkBatch actorUserId batch db with
    | error refusal =>
      rw [saveScoreSheets, hcheck] at h
      cases h
    | ok _ =>
      rw [saveScoreSheets_of_check hcheck] at h
      refine ⟨rfl, ?_⟩
      rcases hsaved : saveEntriesAnswer actorUserId (recorderName actorUserId db) batch
        batch.entries db with ⟨db'', refusal | ids⟩ <;> rw [hsaved] at h <;> cases h
      exact ⟨ids, rfl⟩
  rintro ⟨hcheck, ids, hsaved⟩
  refine ⟨{ ids, status := batch.status }, ?_⟩
  rw [saveScoreSheets_of_check hcheck, hsaved]
  rfl

/-- The batch is saved, and changes no sheet. -/
def SavedAgain (actorUserId : String) (batch : ScoreSheetBatch) (db : AcademicDb) : Prop :=
  ∃ answer, (saveScoreSheets actorUserId batch db).2 = .ok answer
    ∧ (saveScoreSheets actorUserId batch db).1.scoreSheets = db.scoreSheets

/-- The sheet of an entry without a row id is found again. -/
theorem finds_of_id_eq_none {recordedBy : String} {entry : ScoreSheetEntry}
    (hid : entry.id = none) : (sheetWrites actorUserId recordedBy batch).Finds entry where
  find_append := by
    intro sheets i sheet h
    simp only [sheetWrites, entrySheet, hid] at h ⊢
    rw [← Table.insert, Table.first?_insert, h]
    rfl
  find_fresh := by
    intro sheets h
    have hfresh : batch.selects (entry.newSheet actorUserId recordedBy batch) = true :=
      selects_newSheet
    simp only [sheetWrites, entrySheet, hid] at h ⊢
    rw [← Table.insert, Table.first?_insert, h, Option.none_or, if_pos]
    · rfl
    rw [hfresh]
    simp [ScoreSheetEntry.newSheet]
  write_fresh := rfl

/-- Entries may be written to drafts that are found without ids where these are not compared. -/
theorem writable_of_drafts {recordedBy : String} (hundefined : batch.readsUndefined = true)
    (hdraft : batch.status = .draft) {entries : List ScoreSheetEntry} {sheets : Table ScoreSheet}
    (hentries : ∀ entry ∈ entries, EntryNumbers entry ∧ entry.id = none
      ∧ ∃ i, entrySheet batch entry sheets = some i
        ∧ ∀ sheet ∈ sheets[i]?, sheet.status = .draft) :
    Writable actorUserId recordedBy batch entries sheets := by
  induction entries generalizing sheets with
  | nil => trivial
  | cons entry entries ih =>
    rw [List.forall_mem_cons] at hentries
    obtain ⟨⟨hnumbers, hid, i, hi, hstatus⟩, hrest⟩ := hentries
    refine ⟨hnumbers, ?_, ih fun entry' hentry' => ?_⟩
    · rw [Placed, hi]
      intro sheet hsheet
      simp [mayOverwrite, hid, hundefined, hstatus sheet hsheet]
    obtain ⟨hnumbers', hid', j, hj, hstatus'⟩ := hrest entry' hentry'
    rw [RowWrites.step_of_find hi]
    refine ⟨hnumbers', hid', j, ((sheetWrites actorUserId recordedBy batch).find_modify).trans hj,
      fun sheet hsheet => ?_⟩
    rw [List.getElem?_modify] at hsheet
    obtain ⟨sheet', hsheet', rfl⟩ := Option.map_eq_some_iff.1 hsheet
    split
    · exact hdraft
    · exact hstatus' sheet' hsheet'

theorem numbers_of_writable {recordedBy : String} {entries : List ScoreSheetEntry}
    {sheets : Table ScoreSheet} (h : Writable actorUserId recordedBy batch entries sheets) :
    ∀ entry ∈ entries, EntryNumbers entry := by
  induction entries generalizing sheets with
  | nil => exact fun entry hentry => absurd hentry List.not_mem_nil
  | cons entry entries ih => exact List.forall_mem_cons.2 ⟨h.1, ih h.2.2⟩

/-- Entries without row ids may only be written to sheets that are found where the sheets are not
compared. -/
theorem readsUndefined_of_writable {recordedBy : String} {entries : List ScoreSheetEntry}
    {sheets : Table ScoreSheet} (h : Writable actorUserId recordedBy batch entries sheets)
    (hsome : entries ≠ []) (hids : ∀ entry ∈ entries, entry.id = none)
    (hfound : ∀ entry ∈ entries, (entrySheet batch entry sheets).isSome = true) :
    batch.readsUndefined = true := by
  obtain ⟨entry, rest, rfl⟩ := List.exists_cons_of_ne_nil hsome
  obtain ⟨i, hi⟩ := Option.isSome_iff_exists.1 (hfound entry List.mem_cons_self)
  have hplaced := h.2.1
  rw [Placed, hi] at hplaced
  have hmay := hplaced _ (List.getElem?_eq_getElem (entrySheet_lt hi))
  simp only [mayOverwrite, hids entry List.mem_cons_self, Option.isSome_none, Bool.false_eq_true,
    if_false, Bool.and_eq_true] at hmay
  exact hmay.1

theorem savedAgain_of_idle (hcheck : checkBatch actorUserId batch db = .ok ())
    (hwritable : Writable actorUserId (recorderName actorUserId db) batch batch.entries
      db.scoreSheets)
    (hidle : (sheetWrites actorUserId (recorderName actorUserId db) batch).Idle db.scoreSheets
      batch.entries) : SavedAgain actorUserId batch db := by
  obtain ⟨answer, hagain⟩ := saveScoreSheets_eq_ok.2 ⟨hcheck, hwritable, rfl⟩
  refine ⟨answer, congrArg Prod.snd hagain, ?_⟩
  rw [hagain]
  exact RowWrites.run_eq_self_iff.2 hidle

/-- A batch for maths with a score for a student who has none. -/
def newScore : ScoreSheetBatch :=
  { secondTooHigh with
    entries := [ { studentId := "eve", studentScore := some 40, obtainableScore := 60 } ] }

end Batch

end MultiAcademy.School
