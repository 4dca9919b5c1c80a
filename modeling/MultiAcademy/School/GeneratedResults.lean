import MultiAcademy.Lib.Overwrite
import MultiAcademy.School.Results

/-!
# Generating results

A teacher generates a student's result from the score sheets the teacher may see, and the
result replaces the one that is stored.  What a request stores depends on the score sheets
and not on what was generated before, so a run of such requests overwrites the students'
results one after another.
-/

namespace MultiAcademy.School

open MultiAcademy.Lib

/-! ## Subjects of a preview -/

def NamedSheet.entered (named : NamedSheet) : Bool :=
  (named.categoryName.filter (· ≠ "")).isSome

/-- The clause lets the subject pass. -/
def passes (clause : Option (List String)) (subjectId : String) : Bool :=
  clause.all fun subjectIds => subjectId ∈ subjectIds

/-- The preview of a caller shows the subject of the student: the student has a sheet of it,
of a category with a name, and the caller may see the subject. -/
def Shows (sitting : Sitting) (clause : Option (List String)) (studentId subjectId : String)
    (db : AcademicDb) : Prop :=
  ∃ sheet ∈ db.scoreSheets, sitting.holds studentId sheet = true
    ∧ (nameSheet db sheet).entered = true ∧ sheet.subjectId = subjectId
    ∧ passes clause subjectId = true

variable {env : AcademicEnv} {db : AcademicDb} {sitting : Sitting} {clause : Option (List String)}
  {studentId subjectId : String}

theorem addSheet_of_not_entered {named : NamedSheet} (h : named.entered = false)
    (rows : List SubjectScores) : addSheet db rows named = rows := by
  simp only [NamedSheet.entered] at h
  simp only [addSheet]
  rw [Option.isSome_eq_false_iff, Option.isNone_iff_eq_none] at h
  rw [h]

theorem add_subjectId (row : SubjectScores) (key : String) (score : Option ℚ) :
    (row.add key score).subjectId = row.subjectId := by
  cases score with
  | none =>
    unfold SubjectScores.add
    dsimp only
    split
    · rfl
    · rfl
  | some s => rfl

/-- A sheet that is entered adds its subject. -/
theorem subjects_addSheet {named : NamedSheet} (h : named.entered = true)
    (rows : List SubjectScores) :
    subjectId ∈ (addSheet db rows named).map (·.subjectId)
      ↔ subjectId ∈ rows.map (·.subjectId) ∨ named.sheet.subjectId = subjectId := by
  obtain ⟨categoryName, hname⟩ := Option.isSome_iff_exists.1 h
  have hmap : ∀ (key : String) (rows : List SubjectScores),
      (rows.map fun row =>
        if row.subjectId = named.sheet.subjectId then row.add key named.sheet.studentScore
        else row).map (·.subjectId) = rows.map (·.subjectId) := by
    intro key rows
    rw [List.map_map]
    refine List.map_congr_left fun row _ => ?_
    rw [Function.comp_apply]
    split
    · exact add_subjectId row key named.sheet.studentScore
    · rfl
  simp only [addSheet, hname, hmap]
  by_cases hany : rows.any (fun row => row.subjectId = named.sheet.subjectId) = true
  · rw [if_pos hany]
    refine ⟨Or.inl, ?_⟩
    rintro (hmem | rfl)
    · exact hmem
    obtain ⟨row, hrow, heq⟩ := List.any_eq_true.1 hany
    exact List.mem_map.2 ⟨row, hrow, of_decide_eq_true heq⟩
  rw [if_neg hany, List.map_append, List.mem_append, List.map_singleton, List.mem_singleton,
    eq_comm (a := subjectId)]

/-- The sheets that are entered add their subjects. -/
theorem subjects_foldl_addSheet (sheets : List NamedSheet) (rows : List SubjectScores) :
    subjectId ∈ (sheets.foldl (addSheet db) rows).map (·.subjectId)
      ↔ subjectId ∈ rows.map (·.subjectId)
        ∨ ∃ named ∈ sheets, named.entered = true ∧ named.sheet.subjectId = subjectId := by
  induction sheets generalizing rows with
  | nil => simp
  | cons named sheets ih =>
    rw [List.foldl_cons, ih, List.exists_mem_cons_iff]
    cases hentered : named.entered with
    | true => rw [subjects_addSheet hentered]; simp [or_assoc]
    | false => rw [addSheet_of_not_entered hentered]; simp

/-- The sheets that are not entered can be left out. -/
theorem foldl_addSheet_entered (sheets : List NamedSheet) (rows : List SubjectScores) :
    sheets.foldl (addSheet db) rows
      = (sheets.filter NamedSheet.entered).foldl (addSheet db) rows := by
  induction sheets generalizing rows with
  | nil => rfl
  | cons named sheets ih =>
    cases hentered : named.entered with
    | true => rw [List.filter_cons_of_pos hentered, List.foldl_cons, List.foldl_cons, ih]
    | false =>
      rw [List.filter_cons_of_neg (by simp [hentered]), List.foldl_cons, ih,
        addSheet_of_not_entered hentered]

theorem mem_orderedSheets {named : NamedSheet} :
    named ∈ orderedSheets env db ↔ ∃ sheet ∈ db.scoreSheets, nameSheet db sheet = named := by
  rw [orderedSheets, (List.perm_insertionSort _ _).mem_iff, List.mem_map]

/-- The subjects of a preview are those that it shows. -/
theorem mem_studentScoreSheet (env : AcademicEnv) :
    subjectId ∈ (studentScoreSheet env sitting clause studentId db).map (·.subjectId)
      ↔ Shows sitting clause studentId subjectId db := by
  rw [studentScoreSheet, subjects_foldl_addSheet]
  simp only [List.map_nil, List.not_mem_nil, false_or, List.mem_filter, Bool.and_eq_true,
    mem_orderedSheets]
  constructor
  · rintro ⟨named, ⟨⟨sheet, hsheet, rfl⟩, hholds, hpasses⟩, hentered, hsubject⟩
    exact ⟨sheet, hsheet, hholds, hentered, hsubject, hsubject ▸ hpasses⟩
  rintro ⟨sheet, hsheet, hholds, hentered, rfl, hpasses⟩
  exact ⟨nameSheet db sheet, ⟨⟨sheet, hsheet, rfl⟩, hholds, hpasses⟩, hentered, rfl⟩

theorem studentScoreSheet_eq :
    studentScoreSheet env sitting clause studentId db
      = ((orderedSheets env db).filter fun named =>
          named.entered && (sitting.holds studentId named.sheet
            && passes clause named.sheet.subjectId)).foldl (addSheet db) [] := by
  rw [studentScoreSheet, foldl_addSheet_entered, List.filter_filter]
  rfl

/-- **Previews that show the same subjects show the same scores.** -/
theorem studentScoreSheet_congr {clause' : Option (List String)}
    (h : ∀ subjectId, Shows sitting clause studentId subjectId db
      ↔ Shows sitting clause' studentId subjectId db) :
    studentScoreSheet env sitting clause studentId db
      = studentScoreSheet env sitting clause' studentId db := by
  rw [studentScoreSheet_eq, studentScoreSheet_eq]
  congr 1
  refine List.filter_congr fun named hnamed => ?_
  obtain ⟨sheet, hsheet, rfl⟩ := mem_orderedSheets.1 hnamed
  by_cases hshown : (nameSheet db sheet).entered = true ∧ sitting.holds studentId sheet = true
  · obtain ⟨hentered, hholds⟩ := hshown
    -- the sheet itself makes its subject a shown one, for whoever may see the subject
    have hclause : ∀ clause, passes clause sheet.subjectId = true
        ↔ Shows sitting clause studentId sheet.subjectId db := by
      intro clause
      constructor
      · intro hpasses
        exact ⟨sheet, hsheet, hholds, hentered, rfl, hpasses⟩
      rintro ⟨_, _, _, _, _, hpasses⟩
      exact hpasses
    have hsame : passes clause sheet.subjectId = passes clause' sheet.subjectId := by
      rw [Bool.eq_iff_iff, hclause, hclause]
      exact h sheet.subjectId
    simp only [nameSheet, hsame]
  have hleft : ∀ clause, ((nameSheet db sheet).entered && (sitting.holds studentId sheet
      && passes clause sheet.subjectId)) = false := by
    intro clause
    rw [← Bool.and_assoc, Bool.and_eq_false_iff]
    left
    rwa [Bool.eq_false_iff, ne_eq, Bool.and_eq_true]
  exact (hleft clause).trans (hleft clause').symm

/-! ## What a request stores -/

/-- The row is the student's result of the class and the term. -/
def GeneratedResult.isOf (sitting : Sitting) (studentId : String) (row : GeneratedResult) : Bool :=
  row.studentId = studentId && row.classId = sitting.classId
    && row.sessionId = sitting.sessionId && row.termId = sitting.termId

/-- The records of the student's result of the class and the term. -/
def storedRecords (sitting : Sitting) (studentId : String) (db : AcademicDb) :
    List SubjectRecord :=
  ((db.generatedResults.find? (GeneratedResult.isOf sitting studentId)).map
    (·.studentSubjectRecords)).getD []

def storedSubjects (sitting : Sitting) (studentId : String) (db : AcademicDb) : List String :=
  (storedRecords sitting studentId db).map (·.subjectId)

/-- A teacher's request to generate the result of a student. -/
structure GenerateCall where
  actorUserId : String
  studentId : String
  deriving DecidableEq

/-- One request of the class and the term. -/
def generateStep (env : AcademicEnv) (sitting : Sitting) (call : GenerateCall)
    (db : AcademicDb) : AcademicDb :=
  academicStep env (.generateScoreSheetResult call.actorUserId call.studentId sitting) db

def callerClause (actorUserId : String) (db : AcademicDb) : Option (List String) :=
  subjectClause actorUserId (rolesOf actorUserId db) db

/-- The request is not refused. -/
def Generates (env : AcademicEnv) (sitting : Sitting) (call : GenerateCall) (db : AcademicDb) :
    Prop :=
  (generatedRow env call.actorUserId call.studentId sitting db).isOk = true
    ∧ isReleased sitting call.studentId db = false

instance (env : AcademicEnv) (sitting : Sitting) (call : GenerateCall) (db : AcademicDb) :
    Decidable (Generates env sitting call db) := inferInstanceAs (Decidable (_ ∧ _))

/-- The records the caller generates for the student. -/
def newRecords (env : AcademicEnv) (sitting : Sitting) (call : GenerateCall) (db : AcademicDb) :
    List SubjectRecord :=
  subjectRecords env sitting call.studentId
    (studentScoreSheet env sitting (callerClause call.actorUserId db) call.studentId db) db

variable {call : GenerateCall} {row : GeneratedResult}

theorem getUserRoles_eq_ok {userId : String} {roles : List Role}
    (h : getUserRoles userId db = .ok roles) : rolesOf userId db = roles := by
  simp only [getUserRoles] at h
  cases huser : findUser userId db with
  | none => rw [huser] at h; cases h
  | some user =>
    rw [huser] at h
    cases h
    rw [rolesOf, huser]
    rfl

/-- A row of a preview shows what the caller may see of its student. -/
theorem mem_preview {actorUserId : String} {preview : List PreviewRow} {raw : PreviewRow}
    (h : previewScoreSheets env actorUserId sitting true db = .ok preview)
    (hraw : raw ∈ preview) :
    raw.studentScoreSheet
      = studentScoreSheet env sitting (callerClause actorUserId db) raw.studentId db := by
  simp only [previewScoreSheets] at h
  obtain ⟨roles, hroles, h⟩ := bind_eq_ok.1 h
  obtain ⟨-, h⟩ := check_eq_ok.1 h
  obtain ⟨_, -, h⟩ := bind_eq_ok.1 h
  obtain ⟨-, h⟩ := check_eq_ok.1 h
  cases hclass : findClass sitting.classId db with
  | none =>
    rw [hclass] at h
    cases h
    exact absurd hraw List.not_mem_nil
  | some cls =>
    rw [hclass] at h
    cases h
    obtain ⟨student, -, rfl⟩ := List.mem_map.1 hraw
    rw [callerClause, getUserRoles_eq_ok hroles]
    rfl

/-- What is generated is a pending result of the class and the term. -/
theorem generatedRow_spec
    (h : generatedRow env call.actorUserId call.studentId sitting db = .ok row) :
    row.studentSubjectRecords = newRecords env sitting call db
      ∧ row.releaseStatus = .pending ∧ row.studentId = call.studentId
      ∧ row.classId = sitting.classId ∧ row.sessionId = sitting.sessionId
      ∧ row.termId = sitting.termId := by
  simp only [generatedRow] at h
  obtain ⟨roles, hroles, h⟩ := bind_eq_ok.1 h
  obtain ⟨-, h⟩ := check_eq_ok.1 h
  obtain ⟨_, -, h⟩ := bind_eq_ok.1 h
  obtain ⟨_, -, h⟩ := bind_eq_ok.1 h
  obtain ⟨-, h⟩ := check_eq_ok.1 h
  obtain ⟨preview, hpreview, h⟩ := bind_eq_ok.1 h
  cases hfind : (preview.find? fun row => row.studentId = call.studentId).filter
      fun row => !row.studentScoreSheet.isEmpty with
  | none => rw [hfind] at h; cases h
  | some raw =>
    rw [hfind] at h
    cases h
    obtain ⟨hfound, -⟩ := Option.filter_eq_some_iff.1 hfind
    have hstudent : raw.studentId = call.studentId := by
      simpa using List.find?_some hfound
    have hsheet := mem_preview hpreview (List.mem_of_find?_eq_some hfound)
    refine ⟨?_, rfl, rfl, rfl, rfl, rfl⟩
    rw [newRecords, ← hstudent, ← hsheet]

/-! ## The stored results -/

theorem isOf_of_ne {sitting' : Sitting} {studentId' : String}
    (hne : studentId' ≠ studentId ∨ sitting'.termId ≠ sitting.termId)
    (h : row.isOf sitting studentId = true) : row.isOf sitting' studentId' = false := by
  simp only [GeneratedResult.isOf] at h ⊢
  simp only [Bool.and_eq_true, decide_eq_true_eq] at h
  obtain ⟨⟨⟨hstudent, -⟩, -⟩, hterm⟩ := h
  rcases hne with hne | hne
  · simp [hstudent, hne.symm]
  · simp [hterm, hne.symm]

theorem findGenerated_bind (sitting : Sitting) (studentId : String) (db : AcademicDb) :
    ((findGenerated sitting studentId db).bind fun id => db.generatedResults[id]?)
      = db.generatedResults.find? (GeneratedResult.isOf sitting studentId) :=
  Table.first?_bind db.generatedResults _

theorem isReleased_eq :
    isReleased sitting studentId db
      = (db.generatedResults.find? (GeneratedResult.isOf sitting studentId)).any
          fun row => row.releaseStatus = .approved := by
  rw [← findGenerated_bind, isReleased]
  cases findGenerated sitting studentId db with
  | none => rfl
  | some id => rfl

theorem previousRecord_eq (termId : String) :
    previousRecord sitting studentId termId subjectId db
      = (storedRecords { sitting with termId } studentId db).reverse.find?
          fun record => record.subjectId = subjectId := by
  rw [previousRecord, ← Option.bind_assoc, findGenerated_bind, storedRecords]
  cases db.generatedResults.find? (GeneratedResult.isOf { sitting with termId } studentId) with
  | none => rfl
  | some row => rfl

theorem putGenerated_eq (sitting : Sitting) (studentId : String) (row : GeneratedResult)
    (db : AcademicDb) :
    putGenerated sitting studentId row db
      = { db with
          generatedResults := db.generatedResults.upsert (GeneratedResult.isOf sitting studentId)
            row } := by
  have hfirst : findGenerated sitting studentId db
      = db.generatedResults.first? (GeneratedResult.isOf sitting studentId) := rfl
  rw [putGenerated, hfirst, Table.upsert]
  cases db.generatedResults.first? (GeneratedResult.isOf sitting studentId) with
  | none => rfl
  | some id => rfl

/-- **One request.**  It is refused and writes nothing, or it puts a pending result of the
student in the place of the one that is stored. -/
theorem generateStep_cases (env : AcademicEnv) (sitting : Sitting) (call : GenerateCall)
    (db : AcademicDb) :
    (¬ Generates env sitting call db ∧ generateStep env sitting call db = db)
      ∨ (Generates env sitting call db ∧ ∃ row results,
          row.isOf sitting call.studentId = true
            ∧ row.studentSubjectRecords = newRecords env sitting call db
            ∧ row.releaseStatus = .pending
            ∧ generateStep env sitting call db
              = { db with
                  generatedResults := db.generatedResults.upsert
                    (GeneratedResult.isOf sitting call.studentId) row
                  results }) := by
  have hstep : generateStep env sitting call db
      = written db (generateScoreSheetResult env call.actorUserId call.studentId sitting db) := rfl
  rw [generateScoreSheetResult_eq] at hstep
  simp only [Generates]
  cases hrow : generatedRow env call.actorUserId call.studentId sitting db with
  | error error =>
    rw [hrow] at hstep
    exact Or.inl ⟨by rintro ⟨⟨⟩, -⟩, hstep⟩
  | ok row =>
    rw [hrow] at hstep
    cases hreleased : isReleased sitting call.studentId db with
    | true =>
      rw [hreleased] at hstep
      exact Or.inl ⟨by rintro ⟨-, ⟨⟩⟩, hstep⟩
    | false =>
      simp only [hreleased, Bool.false_eq_true, if_false, putGenerated_eq] at hstep
      obtain ⟨hrecords, hpending, hstudent, hclass, hsession, hterm⟩ := generatedRow_spec hrow
      have hisOf : row.isOf sitting call.studentId = true := by
        simp [GeneratedResult.isOf, hstudent, hclass, hsession, hterm]
      exact Or.inr ⟨⟨rfl, rfl⟩, row, _, hisOf, hrecords, hpending, hstep⟩

/-! ## Requests do not disturb one another -/

/-- The tables differ in the results of the class and the term, and those are as much
released. -/
structure Alike (sitting : Sitting) (db db' : AcademicDb) : Prop where
  tables : ∃ generatedResults results, db' = { db with generatedResults, results }
  others : ∀ termId, termId ≠ sitting.termId → ∀ studentId,
    storedRecords { sitting with termId } studentId db'
      = storedRecords { sitting with termId } studentId db
  released : ∀ studentId, isReleased sitting studentId db' = isReleased sitting studentId db

theorem Alike.refl (sitting : Sitting) (db : AcademicDb) : Alike sitting db db :=
  ⟨⟨_, _, rfl⟩, fun _ _ _ => rfl, fun _ => rfl⟩

/-- The terms before the term are other terms. -/
theorem ne_of_mem_previousTerms {term : Term} (h : term ∈ previousTerms sitting db) :
    term.id ≠ sitting.termId := by
  simp only [previousTerms] at h
  cases hidx : (sessionTerms sitting.sessionId db).findIdx? fun row => row.id = sitting.termId with
  | none =>
    rw [hidx, Option.getD_none, List.take_zero] at h
    exact absurd h List.not_mem_nil
  | some k =>
    rw [hidx, Option.getD_some] at h
    obtain ⟨i, hi, rfl⟩ := List.mem_take_iff_getElem.1 h
    obtain ⟨_, _, hbefore⟩ := List.findIdx?_eq_some_iff_getElem.1 hidx
    simpa using hbefore i (by omega)

variable {db' : AcademicDb}

/-- A request sees no difference between such tables. -/
theorem Alike.generatedRow_eq (h : Alike sitting db db')
    (actorUserId studentId : String) :
    generatedRow env actorUserId studentId sitting db'
      = generatedRow env actorUserId studentId sitting db := by
  have hrecords : ∀ scores, subjectRecords env sitting studentId scores db'
      = subjectRecords env sitting studentId scores db := by
    intro scores
    have hprevious : previousTerms sitting db' = previousTerms sitting db := by
      obtain ⟨generatedResults, results, rfl⟩ := h.tables
      rfl
    simp only [subjectRecords]
    rw [hprevious]
    refine List.map_congr_left fun subject _ => ?_
    congr 1
    refine List.map_congr_left fun term hterm => ?_
    rw [previousRecord_eq, previousRecord_eq, h.others _ (ne_of_mem_previousTerms hterm)]
  obtain ⟨generatedResults, results, rfl⟩ := h.tables
  simp only [generatedRow, hrecords]
  rfl

theorem Alike.generates (h : Alike sitting db db') (call : GenerateCall) :
    Generates env sitting call db' ↔ Generates env sitting call db := by
  simp only [Generates]
  rw [h.generatedRow_eq, h.released]

/-- What a request stores does not depend on what was generated. -/
theorem Alike.newRecords_eq (h : Alike sitting db db')
    (hgenerates : Generates env sitting call db) :
    newRecords env sitting call db' = newRecords env sitting call db := by
  cases hrow : generatedRow env call.actorUserId call.studentId sitting db with
  | error error =>
    rw [Generates, hrow] at hgenerates
    cases hgenerates.1
  | ok row =>
    have hrow' := (h.generatedRow_eq call.actorUserId call.studentId).trans hrow
    rw [← (generatedRow_spec hrow').1, ← (generatedRow_spec hrow).1]

/-- The memory cell a request overwrites. -/
def stores (env : AcademicEnv) (sitting : Sitting) (db : AcademicDb) (call : GenerateCall) :
    Option (String × List SubjectRecord) :=
  if Generates env sitting call db then
    some (call.studentId, newRecords env sitting call db)
  else none

/-- **One request overwrites the student's records.** -/
theorem storedRecords_step (h : Alike sitting db db') (call : GenerateCall)
    (studentId : String) :
    storedRecords sitting studentId (generateStep env sitting call db')
      = write (stores env sitting db) call (fun id => storedRecords sitting id db') studentId := by
  rcases generateStep_cases env sitting call db' with
    ⟨hrefused, hstep⟩ | ⟨hgenerates, row, results, hisOf, hrecords, -, hstep⟩
  · have hnone : stores env sitting db call = none := by
      rw [stores, if_neg fun hg => hrefused ((h.generates call).2 hg)]
    rw [write_of_ne (by simp [hnone]), hstep]
  have hgenerates' : Generates env sitting call db := (h.generates call).1 hgenerates
  have hsome : stores env sitting db call
      = some (call.studentId, newRecords env sitting call db) := by
    rw [stores, if_pos hgenerates']
  by_cases hstudent : studentId = call.studentId
  · subst hstudent
    rw [write_self hsome, hstep, storedRecords, Table.find?_upsert_self _ hisOf,
      ← h.newRecords_eq hgenerates', ← hrecords]
    rfl
  have hother : ∀ records, stores env sitting db call ≠ some (studentId, records) := by
    intro records
    rw [hsome, ne_eq, Option.some.injEq, Prod.mk.injEq]
    exact fun heq => hstudent heq.1.symm
  rw [write_of_ne hother, hstep, storedRecords, Table.find?_upsert_of_disjoint _ _ hisOf]
  · rfl
  intro row' hrow'
  exact isOf_of_ne (Or.inl hstudent) hrow'

/-- A request leaves what other requests read. -/
theorem Alike.step (h : Alike sitting db db') (call : GenerateCall) :
    Alike sitting db (generateStep env sitting call db') := by
  rcases generateStep_cases env sitting call db' with
    ⟨-, hstep⟩ | ⟨hgenerates, row, results, hisOf, -, hpending, hstep⟩
  · rw [hstep]
    exact h
  rw [hstep]
  refine ⟨?_, ?_, ?_⟩
  · obtain ⟨generatedResults, _, rfl⟩ := h.tables
    exact ⟨_, _, rfl⟩
  · intro termId hterm studentId
    rw [← h.others termId hterm, storedRecords, storedRecords,
      Table.find?_upsert_of_disjoint _ _ hisOf]
    intro row' hrow'
    exact isOf_of_ne (Or.inr hterm) hrow'
  intro studentId
  rw [← h.released, isReleased_eq, isReleased_eq]
  by_cases hstudent : studentId = call.studentId
  · subst hstudent
    rw [Table.find?_upsert_self _ hisOf, ← isReleased_eq, hgenerates.2]
    simp [hpending]
  rw [Table.find?_upsert_of_disjoint _ _ hisOf]
  intro row' hrow'
  exact isOf_of_ne (Or.inl hstudent) hrow'

/-- **The stored results are a memory** that the requests overwrite. -/
theorem storedRecords_run (env : AcademicEnv) {db' : AcademicDb} (h : Alike sitting db db')
    (calls : List GenerateCall) (studentId : String) :
    storedRecords sitting studentId (run (generateStep env sitting) db' calls)
      = run (write (stores env sitting db)) (fun id => storedRecords sitting id db') calls
          studentId := by
  induction calls generalizing db' with
  | nil => rfl
  | cons call calls ih =>
    have hcells : (fun id => storedRecords sitting id (generateStep env sitting call db'))
        = write (stores env sitting db) call fun id => storedRecords sitting id db' :=
      funext fun id => storedRecords_step h call id
    rw [run_cons, run_cons, ih (h.step call), hcells]

/-! ## Runs -/

theorem stores_eq_some {records : List SubjectRecord} :
    stores env sitting db call = some (studentId, records)
      ↔ Generates env sitting call db ∧ call.studentId = studentId
        ∧ newRecords env sitting call db = records := by
  simp only [stores]
  split
  · simp [*]
  · simp [*]

theorem mem_newRecords (env : AcademicEnv) :
    subjectId ∈ (newRecords env sitting call db).map (·.subjectId)
      ↔ Shows sitting (callerClause call.actorUserId db) call.studentId subjectId db := by
  rw [← mem_studentScoreSheet env, newRecords, subjectRecords, List.map_map]
  rfl

theorem newRecords_eq_iff {call' : GenerateCall} (hstudent : call'.studentId = call.studentId) :
    newRecords env sitting call' db = newRecords env sitting call db
      ↔ ∀ subjectId, Shows sitting (callerClause call'.actorUserId db) call.studentId subjectId db
          ↔ Shows sitting (callerClause call.actorUserId db) call.studentId subjectId db := by
  constructor
  · intro heq subjectId
    rw [← mem_newRecords env, ← heq, mem_newRecords env, hstudent]
  intro h
  rw [newRecords, newRecords, hstudent, studentScoreSheet_congr h]

/-- No request of the run loses a subject of a student, and what is stored in the end is the
same in every order of the requests. -/
def LosesNothing (env : AcademicEnv) (sitting : Sitting) (db : AcademicDb)
    (calls : List GenerateCall) : Prop :=
  (∀ pre call, pre ++ [call] <+: calls → ∀ studentId,
      storedSubjects sitting studentId (run (generateStep env sitting) db pre)
        ⊆ storedSubjects sitting studentId (run (generateStep env sitting) db (pre ++ [call])))
    ∧ ∀ calls', calls'.Perm calls → ∀ studentId,
        storedRecords sitting studentId (run (generateStep env sitting) db calls')
          = storedRecords sitting studentId (run (generateStep env sitting) db calls)

/-- **Generating results loses no subject, in any order of the requests,** exactly when the
teachers whose requests are accepted show the same subjects of a student, and all subjects
that are stored. -/
theorem generated_kept_iff (env : AcademicEnv) (sitting : Sitting) (db : AcademicDb)
    (calls : List GenerateCall) :
    LosesNothing env sitting db calls
      ↔ ∀ call ∈ calls, Generates env sitting call db →
        (∀ subjectId ∈ storedSubjects sitting call.studentId db,
          Shows sitting (callerClause call.actorUserId db) call.studentId subjectId db)
        ∧ ∀ call' ∈ calls, Generates env sitting call' db → call'.studentId = call.studentId →
          ∀ subjectId, Shows sitting (callerClause call'.actorUserId db) call.studentId subjectId db
            ↔ Shows sitting (callerClause call.actorUserId db) call.studentId subjectId db := by
  have hrun := storedRecords_run env (Alike.refl sitting db)
  simp only [LosesNothing, storedSubjects, hrun]
  have hsub : ∀ records : List SubjectRecord,
      records.map (·.subjectId) ⊆ records.map (·.subjectId) := fun _ => List.Subset.refl _
  have htrans : ∀ a b c : List SubjectRecord, a.map (·.subjectId) ⊆ b.map (·.subjectId) →
      b.map (·.subjectId) ⊆ c.map (·.subjectId) → a.map (·.subjectId) ⊆ c.map (·.subjectId) :=
    fun _ _ _ => List.Subset.trans
  rw [kept_and_order_free_iff hsub htrans]
  simp only [stores_eq_some]
  constructor
  · intro h call hcall hgenerates
    obtain ⟨hkept, hsame⟩ := h call hcall _ _ ⟨hgenerates, rfl, rfl⟩
    constructor
    · intro subjectId hsubject
      exact (mem_newRecords env).1 (hkept hsubject)
    intro call' hcall' hgenerates' hstudent
    exact (newRecords_eq_iff hstudent).1 (hsame call' hcall' _ ⟨hgenerates', hstudent, rfl⟩)
  rintro h call hcall studentId records ⟨hgenerates, rfl, rfl⟩
  obtain ⟨hkept, hsame⟩ := h call hcall hgenerates
  constructor
  · intro subjectId hsubject
    exact (mem_newRecords env).2 (hkept subjectId hsubject)
  rintro call' hcall' records ⟨hgenerates', hstudent, rfl⟩
  exact (newRecords_eq_iff hstudent).2 (hsame call' hcall' hgenerates' hstudent)

/-- A class with a teacher of maths and a teacher of English, a student, and a sheet of each. -/
def twoTeachers : AcademicDb :=
  let sheet (subjectId recorderUserId : String) : ScoreSheet :=
    { sessionId := "session", termId := "term", classId := "class", studentId := "student"
      subjectId, categoryId := "exam", subcategoryId := none, studentScore := some 50
      obtainableScore := 100, grade := some 50, status := .draft, recorderUserId
      recordedBy := recorderUserId }
  { users :=
      [ { id := "ada", name := "Ada", roles := [.subjectTeacher] },
        { id := "ben", name := "Ben", roles := [.subjectTeacher] },
        { id := "student", name := "Student", roles := [.student] } ]
    classes := [ { id := "class", name := "Class", code := "C", schoolLevel := "primary" } ]
    subjects :=
      [ { id := "maths", name := "Maths", schoolLevel := "primary" },
        { id := "english", name := "English", schoolLevel := "primary" } ]
    categories := [ { id := "exam", name := "examination" } ]
    classTeachers :=
      [ { person := "ada", target := "class" }, { person := "ben", target := "class" } ]
    subjectTeachers :=
      [ { person := "ada", target := "maths" }, { person := "ben", target := "english" } ]
    enrollments := [ { person := "student", target := "class" } ]
    scoreSheets := [ sheet "maths" "ada", sheet "english" "ben" ] }

/-- **The second teacher drops the first one's subject.** -/
theorem not_generated_kept :
    storedSubjects { sessionId := "session", termId := "term", classId := "class" } "student"
        (run (generateStep {} { sessionId := "session", termId := "term", classId := "class" })
          twoTeachers [⟨"ada", "student"⟩]) = ["maths"]
      ∧ storedSubjects { sessionId := "session", termId := "term", classId := "class" } "student"
        (run (generateStep {} { sessionId := "session", termId := "term", classId := "class" })
          twoTeachers [⟨"ada", "student"⟩, ⟨"ben", "student"⟩]) = ["english"]
      ∧ ¬ ∀ (env : AcademicEnv) (sitting : Sitting) (db : AcademicDb) (calls : List GenerateCall),
          LosesNothing env sitting db calls := by
  refine ⟨by decide +kernel, by decide +kernel, fun h => ?_⟩
  have hkept := (h {} { sessionId := "session", termId := "term", classId := "class" } twoTeachers
    [⟨"ada", "student"⟩, ⟨"ben", "student"⟩]).1 [⟨"ada", "student"⟩] ⟨"ben", "student"⟩
    (List.prefix_refl _) "student"
  revert hkept
  decide +kernel

end MultiAcademy.School
