import MultiAcademy.Lib.Fallible
import MultiAcademy.School.ScoreSheets

/-!
# Entering and approving results

The requests of `academic/academic.service.ts` that write score sheets and results, one
after another.
-/

namespace MultiAcademy.School

open MultiAcademy.Lib

/-! ## Score sheets -/

/-- `ScoreSheetEntryDto`. -/
structure ScoreSheetEntry where
  id : Option ℕ := none
  studentId : String
  studentScore : Option ℚ
  obtainableScore : ℚ
  deriving DecidableEq

/-- `ScoreSheetBatchDto`. -/
structure ScoreSheetBatch where
  sitting : Sitting
  subjectId : String
  categoryId : String
  subcategoryId : Option String := none
  status : SheetStatus := .draft
  entries : List ScoreSheetEntry
  deriving DecidableEq

def calculateScoreSheetGrade (studentScore : Option ℚ) (obtainableScore : ℚ) : Option ℤ :=
  studentScore.bind fun score =>
    if obtainableScore ≤ 0 then none else some ⌊score / obtainableScore * 100 + 1 / 2⌋

variable (actorUserId recordedBy : String) (batch : ScoreSheetBatch) (entry : ScoreSheetEntry)

def ScoreSheetBatch.selects (sheet : ScoreSheet) : Bool :=
  sheet.sessionId = batch.sitting.sessionId && sheet.termId = batch.sitting.termId
    && sheet.classId = batch.sitting.classId && sheet.subjectId = batch.subjectId
    && sheet.categoryId = batch.categoryId
    && sheet.subcategoryId.getD "" = batch.subcategoryId.getD ""

/-- The ids of the batch read like fields that are missing: `String(undefined)`. -/
def ScoreSheetBatch.readsUndefined : Bool :=
  [batch.sitting.sessionId, batch.sitting.termId, batch.sitting.classId, batch.subjectId,
      batch.categoryId].all (· = "undefined")
    && batch.subcategoryId.getD "" = ""

/-- The checks on the teacher, the category and the subcategory. -/
def checkBatch (actorUserId : String) (batch : ScoreSheetBatch) (db : AcademicDb) :
    Except AcademicError Unit := do
  assertActorSchoolLevel actorUserId (given batch.sitting.classId) (given batch.subjectId) db
  let roles ← getUserRoles actorUserId db
  if .subjectTeacher ∉ roles then
    throw (403, "Only subject teachers can save score sheets")
  assertTeacherMayAccess actorUserId (given batch.sitting.classId) (given batch.subjectId) db
  if (db.categories.any fun row => row.id = batch.categoryId && row.isActive) = false then
    throw (400, "Invalid score category")
  match batch.subcategoryId.filter (· ≠ "") with
  | none => return ()
  | some id =>
    if (db.subcategories.any fun row =>
        row.id = id && row.categoryId = batch.categoryId && row.isActive) = false then
      throw (400, "Invalid score subcategory")

/-- The sheet an entry is for, or why it may not be saved.  A sheet that is found without
its id is read without its selection, and so is refused under all ids but `undefined`. -/
def checkEntry (db : AcademicDb) :
    Except AcademicError (Option ℕ) := do
  if entry.obtainableScore ≤ 0 then
    throw (400, "Obtainable score must be greater than zero")
  if entry.studentScore.any fun score => score < 0 || entry.obtainableScore < score then
    throw (400, "Student score must be between zero and obtainable score")
  match entry.id with
  | some id =>
    match db.scoreSheets[id]? with
    | none => return none
    | some sheet =>
      if batch.selects sheet = false then
        throw (403, "Score sheet does not belong to this selection")
      if sheet.status = .published then
        throw (403, "Published score sheets cannot be edited")
      return some id
  | none =>
    match db.scoreSheets.first? fun sheet =>
        sheet.studentId = entry.studentId && batch.selects sheet with
    | none => return none
    | some id =>
      if batch.readsUndefined = false then
        throw (403, "Score sheet does not belong to this selection")
      if db.scoreSheets[id]?.any fun sheet => sheet.status = .published then
        throw (403, "Published score sheets cannot be edited")
      return some id

/-- A `varchar` column takes the text. -/
def fitsVarchar (size : ℕ) (text : String) : Bool :=
  text.length ≤ size && text.toList.all fun c => c.toNat ≠ 0

/-- A `decimal(10,2)` column takes the number. -/
def fitsDecimal (x : ℚ) : Bool := |x| < 10 ^ 8

/-- The columns of a new sheet take what is written. -/
def ScoreSheet.fits (sheet : ScoreSheet) : Bool :=
  ([sheet.sessionId, sheet.termId, sheet.classId, sheet.studentId, sheet.subjectId,
      sheet.categoryId, sheet.recorderUserId] ++ sheet.subcategoryId.toList).all (fitsVarchar 64)
    && fitsVarchar 255 sheet.recordedBy

def ScoreSheetEntry.onto (sheet : ScoreSheet) : ScoreSheet :=
  { sheet with
    studentScore := entry.studentScore.map decimal2
    obtainableScore := decimal2 entry.obtainableScore
    grade := calculateScoreSheetGrade entry.studentScore entry.obtainableScore
    status := batch.status
    recorderUserId := actorUserId
    recordedBy }

def ScoreSheetEntry.newSheet : ScoreSheet :=
  { sessionId := batch.sitting.sessionId
    termId := batch.sitting.termId
    classId := batch.sitting.classId
    studentId := entry.studentId
    subjectId := batch.subjectId
    categoryId := batch.categoryId
    subcategoryId := batch.subcategoryId.filter (· ≠ "")
    studentScore := entry.studentScore.map decimal2
    obtainableScore := decimal2 entry.obtainableScore
    grade := calculateScoreSheetGrade entry.studentScore entry.obtainableScore
    status := batch.status
    recorderUserId := actorUserId
    recordedBy }

def saveEntry (db : AcademicDb) : Except AcademicError AcademicDb := do
  let existing ← checkEntry batch entry db
  let sheet := entry.newSheet actorUserId recordedBy batch
  if !(fitsDecimal sheet.obtainableScore && sheet.studentScore.all fitsDecimal) then
    throw (500, "Internal server error")
  match existing with
  | some id =>
    return { db with
      scoreSheets := db.scoreSheets.modify id (entry.onto actorUserId recordedBy batch) }
  | none =>
    if !sheet.fits then throw (500, "Internal server error")
    return { db with scoreSheets := db.scoreSheets.insert sheet }

def saveEntries (actorUserId recordedBy : String) (batch : ScoreSheetBatch) :
    List ScoreSheetEntry → AcademicDb → AcademicDb
  | [], db => db
  | entry :: entries, db =>
    match saveEntry actorUserId recordedBy batch entry db with
    | .ok written => saveEntries actorUserId recordedBy batch entries written
    | .error _ => db

/-- `saveScoreSheetBatch`: what it leaves. -/
def saveScoreSheetBatch (actorUserId : String) (batch : ScoreSheetBatch) (db : AcademicDb) :
    AcademicDb :=
  match checkBatch actorUserId batch db with
  | .error _ => db
  | .ok _ =>
    let recordedBy := (((findUser actorUserId db).map (·.name)).filter (· ≠ "")).getD actorUserId
    saveEntries actorUserId recordedBy batch batch.entries db

theorem saveEntry_frame {actorUserId recordedBy : String} {batch : ScoreSheetBatch}
    {entry : ScoreSheetEntry} {db db' : AcademicDb}
    (h : saveEntry actorUserId recordedBy batch entry db = .ok db') :
    ∃ scoreSheets, db' = { db with scoreSheets } := by
  obtain ⟨existing, -, h⟩ := bind_eq_ok.1 h
  obtain ⟨-, h⟩ := check_eq_ok.1 h
  cases existing with
  | some id => exact ⟨_, (Except.ok.inj h).symm⟩
  | none => exact ⟨_, (Except.ok.inj (check_eq_ok.1 h).2).symm⟩

theorem saveEntries_frame
    (entries : List ScoreSheetEntry) (db : AcademicDb) :
    ∃ scoreSheets,
      saveEntries actorUserId recordedBy batch entries db = { db with scoreSheets } := by
  induction entries generalizing db with
  | nil => exact ⟨db.scoreSheets, rfl⟩
  | cons entry entries ih =>
    rw [saveEntries]
    cases hsave : saveEntry actorUserId recordedBy batch entry db with
    | error error => exact ⟨db.scoreSheets, rfl⟩
    | ok written =>
      obtain ⟨scoreSheets, rfl⟩ := saveEntry_frame hsave
      exact ih _

theorem saveScoreSheetBatch_frame (db : AcademicDb) (actorUserId : String)
    (batch : ScoreSheetBatch) :
    ∃ scoreSheets, saveScoreSheetBatch actorUserId batch db = { db with scoreSheets } := by
  simp only [saveScoreSheetBatch]
  split
  · exact ⟨db.scoreSheets, rfl⟩
  · exact saveEntries_frame _ _ _ _ db

/-! ## Results by hand -/

/-- `UpsertResultDto` and `UpdateResultDto`, which let no status `approved` pass.  Where two
options are nested, the outer `none` is a field that is not sent and the inner one `null`. -/
structure ResultBody where
  studentId : Option (Option String) := none
  classId : Option String := none
  subjectId : Option String := none
  termId : Option String := none
  caScore : Option (Option ℚ) := none
  examScore : Option (Option ℚ) := none
  totalScore : Option (Option ℚ) := none
  grade : Option (Option String) := none
  /-- Submitted, and not a draft. -/
  submitted : Option Bool := none
  deriving DecidableEq

def ResultBody.requestedStatus (body : ResultBody) : Option ResultStatus :=
  body.submitted.map fun submitted => if submitted then .submitted else .draft

/-- `getRowOrThrow`. -/
def getResult (id : ℕ) (db : AcademicDb) : Except AcademicError Result :=
  match db.results[id]?.join with
  | none => .error (404, "Result not found")
  | some result => .ok result

/-- The checks of `upsertResult`, and the row to edit. -/
def checkUpsert (actorUserId : String) (id : Option ℕ) (body : ResultBody) (db : AcademicDb) :
    Except AcademicError (Option Result) := do
  assertActorSchoolLevel actorUserId body.classId body.subjectId db
  let existing ← match id with
    | none => pure none
    | some id => some <$> getResult id db
  assertTeacherMayAccess actorUserId (body.classId.or (existing.map (·.classId)))
    (body.subjectId.or (existing.map (·.subjectId))) db
  return existing

/-- The row `upsertResult` inserts. -/
def ResultBody.create (body : ResultBody) (matrix : Option GradingMatrix) : Result :=
  let caScore := body.caScore.join
  let examScore := body.examScore.join
  let computed :=
    if caScore.isSome || examScore.isSome then computeTotal matrix caScore examScore
    else (none, none)
  let ownGrade := body.grade.join.filter (· ≠ "")
  { studentId := body.studentId.join.filter (· ≠ "")
    classId := body.classId.getD ""
    subjectId := body.subjectId.getD ""
    termId := body.termId.getD ""
    caScore := caScore.map decimal2
    examScore := examScore.map decimal2
    totalScore := (body.totalScore.getD computed.1).map decimal2
    grade := ownGrade.or (computed.2.filter (· ≠ ""))
    status := body.requestedStatus.getD .draft }

/-- The row `upsertResult` makes of one that is there. -/
def ResultBody.merge (body : ResultBody) (matrix : Option GradingMatrix) (existing : Result) :
    Result :=
  let caScore := body.caScore.getD existing.caScore
  let examScore := body.examScore.getD existing.examScore
  let computed :=
    if (body.caScore.isSome || body.examScore.isSome) && body.totalScore.isNone then
      computeTotal matrix caScore examScore
    else (none, none)
  let ownGrade := body.grade.join.filter (· ≠ "")
  { existing with
    studentId := (body.studentId.getD existing.studentId).filter (· ≠ "")
    classId := body.classId.getD existing.classId
    subjectId := body.subjectId.getD existing.subjectId
    termId := body.termId.getD existing.termId
    caScore := caScore.map decimal2
    examScore := examScore.map decimal2
    totalScore := (computed.1.or (body.totalScore.getD existing.totalScore)).map decimal2
    grade := (ownGrade.or ((computed.2.filter (· ≠ "")).or
      (body.grade.getD existing.grade))).filter (· ≠ "")
    status := body.requestedStatus.getD existing.status }

/-- `ensureStudentClassEnrollment`. -/
def ensureEnrollment (studentId : Option String) (classId : String) (db : AcademicDb) :
    AcademicDb :=
  match studentId with
  | none => db
  | some person =>
    if classId = "" then db
    else if db.enrollments.any fun row => row.person = person && row.target = classId then db
    else { db with enrollments := db.enrollments ++ [{ person, target := classId }] }

def upsertResult (env : AcademicEnv) (actorUserId : String) (id : Option ℕ) (body : ResultBody)
    (db : AcademicDb) : Except AcademicError AcademicDb := do
  let existing ← checkUpsert actorUserId id body db
  match id, existing with
  | some id, some result =>
    let merged := body.merge env.matrix result
    return ensureEnrollment merged.studentId merged.classId
      { db with results := db.results.modify id fun _ => some merged }
  | _, _ =>
    let row := body.create env.matrix
    return ensureEnrollment row.studentId row.classId
      { db with results := db.results.insert (some row) }

/-! ## Approval -/

def approveResult (id : ℕ) (approverId comment : Option String) (db : AcademicDb) :
    Except AcademicError AcademicDb := do
  let existing ← getResult id db
  if existing.status = .approved then return db
  else
    return { db with
      results := db.results.modify id fun row => row.map fun result =>
        { result with
          status := .approved
          approvalComment := (comment.map trim).filter (· ≠ "")
          approvedBy := approverId } }

/-- `ApproveResultsBatchDto`. -/
structure ApprovalFilter where
  studentId : Option String := none
  classId : Option String := none
  termId : Option String := none
  deriving DecidableEq

/-- Draft and submitted results of the filter. -/
def ApprovalFilter.selects (filter : ApprovalFilter) (result : Result) : Bool :=
  result.status ≠ .approved
    && (filter.studentId.filter (· ≠ "")).all (fun id => result.studentId = some id)
    && (filter.classId.filter (· ≠ "")).all (fun id => result.classId = id)
    && (filter.termId.filter (· ≠ "")).all (fun id => result.termId = id)

def approveResultsBatch (filter : ApprovalFilter) (db : AcademicDb) :
    Except AcademicError AcademicDb :=
  if [filter.studentId, filter.classId, filter.termId].all fun id => id.getD "" = "" then
    .error (400, "Provide at least one of studentId, classId, or termId")
  else
    .ok { db with
      results := db.results.updateWhere (fun row => row.any filter.selects) fun row =>
        row.map fun result => { result with status := .approved } }

def deleteResult (id : ℕ) (db : AcademicDb) : AcademicDb :=
  { db with results := db.results.modify id fun _ => none }

def releaseGeneratedResult (actorUserId : String) (id : ℕ) (db : AcademicDb) :
    Except AcademicError AcademicDb := do
  let roles ← getUserRoles actorUserId db
  if hasAcademicManagementRole roles = false then
    throw (403, "Only academic management roles can release results")
  match db.generatedResults[id]? with
  | none => throw (404, "Generated result not found")
  | some row =>
    if row.releaseStatus = .approved then return db
    else
      return { db with
        generatedResults := db.generatedResults.modify id fun row =>
          { row with
            releaseStatus := .approved
            approvedBy :=
              some ((((findUser actorUserId db).map (·.name)).filter (· ≠ "")).getD
                actorUserId) } }

/-! ## One request after another -/

/-- A request. -/
inductive AcademicEvent
  | saveScoreSheetBatch (actorUserId : String) (batch : ScoreSheetBatch)
  | generateScoreSheetResult (actorUserId studentId : String) (sitting : Sitting)
  | upsertResult (actorUserId : String) (id : Option ℕ) (body : ResultBody)
  | approveResult (id : ℕ) (approverId comment : Option String)
  | approveResultsBatch (filter : ApprovalFilter)
  | deleteResult (id : ℕ)
  | releaseGeneratedResult (actorUserId : String) (id : ℕ)
  deriving DecidableEq

def written (db : AcademicDb) : Except AcademicError AcademicDb → AcademicDb
  | .ok db' => db'
  | .error _ => db

/-- One request, from its start to its end. -/
def academicStep (env : AcademicEnv) (e : AcademicEvent) (db : AcademicDb) : AcademicDb :=
  match e with
  | .saveScoreSheetBatch actorUserId batch => saveScoreSheetBatch actorUserId batch db
  | .generateScoreSheetResult actorUserId studentId sitting =>
    written db (generateScoreSheetResult env actorUserId studentId sitting db)
  | .upsertResult actorUserId id body => written db (upsertResult env actorUserId id body db)
  | .approveResult id approverId comment =>
    written db (approveResult id approverId comment db)
  | .approveResultsBatch filter => written db (approveResultsBatch filter db)
  | .deleteResult id => deleteResult id db
  | .releaseGeneratedResult actorUserId id =>
    written db (releaseGeneratedResult actorUserId id db)

end MultiAcademy.School
