import MultiAcademy.Lib.OrderedMap
import MultiAcademy.School.AcademicTables
import MultiAcademy.School.Grading

/-!
# Score sheets and results

`academic/academic.service.ts`: the score sheets of a class are added up for a teacher, and a
student's result is generated from what the teacher sees.  Scores are rationals; the columns
keep two decimals.
-/

namespace MultiAcademy.School

open MultiAcademy.Lib

/-- What the requests read besides the tables: the grading matrix, when the feature is on,
and how the database compares names. -/
structure AcademicEnv where
  matrix : Option GradingMatrix := none
  before : String → String → Bool := fun a b => a < b

def given (id : String) : Option String := if id = "" then none else some id

/-- What a `decimal(10,2)` column keeps of a number. -/
def decimal2 (x : ℚ) : ℚ :=
  if 0 ≤ x then (⌊x * 100 + 1 / 2⌋ : ℚ) / 100 else -((⌊-x * 100 + 1 / 2⌋ : ℚ) / 100)

/-! ## Previews -/

structure SubjectScores where
  subjectId : String
  subjectName : Option String
  totalScore : ℚ := 0
  scores : OrderedMap String (Option ℚ) := .empty

structure PreviewRow where
  studentId : String
  studentName : String
  studentGender : Option String
  studentSchoolLevel : String
  studentClassName : String
  studentClassCode : String
  studentClassTeacherId : Option String
  studentClassTeacherName : Option String
  studentAcademicSession : Option String
  studentTerm : Option String
  studentScoreSheet : List SubjectScores

/-- A class and a term of a session. -/
structure Sitting where
  sessionId : String
  termId : String
  classId : String
  deriving DecidableEq

def keyChar (c : Char) : Bool := c.isLower || c.isDigit

/-- `replace(/[^a-z0-9]+/g, '_')`. -/
def squeeze : List Char → List Char
  | [] => []
  | c :: cs =>
    if keyChar c then c :: squeeze cs
    else match squeeze cs with
      | '_' :: rest => '_' :: rest
      | rest => '_' :: rest

def scoreKey (name : String) : String :=
  String.ofList (squeeze ((trim name).toList.map Char.toLower))

structure NamedSheet where
  sheet : ScoreSheet
  categoryName : Option String
  subcategoryName : Option String

def nameSheet (db : AcademicDb) (sheet : ScoreSheet) : NamedSheet :=
  let categoryName := (db.categories.find? fun row => row.id = sheet.categoryId).map (·.name)
  let own := sheet.subcategoryId.bind fun id =>
    (db.subcategories.find? fun row => row.id = id).map (·.name)
  { sheet, categoryName, subcategoryName := own.or categoryName }

def nameBefore (before : String → String → Bool) : Option String → Option String → Bool
  | some a, some b => before a b
  | some _, none => true
  | none, _ => false

/-- `ORDER BY sc.name, ssc.name`. -/
def sheetBefore (before : String → String → Bool) (a b : NamedSheet) : Prop :=
  ¬ (nameBefore before b.categoryName a.categoryName
    || (!nameBefore before a.categoryName b.categoryName
      && nameBefore before b.subcategoryName a.subcategoryName))

instance (before : String → String → Bool) (a b : NamedSheet) :
    Decidable (sheetBefore before a b) := inferInstanceAs (Decidable (¬ _))

variable (env : AcademicEnv) (sitting : Sitting) (studentId : String)

/-- All score sheets in the order of the preview; to sort them first and select them then is
to select them and sort them. -/
def orderedSheets (db : AcademicDb) : List NamedSheet :=
  (db.scoreSheets.map (nameSheet db)).insertionSort (sheetBefore env.before)

/-- The sheet belongs to the student in the class and the term. -/
def Sitting.holds (sheet : ScoreSheet) : Bool :=
  sheet.studentId = studentId && sheet.classId = sitting.classId
    && sheet.sessionId = sitting.sessionId && sheet.termId = sitting.termId

/-- The subjects a preview is narrowed to: those of a subject teacher who is neither a class
teacher nor of the management. -/
def subjectClause (actorUserId : String) (roles : List Role) (db : AcademicDb) :
    Option (List String) :=
  if .subjectTeacher ∈ roles ∧ .classTeacher ∉ roles ∧ hasAcademicManagementRole roles = false then
    some (getTeacherScope actorUserId db).subjectIds
  else none

/-- The keys that every object has already: a score is added to its function `constructor`, which
gives NaN.  Like null, NaN is kept as `none`; both are written as null and add nothing to a sum. -/
def inherited (key : String) : Bool := key = "constructor"

/-- Enter a score under its key. -/
def SubjectScores.add (row : SubjectScores) (key : String) (score : Option ℚ) : SubjectScores :=
  match score with
  | none =>
    if inherited key || (row.scores.get? key).isSome then row
    else { row with scores := row.scores.set key none }
  | some s =>
    let sum := if inherited key then none else some ((row.scores.get? key).join.elim s (· + s))
    { row with scores := row.scores.set key sum, totalScore := row.totalScore + s }

/-- Enter a sheet with the scores of its subject. -/
def addSheet (db : AcademicDb) (rows : List SubjectScores) (named : NamedSheet) :
    List SubjectScores :=
  match named.categoryName.filter (· ≠ "") with
  | none => rows
  | some categoryName =>
    let subjectId := named.sheet.subjectId
    let key := scoreKey ((named.subcategoryName.filter (· ≠ "")).getD categoryName)
    let rows :=
      if rows.any fun row => row.subjectId = subjectId then rows
      else rows ++ [{ subjectId, subjectName := (findSubject subjectId db).map (·.name) }]
    rows.map fun row =>
      if row.subjectId = subjectId then row.add key named.sheet.studentScore else row

def studentScoreSheet (clause : Option (List String))
    (studentId : String) (db : AcademicDb) : List SubjectScores :=
  ((orderedSheets env db).filter fun named =>
    sitting.holds studentId named.sheet
      && clause.all fun subjectIds => named.sheet.subjectId ∈ subjectIds).foldl (addSheet db) []

def scoreSheetReadRoles : List Role :=
  [.subjectTeacher, .headTeacher, .principal, .assistantHeadTeacher]

/-- The row of a student who is enrolled in the class. -/
def previewRow (clause : Option (List String))
    (cls : SchoolClass) (student : User) (db : AcademicDb) : PreviewRow :=
  let session := db.sessions.find? fun row => row.id = sitting.sessionId
  { studentId := student.id
    studentName := student.name
    studentGender := student.gender
    studentSchoolLevel := cls.schoolLevel
    studentClassName := cls.name
    studentClassCode := cls.code
    studentClassTeacherId := cls.classTeacherId
    studentClassTeacherName := (cls.classTeacherId.bind (findUser · db)).map (·.name)
    studentAcademicSession := session.map (·.name)
    studentTerm := session.bind fun _ =>
      (db.terms.find? fun row =>
        row.id = sitting.termId && row.sessionId = sitting.sessionId).map (·.name)
    studentScoreSheet := studentScoreSheet env sitting clause student.id db }

/-- `previewScoreSheets`, for all students of the class. -/
def previewScoreSheets (actorUserId : String) (sitting : Sitting)
    (allowSubjectTeacher : Bool) (db : AcademicDb) : Except AcademicError (List PreviewRow) := do
  let roles ← getUserRoles actorUserId db
  if roles.any (fun role => (role ≠ .subjectTeacher && role ∈ scoreSheetReadRoles)
      || role = .classTeacher || (allowSubjectTeacher && role = .subjectTeacher)) = false then
    throw (403, "Score sheet preview is restricted to academic management roles or assigned "
      ++ "subject teachers")
  assertActorSchoolLevel actorUserId (given sitting.classId) none db
  let scope := getTeacherScope actorUserId db
  if scope.isTeacher ∧ hasAcademicManagementRole roles = false
      ∧ sitting.classId ∉ scope.classIds ∧ sitting.classId ∉ scope.subjectClassIds then
    throw (403, "Teacher is not assigned to this class")
  match findClass sitting.classId db with
  | none => return []
  | some cls =>
    let students := ((db.enrollments.filter fun row => row.target = sitting.classId).filterMap
      fun row => findUser row.person db).insertionSort fun a b => ¬ env.before b.name a.name
    return students.map fun student =>
      previewRow env sitting (subjectClause actorUserId roles db) cls student db

/-! ## Generated results -/

/-- The generated result of a student, by its row. -/
def findGenerated (db : AcademicDb) : Option ℕ :=
  db.generatedResults.first? fun row =>
    row.studentId = studentId && row.classId = sitting.classId
      && row.sessionId = sitting.sessionId && row.termId = sitting.termId

def sessionTerms (sessionId : String) (db : AcademicDb) : List Term :=
  let rank (row : Term) : ℕ :=
    if row.code = "first" then 1 else if row.code = "second" then 2
    else if row.code = "third" then 3 else 4
  (db.terms.filter fun row => row.sessionId = sessionId).insertionSort fun a b => rank a ≤ rank b

def previousTerms (db : AcademicDb) : List Term :=
  let terms := sessionTerms sitting.sessionId db
  terms.take ((terms.findIdx? fun row => row.id = sitting.termId).getD 0)

/-- The last record of a subject in the result generated for an earlier term. -/
def previousRecord (studentId termId subjectId : String) (db : AcademicDb) :
    Option SubjectRecord :=
  (findGenerated { sitting with termId } studentId db).bind fun id =>
    db.generatedResults[id]?.bind fun row =>
      row.studentSubjectRecords.reverse.find? fun record => record.subjectId = subjectId

/-- The scores of the keys that qualify, added up. -/
def SubjectScores.sumOf (p : String → Bool) (row : SubjectScores) : ℚ :=
  ((row.scores.entries.filter fun entry => p entry.1).map fun entry => entry.2.getD 0).sum

def calculateGeneratedSubjectRecord (subject : SubjectScores)
    (historical : List (Option SubjectRecord)) (termIndex : ℕ) (bands : List GradeBand) :
    SubjectRecord :=
  let caScore := subject.sumOf (· ≠ "examination")
  let examScore := subject.sumOf (· = "examination")
  let totalScore := caScore + examScore
  let firstTermTotal := (historical[0]?.join.map (·.totalScore)).getD 0
  let secondTermTotal := (historical[1]?.join.map (·.totalScore)).getD 0
  let totalAverage :=
    if termIndex = 0 then totalScore
    else if termIndex = 1 then (totalScore + firstTermTotal) / 2
    else (totalScore + firstTermTotal + secondTermTotal) / 3
  let band := gradeBand totalAverage bands
  { subjectId := subject.subjectId
    subject := subject.subjectName
    caScore, examScore, totalScore, firstTermTotal, secondTermTotal
    totalAverage := roundCents totalAverage
    gradeTitle := ((band.map (·.gradeTitle)).filter (· ≠ "")).getD "F"
    gradeName := ((band.map (·.gradeName)).filter (· ≠ "")).getD "Failed" }

/-- The bands a result is graded by; without the feature there are none. -/
def AcademicEnv.bands : List GradeBand :=
  (env.matrix.map (·.gradeBands)).getD []

def subjectRecords
    (scores : List SubjectScores) (db : AcademicDb) : List SubjectRecord :=
  let previous := previousTerms sitting db
  scores.map fun subject =>
    calculateGeneratedSubjectRecord subject
      (previous.map fun term => previousRecord sitting studentId term.id subject.subjectId db)
      previous.length env.bands

def resultHeader (raw : PreviewRow) (db : AcademicDb) : ResultHeader :=
  let terms := sessionTerms sitting.sessionId db
  let termIndex := terms.findIdx? fun row => row.id = sitting.termId
  let days := db.attendance.filter fun row =>
    row.studentId = raw.studentId && row.classId = sitting.classId
  { studentSchoolLevel := raw.studentSchoolLevel
    studentAcademicSession := raw.studentAcademicSession
    studentTerm := raw.studentTerm
    studentGender := raw.studentGender.filter (· ≠ "")
    studentName := raw.studentName
    studentClassName := raw.studentClassName
    studentClassCode := raw.studentClassCode
    studentClassTeacherId := raw.studentClassTeacherId
    studentClassTeacherName := raw.studentClassTeacherName
    noOfTimesSchoolOpened := days.length
    admissionNo := ((findUser raw.studentId db).bind (·.admissionNo)).filter (· ≠ "")
    noOfTimesPresent := days.countP fun row => row.status.toLower = "present"
    termEnded := ((termIndex.bind fun i => terms[i]?).bind (·.endDate)).filter (· ≠ "")
    noOfTimesAbsent := days.countP fun row => row.status.toLower = "absent"
    nextTermBegins :=
      (terms[(termIndex.map (· + 1)).getD 0]?.bind (·.startDate)).filter (· ≠ "") }

/-- The row a teacher's request generates for a student, or why it is refused. -/
def generatedRow (actorUserId studentId : String) (sitting : Sitting)
    (db : AcademicDb) : Except AcademicError GeneratedResult := do
  let roles ← getUserRoles actorUserId db
  if .subjectTeacher ∉ roles then
    throw (403, "Only subject teachers can generate results")
  assertActorSchoolLevel actorUserId (given sitting.classId) none db
  assertTeacherMayAccess actorUserId (given sitting.classId) none db
  if (getTeacherScope actorUserId db).subjectIds = [] then
    throw (403, "Teacher has no assigned subjects")
  let preview ← previewScoreSheets env actorUserId sitting true db
  match (preview.find? fun row => row.studentId = studentId).filter
      fun row => !row.studentScoreSheet.isEmpty with
  | none => throw (404, "No score sheets found for this student")
  | some raw =>
    return {
      sessionId := sitting.sessionId
      termId := sitting.termId
      classId := sitting.classId
      studentId
      header := resultHeader sitting raw db
      studentSubjectRecords := subjectRecords env sitting studentId raw.studentScoreSheet db
      releaseStatus := .pending
      approvedBy := none
      generatedBy := (((findUser actorUserId db).map (·.name)).filter (· ≠ "")).getD actorUserId }

/-- The student's result of the class and the term is released. -/
def isReleased (db : AcademicDb) : Bool :=
  (findGenerated sitting studentId db).any fun id =>
    db.generatedResults[id]?.any fun row => row.releaseStatus = .approved

/-- Replace the student's result, or insert the first. -/
def putGenerated (row : GeneratedResult)
    (db : AcademicDb) : AcademicDb :=
  match findGenerated sitting studentId db with
  | some id => { db with generatedResults := db.generatedResults.modify id fun _ => row }
  | none => { db with generatedResults := db.generatedResults.insert row }

/-- The row of `academic_results` for a subject. -/
def findResult (studentId subjectId : String)
    (results : Table (Option Result)) : Option ℕ :=
  results.first? fun row => row.any fun result =>
    result.studentId = some studentId && result.classId = sitting.classId
      && result.subjectId = subjectId && result.termId = sitting.termId

/-- Keep the row of `academic_results` for a subject in step with its record. -/
def syncResult (results : Table (Option Result))
    (record : SubjectRecord) : Table (Option Result) :=
  match findResult sitting studentId record.subjectId results with
  | some id =>
    results.modify id fun row => row.map fun result =>
      { result with
        caScore := some (decimal2 record.caScore)
        examScore := some (decimal2 record.examScore)
        totalScore := some (decimal2 record.totalScore)
        grade := some record.gradeTitle
        status := .submitted }
  | none =>
    results.insert <| some
      { studentId := some studentId
        classId := sitting.classId
        subjectId := record.subjectId
        termId := sitting.termId
        caScore := some (decimal2 record.caScore)
        examScore := some (decimal2 record.examScore)
        totalScore := some (decimal2 record.totalScore)
        grade := some record.gradeTitle
        status := .submitted }

def generateScoreSheetResult (actorUserId studentId : String)
    (sitting : Sitting) (db : AcademicDb) : Except AcademicError AcademicDb := do
  let row ← generatedRow env actorUserId studentId sitting db
  if isReleased sitting studentId db then
    throw (403, "Approved results cannot be regenerated")
  let written := putGenerated sitting studentId row db
  return { written with
    results := row.studentSubjectRecords.foldl (syncResult sitting studentId) written.results }

/-- A result is generated from what was read, unless the student's is released. -/
theorem generateScoreSheetResult_eq (actorUserId studentId : String)
    (sitting : Sitting) (db : AcademicDb) :
    generateScoreSheetResult env actorUserId studentId sitting db
      = match generatedRow env actorUserId studentId sitting db with
        | .error error => .error error
        | .ok row =>
          if isReleased sitting studentId db then
            .error (403, "Approved results cannot be regenerated")
          else
            .ok { putGenerated sitting studentId row db with
              results := row.studentSubjectRecords.foldl (syncResult sitting studentId)
                (putGenerated sitting studentId row db).results } := by
  unfold generateScoreSheetResult
  cases generatedRow env actorUserId studentId sitting db with
  | error error => rfl
  | ok row =>
    cases isReleased sitting studentId db with
    | true => rfl
    | false => rfl

end MultiAcademy.School
