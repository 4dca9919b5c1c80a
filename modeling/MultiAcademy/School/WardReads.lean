import MultiAcademy.Lib.Collation
import MultiAcademy.School.AcademicLists
import MultiAcademy.School.BalanceFreeze

/-!
# What a parent reads of a ward

The reads of `portal/parent-portal.service.ts` that show a ward's results, report card and
transcript, and the lists of `academic/academic.service.ts` that a parent may ask for too.  The
portal asks for the ward's balance first, and shows a frozen ward none of it.  The lists do not
ask.
-/

namespace MultiAcademy.School

open MultiAcademy.Lib

/-! ## The school -/

/-- A row of `business_org`. -/
structure SchoolAddress where
  name : Option String := none
  address : Option String := none
  city : Option String := none
  state : Option String := none
  country : Option String := none
  phone : Option String := none
  brandColor : Option String := none
  deriving DecidableEq

inductive PdfCell
  | text (text : String)
  | number (x : ℚ)
  | empty
  deriving DecidableEq

/-- What `buildReportPdf` prints. -/
structure PdfReport where
  title : String
  type : String
  scope : String
  period : String
  generatedDate : String
  organization : Option SchoolAddress := none
  columns : List String
  rows : List (List PdfCell)
  summary : List (String × PdfCell) := []
  groupBy : List String := []
  footerText : Option String := none
  deriving DecidableEq

/-- What `queryWardAttendanceSummary` counts. -/
structure AttendanceSummary where
  presentDays : ℕ
  absentDays : ℕ
  lateDays : ℕ
  totalMarked : ℕ
  windowDays : ℕ := 30
  deriving DecidableEq

structure ReadFlags where
  /-- `portal.parent`. -/
  parentPortal : Bool := true
  /-- `fees.balance_freeze`. -/
  balanceFreeze : Bool := true
  /-- `academic.report_cards`. -/
  reportCards : Bool := true
  /-- `academic.term_ranking`. -/
  termRanking : Bool := true

/-- A school as its readers find it; `δ` is what an overview shows of other tables. -/
structure SchoolReads (δ : Type) where
  tenantId : String
  env : AcademicEnv := {}
  flags : ReadFlags := {}
  now : Time := 0
  store : AcademicStore := {}
  /-- The list cache. -/
  lists : ListCache ListAnswer := {}
  fees : FeeDb := {}
  /-- The column `full_name` of `users`, which no migration adds; a query for it fails then. -/
  fullName : Option (String → Option String) := none
  email : String → String := fun _ => ""
  businessOrg : Option SchoolAddress := none
  attendance : String → AttendanceSummary := fun _ => ⟨0, 0, 0, 0, 30⟩
  /-- The invoices, payments, instalments and proofs of payment of a student, the assignments and
  the schedule. -/
  dashboard : String → δ
  /-- The time, as `toISOString` and as the transcript write it. -/
  isoTime : String := ""
  lagosTime : String := ""

variable {δ : Type}

variable (parentId studentId : String) (s : SchoolReads δ)

def SchoolReads.db : AcademicDb := s.store.db

def SchoolReads.balance (studentId : String) : StudentBalance :=
  computeStudentBalance s.flags.balanceFreeze studentId s.fees

def queryFailed : AcademicError := (500, "Internal server error")

def featureDisabled (feature : String) : AcademicError := (403, "Feature disabled: " ++ feature)

def assertEnabled (on : Bool) (feature : String) : Except AcademicError Unit :=
  if on then .ok () else .error (featureDisabled feature)

/-! ## Access -/

def Role.slug : Role → String
  | .student => "student"
  | .parent => "parent"
  | .teacher => "teacher"
  | .classTeacher => "class_teacher"
  | .subjectTeacher => "subject_teacher"
  | .headTeacher => "head_teacher"
  | .assistantHeadTeacher => "assistant_head_teacher"
  | .principal => "principal"
  | .vicePrincipal => "vice_principal"
  | .director => "director"
  | .schoolAdmin => "school_admin"
  | .itAdmin => "it_admin"
  | .other slug => slug

/-- `.replace(/[\s-]+/g, '_')`. -/
def underscores (inGap : Bool) : List Char → List Char
  | [] => []
  | c :: text =>
    if isSpace c || c = '-' then
      if inGap then underscores true text else '_' :: underscores true text
    else c :: underscores false text

def normalizePortalRole (slug : String) : String :=
  String.ofList (underscores false (trim slug).toLower.toList)

def hasPortalRole (roles : List Role) (role : String) : Bool :=
  roles.any fun r => normalizePortalRole r.slug = role

def assertParent (parentId : String) (s : SchoolReads δ) : Except AcademicError Unit := do
  assertEnabled s.flags.parentPortal "portal.parent"
  match findUser parentId s.db with
  | none => .error (404, "User not found")
  | some user =>
    if hasPortalRole user.roles "parent" then .ok ()
    else .error (403, "Parent portal requires parent role")

def assertWard : Except AcademicError Unit := do
  assertParent parentId s
  if s.db.parents.any fun link => link.person = parentId && link.target = studentId then .ok ()
  else .error (403, "Student is not linked to this parent")

def assertNotFrozen (studentId : String) (s : SchoolReads δ) : Except AcademicError Unit :=
  let balance := s.balance studentId
  if balance.frozen then
    .error (403, (orNull balance.message).getD "Portal frozen due to fee arrears")
  else .ok ()

/-! ## Released results -/

def releasedResults (studentId : String) (db : AcademicDb) : List (GeneratedResult × ℕ) :=
  db.generatedResults.zipIdx.filter fun row =>
    row.1.studentId = studentId && row.1.releaseStatus = .approved

def joinedSession (id : String) (s : AcademicStore) : Option SessionRow :=
  s.calendar.sessions.rows.find? fun row => row.id = id

def joinedTerm (id : String) (s : AcademicStore) : Option TermRow :=
  s.calendar.terms.rows.find? fun row => row.id = id

/-- `ORDER BY ses.start_date NULLS LAST, trm.start_date NULLS LAST`, in one direction or the
other. -/
def startsBefore (before : String → String → Bool) (s : AcademicStore)
    (a b : GeneratedResult × ℕ) : Bool :=
  let session (row : GeneratedResult × ℕ) := (joinedSession row.1.sessionId s).bind (·.startDate)
  let term (row : GeneratedResult × ℕ) := (joinedTerm row.1.termId s).bind (·.startDate)
  thenBy (fun a b => nameBefore before (session a) (session b))
    (fun a b => nameBefore before (term a) (term b)) a b

def byStart (before : String → String → Bool) (s : AcademicStore)
    (rows : List (GeneratedResult × ℕ)) : List (GeneratedResult × ℕ) :=
  rows.insertionSort fun a b => startsBefore before s b a = false

/-- A row of `queryWardResults`. -/
structure WardResult where
  id : ℕ
  sessionId : String
  termId : String
  classId : String
  studentName : String
  className : String
  admissionNo : Option String
  studentSubjectRecords : List SubjectRecord
  releaseStatus : ReleaseStatus
  sessionName : Option String
  termName : Option String
  deriving DecidableEq

/-- `queryWardResults`, the last session first. -/
def queryWardResults (studentId : String) (s : SchoolReads δ) : List WardResult :=
  (byStart (fun a b => s.env.before b a) s.store (releasedResults studentId s.db)).map fun row =>
    { id := row.2
      sessionId := row.1.sessionId
      termId := row.1.termId
      classId := row.1.classId
      studentName := row.1.header.studentName
      className := row.1.header.studentClassName
      admissionNo := row.1.header.admissionNo
      studentSubjectRecords := row.1.studentSubjectRecords
      releaseStatus := row.1.releaseStatus
      sessionName := (joinedSession row.1.sessionId s.store).map (·.name)
      termName := (joinedTerm row.1.termId s.store).map (·.name) }

/-- A row of `queryWardHistory`. -/
structure WardHistoryRow where
  id : ℕ
  studentId : String
  classId : String
  className : String
  termId : String
  termName : Option String
  sessionName : Option String
  studentSubjectRecords : List SubjectRecord
  status : ReleaseStatus
  deriving DecidableEq

structure WardHistory where
  studentId : String
  history : List WardHistoryRow
  deriving DecidableEq

/-- `queryWardHistory`, the first session first. -/
def queryWardHistory (studentId : String) (s : SchoolReads δ) : List WardHistoryRow :=
  (byStart s.env.before s.store (releasedResults studentId s.db)).map fun row =>
    { id := row.2
      studentId := row.1.studentId
      classId := row.1.classId
      className := row.1.header.studentClassName
      termId := row.1.termId
      termName := (joinedTerm row.1.termId s.store).map (·.name)
      sessionName := (joinedSession row.1.sessionId s.store).map (·.name)
      studentSubjectRecords := row.1.studentSubjectRecords
      status := row.1.releaseStatus }

/-- What the portal says of rows that a frozen ward does not show. -/
structure Freezable (α : Type) where
  frozen : Bool
  freezeMessage : Option String := none
  shown : α
  deriving DecidableEq

def wardResults :
    Except AcademicError (Freezable (List WardResult)) := do
  assertWard parentId studentId s
  let balance := s.balance studentId
  if balance.frozen then return { frozen := true, freezeMessage := balance.message, shown := [] }
  return { frozen := false, shown := queryWardResults studentId s }

def wardHistory :
    Except AcademicError (Freezable WardHistory) := do
  assertWard parentId studentId s
  let balance := s.balance studentId
  if balance.frozen then
    return { frozen := true, freezeMessage := balance.message, shown := ⟨studentId, []⟩ }
  return { frozen := false, shown := ⟨studentId, queryWardHistory studentId s⟩ }

structure WardOverview (δ : Type) where
  balance : StudentBalance
  results : Freezable (List WardResult)
  history : Freezable WardHistory
  attendance : Freezable (Option AttendanceSummary)
  dashboard : δ

def getWardOverviewLocal :
    Except AcademicError (WardOverview δ) := do
  assertWard parentId studentId s
  let balance := s.balance studentId
  let frozen := balance.frozen
  let freezeMessage := balance.message
  return {
    balance
    results :=
      { frozen, freezeMessage, shown := if frozen then [] else queryWardResults studentId s }
    history :=
      { frozen, freezeMessage
        shown := ⟨studentId, if frozen then [] else queryWardHistory studentId s⟩ }
    attendance :=
      if frozen then { frozen, freezeMessage, shown := none }
      else { frozen := false, shown := some (s.attendance studentId) }
    dashboard := s.dashboard studentId }

/-! ## Report cards -/

structure CardSubject where
  subjectId : String
  subjectName : Option String
  caScore : Option ℚ
  examScore : Option ℚ
  totalScore : Option ℚ
  grade : Option String
  approvalComment : Option String
  classId : String
  deriving DecidableEq

structure ReportCard where
  studentId : String
  fullName : Option String
  email : String
  termId : String
  subjects : List CardSubject
  average : ℚ
  position : Option ℕ
  classSize : Option ℕ
  principalComment : Option String
  deriving DecidableEq

/-- `SELECT … FROM academic_results … WHERE student_id = ? AND term_id = ? AND status = 'approved'
ORDER BY s.name ASC`. -/
def cardSubjects (env : AcademicEnv) (studentId termId : String) (db : AcademicDb) :
    List CardSubject :=
  let rows := (liveResults db).filter fun row =>
    row.2.studentId = some studentId && row.2.termId = termId && row.2.status = .approved
  (rows.map fun row =>
    { subjectId := row.2.subjectId
      subjectName := (findSubject row.2.subjectId db).map (·.name)
      caScore := row.2.caScore
      examScore := row.2.examScore
      totalScore := row.2.totalScore
      grade := row.2.grade
      approvalComment := row.2.approvalComment
      classId := row.2.classId }).insertionSort fun a b =>
    nameBefore env.before b.subjectName a.subjectName = false

def rankedResults (classId termId : String) (db : AcademicDb) : List (ℕ × Result) :=
  (liveResults db).filter fun row =>
    row.2.classId = classId && row.2.termId = termId && row.2.status = .approved
      && row.2.totalScore.isSome

/-- `SELECT student_id, AVG(total_score) … GROUP BY student_id ORDER BY avg DESC`. -/
def termRanks (classId termId : String) (db : AcademicDb) : List (Option String × ℚ) :=
  let rows := rankedResults classId termId db
  ((rows.map fun row => row.2.studentId).dedup.map fun studentId =>
    (studentId, averageScore ((rows.filter fun row => row.2.studentId = studentId).map
      (·.2)))).insertionSort fun a b => b.2 ≤ a.2

/-- The place of a student among the ranks; those of one average share it. -/
def positionIn (ranks : List (Option String × ℚ)) (studentId : String) : Option ℕ :=
  (ranks.findIdx? fun rank => rank.1 = some studentId).map fun idx =>
    let score := ((ranks[idx]?).map (·.2)).getD 0
    ((ranks.take idx).countP fun rank => score < rank.2) + 1

/-- The class that a report card is ranked in: the one of its first subject. -/
def cardClass (env : AcademicEnv) (studentId termId : String) (db : AcademicDb) : Option String :=
  orNull ((cardSubjects env studentId termId db).head?.map (·.classId))

/-- `getData`. -/
def getReportCard (studentId termId : String) (s : SchoolReads δ) :
    Except AcademicError ReportCard := do
  assertEnabled s.flags.reportCards "academic.report_cards"
  match s.fullName with
  | none => .error queryFailed
  | some fullName =>
    match findUser studentId s.db with
    | none => .error (404, "Student not found")
    | some student =>
      let results := cardSubjects s.env studentId termId s.db
      let ranks := ((cardClass s.env studentId termId s.db).filter fun _ =>
        s.flags.termRanking).map fun classId => termRanks classId termId s.db
      let average := if results = [] then 0
        else (results.map fun result => result.totalScore.getD 0).sum / results.length
      return {
        studentId := student.id
        fullName := fullName student.id
        email := s.email student.id
        termId
        subjects := results
        average := roundCents average
        position := ranks.bind fun ranks => positionIn ranks studentId
        classSize := ranks.map List.length
        principalComment := (results.findSome? fun result => orNull result.approvalComment) }

def wardReportCardData (parentId studentId termId : String) (s : SchoolReads δ) :
    Except AcademicError (Freezable (Option ReportCard)) := do
  assertWard parentId studentId s
  let balance := s.balance studentId
  if balance.frozen then
    return { frozen := true, freezeMessage := balance.message, shown := none }
  assertEnabled s.flags.reportCards "academic.report_cards"
  let data ← getReportCard studentId termId s
  return { frozen := false, shown := some data }

def cell (text : Option String) : PdfCell := text.elim .empty .text

def score (x : Option ℚ) : PdfCell := x.elim .empty .number

def reportCardPdf (studentId termId : String) (data : ReportCard) (s : SchoolReads δ) : PdfReport :=
  { title := "Report Card — " ++ (orNull data.fullName).getD studentId
    type := "report_card"
    scope := "term:" ++ termId
    period := termId
    generatedDate := s.isoTime
    columns := ["Subject", "CA", "Exam", "Total", "Grade"]
    rows := data.subjects.map fun subject =>
      [.text ((orNull subject.subjectName).getD subject.subjectId), score subject.caScore,
        score subject.examScore, score subject.totalScore, cell subject.grade]
    summary :=
      [ ("Average", .number data.average),
        ("Position", data.position.elim (.text "—") fun n => .number n),
        ("Principal's comment", .text ((orNull data.principalComment).getD "—")) ] }

/-- `wardReportCardPdf`, as far as the report that `buildReportPdf` prints. -/
def wardReportCardPdf (parentId studentId termId : String) (s : SchoolReads δ) :
    Except AcademicError PdfReport := do
  assertWard parentId studentId s
  assertNotFrozen studentId s
  assertEnabled s.flags.reportCards "academic.report_cards"
  let data ← getReportCard studentId termId s
  return reportCardPdf studentId termId data s

/-! ## Transcripts -/

structure TranscriptRow where
  sessionName : Option String
  termName : Option String
  termId : String
  className : String
  classId : String
  subjectName : String
  caScore : ℚ
  examScore : ℚ
  totalScore : ℚ
  grade : Option String
  deriving DecidableEq

structure Transcript where
  fullName : String
  admissionNo : Option String
  history : List TranscriptRow
  organization : Option SchoolAddress
  deriving DecidableEq

def transcriptData (studentId : String) (s : SchoolReads δ) : Except AcademicError Transcript :=
  match findUser studentId s.db with
  | none => .error (404, "Student not found")
  | some student =>
    .ok {
      fullName := student.name
      admissionNo := student.admissionNo
      history :=
        (byStart s.env.before s.store (releasedResults studentId s.db)).flatMap fun row =>
        row.1.studentSubjectRecords.map fun subject =>
          { sessionName := (joinedSession row.1.sessionId s.store).map (·.name)
            termName := (joinedTerm row.1.termId s.store).map (·.name)
            termId := row.1.termId
            className := row.1.header.studentClassName
            classId := row.1.classId
            subjectName := (orNull subject.subject).getD subject.subjectId
            caScore := subject.caScore
            examScore := subject.examScore
            totalScore := subject.totalScore
            grade := orNull (some subject.gradeTitle) }
      organization := s.businessOrg }

def transcriptPdf (studentId : String) (data : Transcript) (s : SchoolReads δ) : PdfReport :=
  { title := "Academic Transcript — " ++ (orNull (some data.fullName)).getD studentId
    type := "transcript"
    scope := (orNull data.admissionNo).getD "—"
    period := "cumulative"
    generatedDate := s.lagosTime ++ " WAT"
    organization := data.organization
    columns := ["Session", "Term", "Class", "Subject", "CA", "Exam", "Total", "Grade"]
    rows := data.history.map fun row =>
      [.text ((orNull row.sessionName).getD "—"), .text ((orNull row.termName).getD row.termId),
        .text ((orNull (some row.className)).getD row.classId), .text row.subjectName,
        .number row.caScore, .number row.examScore, .number row.totalScore, cell row.grade]
    groupBy := ["Session", "Term", "Class"]
    footerText := some "Signature, Stamp & Date" }

/-- `wardTranscriptPdf`, as far as the report that `buildReportPdf` prints. -/
def wardTranscriptPdf :
    Except AcademicError PdfReport := do
  assertWard parentId studentId s
  assertNotFrozen studentId s
  let data ← transcriptData studentId s
  return transcriptPdf studentId data s

/-! ## The reads of a parent -/

/-- The entry of a list that the cache answers with. -/
def SchoolReads.held (l : AcademicList) (force : Bool) :
    Option (ListEntry ListAnswer) :=
  (s.lists.entries.get? (l.key s.tenantId)).filter fun entry =>
    !force && s.now < entry.expiresAt

/-- What a list call is given; a load in flight that it could join reads the same tables. -/
def SchoolReads.list (l : AcademicList) (force : Bool) :
    Except AcademicError ListAnswer :=
  match s.held l force with
  | some entry => .ok entry.value
  | none => l.uncached s.env s.store

inductive ParentRead
  | wardOverview (studentId : String)
  | wardResults (studentId : String)
  | wardHistory (studentId : String)
  | wardReportCardData (studentId termId : String)
  | wardReportCardPdf (studentId termId : String)
  | wardTranscriptPdf (studentId : String)
  | listGeneratedResults (filters : GeneratedFilters) (force : Bool)
  | listResults (force : Bool)
  | listResultsSummary
  deriving DecidableEq

inductive ReadAnswer (δ : Type)
  | overview (overview : WardOverview δ)
  | results (results : Freezable (List WardResult))
  | history (history : Freezable WardHistory)
  | reportCard (card : Freezable (Option ReportCard))
  | pdf (report : PdfReport)
  | list (answer : ListAnswer)
  | summary (rows : List SummaryRow)

def parentRead (parentId : String) (s : SchoolReads δ) :
    ParentRead → Except AcademicError (ReadAnswer δ)
  | .wardOverview studentId => (getWardOverviewLocal parentId studentId s).map .overview
  | .wardResults studentId => (School.wardResults parentId studentId s).map .results
  | .wardHistory studentId => (School.wardHistory parentId studentId s).map .history
  | .wardReportCardData studentId termId =>
    (School.wardReportCardData parentId studentId termId s).map .reportCard
  | .wardReportCardPdf studentId termId =>
    (School.wardReportCardPdf parentId studentId termId s).map .pdf
  | .wardTranscriptPdf studentId => (School.wardTranscriptPdf parentId studentId s).map .pdf
  | .listGeneratedResults filters force =>
    (s.list (.generatedResults parentId (some filters)) force).map .list
  | .listResults force => (s.list (.results parentId) force).map .list
  | .listResultsSummary => (School.listResultsSummary s.env parentId s.db).map .summary

end MultiAcademy.School
