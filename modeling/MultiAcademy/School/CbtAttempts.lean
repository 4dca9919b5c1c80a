import MultiAcademy.School.Inventory

/-!
# CBT attempts

`cbt/cbt.service.ts`: `startAttempt`, `submitAnswers` and `scoreAttempt`.  A start looks for an
attempt in progress before it inserts one; a submission checks the attempt and its time, writes the
answers, and then reads them back to score them.  Each is a statement of its own.
-/

namespace MultiAcademy.School

open MultiAcademy.Lib

/-! ## The tables -/

/-- The columns of a row of `cbt_questions` that are scored. -/
structure CbtQuestion where
  id : String
  correctIndex : ℤ
  points : ℕ := 1
  deriving DecidableEq

/-- A row of `cbt_exams`, with its questions. -/
structure CbtExam where
  title : String
  classId : Option String := none
  durationMinutes : ℕ := 60
  published : Bool := false
  questions : List CbtQuestion := []
  deriving DecidableEq

/-- What was chosen for the questions. -/
abbrev CbtAnswers := List (String × ℤ)

/-- A row of `cbt_attempts`; times are in milliseconds. -/
structure CbtAttempt where
  id : String
  examId : String
  studentId : String
  submitted : Bool := false
  answers : CbtAnswers := []
  score : ℕ := 0
  maxScore : ℕ := 0
  startedAt : ℤ
  deriving DecidableEq

/-- The tables, the roles, the enrolments, whether the school has the feature, and the time. -/
structure CbtStores where
  exams : String → Option CbtExam := fun _ => none
  attempts : Keyed CbtAttempt.id := .empty
  roles : String → List String := fun _ => []
  enrolled : String → String → Bool := fun _ _ => false
  enabled : Bool := true
  now : ℤ := 0

/-- `Number(q.points || 1)`. -/
def CbtQuestion.worth (question : CbtQuestion) : ℕ :=
  if question.points = 0 then 1 else question.points

/-- The points of the questions that the answers have right. -/
def CbtExam.scoreOf (exam : CbtExam) (answers : CbtAnswers) : ℕ :=
  ((exam.questions.filter fun question =>
    answers.lookup question.id = some question.correctIndex).map CbtQuestion.worth).sum

/-- The points of all questions. -/
def CbtExam.maxScoreOf (exam : CbtExam) : ℕ := (exam.questions.map CbtQuestion.worth).sum

/-- `Number(durationMinutes || 60)`, in milliseconds. -/
def CbtExam.milliseconds (exam : CbtExam) : ℤ :=
  (if exam.durationMinutes = 0 then 60 else exam.durationMinutes) * 60000

variable (studentId examId : String)

def CbtAttempt.isOf (row : CbtAttempt) : Bool :=
  row.studentId = studentId && row.examId = examId

def CbtAttempt.inProgress (row : CbtAttempt) : Bool :=
  row.isOf studentId examId && !row.submitted

/-! ## The requests -/

inductive CbtRequest
  | start (studentId examId : String)
  | submit (studentId attemptId : String) (answers : CbtAnswers)
  deriving DecidableEq

/-- Where a request is: a start, that the student may take the exam, that it has found no attempt in
progress, and what it returns; a submission, the attempt that it has read, that it accepts the
answers, that it has written them, what it has read back, and what it returns.  Or it was refused,
or a statement failed, before the answers were written or after. -/
inductive CbtCall
  | asked (request : CbtRequest)
  | admitted (studentId examId : String)
  | absent (studentId examId : String)
  | started (attemptId : String)
  | attemptRead (row : CbtAttempt) (answers : CbtAnswers)
  | accepted (attemptId : String) (answers : CbtAnswers)
  | written (attemptId : String) (answers : CbtAnswers)
  | scoring (attemptId examId : String) (answers stored : CbtAnswers)
  | scored (attemptId : String) (answers : CbtAnswers) (score maxScore : ℕ)
  | refused (message : String)
  | failed
  | unscored (attemptId : String) (answers : CbtAnswers)
  deriving DecidableEq

/-- `startAttempt`, the exam and the student. -/
def admitStudent (d : CbtStores) : CbtCall :=
  if d.enabled = false then .refused "Feature disabled: academic.cbt"
  else
    match d.exams examId with
    | none => .refused "Exam not found"
    | some exam =>
      if "student" ∉ d.roles studentId then
        .refused "Only student accounts may start a CBT attempt"
      else if exam.published = false then .refused "This exam is not published"
      else if exam.classId.any fun classId => !d.enrolled studentId classId then
        .refused "Student is not enrolled in this exam class"
      else .admitted studentId examId

/-- `startAttempt`, the attempt in progress. -/
def findAttempt (d : CbtStores) : CbtCall :=
  match d.attempts.rows.find? (CbtAttempt.inProgress studentId examId) with
  | some row => .started row.id
  | none => .absent studentId examId

/-- `INSERT INTO cbt_attempts`, under a random token. -/
def insertAttempt (token studentId examId : String) (d : CbtStores) : CbtCall × CbtStores :=
  match d.attempts.insert? { id := token, examId, studentId, startedAt := d.now } with
  | some attempts => (.started token, { d with attempts })
  | none => (.failed, d)

/-- `submitAnswers`, the attempt. -/
def readAttempt (studentId attemptId : String) (answers : CbtAnswers) (d : CbtStores) : CbtCall :=
  if d.enabled = false then .refused "Feature disabled: academic.cbt"
  else
    match d.attempts.find? attemptId with
    | none => .refused "Attempt not found"
    | some row =>
      if row.studentId ≠ studentId then .refused "Attempt does not belong to this student"
      else if row.submitted then .refused "Attempt already submitted"
      else .attemptRead row answers

/-- `submitAnswers`, the time; an exam that is gone takes an hour. -/
def checkTime (row : CbtAttempt) (answers : CbtAnswers) (d : CbtStores) : CbtCall :=
  let duration := ((d.exams row.examId).map CbtExam.milliseconds).getD (60 * 60000)
  if row.startedAt + duration < d.now then .refused "Exam time has expired"
  else .accepted row.id answers

/-- `UPDATE cbt_attempts SET answers = ?`. -/
def writeAnswers (attemptId : String) (answers : CbtAnswers) (d : CbtStores) : CbtStores :=
  { d with
    attempts := d.attempts.updateWhere (fun row => row.id = attemptId)
      (fun row => { row with answers }) fun _ => rfl }

/-- `scoreAttempt`, what it reads. -/
def readAnswers (attemptId : String) (answers : CbtAnswers) (d : CbtStores) : CbtCall :=
  match d.attempts.find? attemptId with
  | none => .unscored attemptId answers
  | some row => .scoring attemptId row.examId answers row.answers

/-- `scoreAttempt`, what it writes, unless the points do not fit their columns. -/
def writeScore (attemptId examId : String) (answers stored : CbtAnswers) (d : CbtStores) :
    CbtCall × CbtStores :=
  let score : ℕ := ((d.exams examId).map fun exam => exam.scoreOf stored).getD 0
  let maxScore : ℕ := ((d.exams examId).map CbtExam.maxScoreOf).getD 0
  if fitsInt score && fitsInt maxScore then
    (.scored attemptId answers score maxScore, { d with
      attempts := d.attempts.updateWhere (fun row => row.id = attemptId)
        (fun row => { row with submitted := true, score, maxScore }) fun _ => rfl })
  else (.unscored attemptId answers, d)

/-- The next statement of a request, with the token that it draws. -/
def cbtStep (token : String) (call : CbtCall) (d : CbtStores) : CbtCall × CbtStores :=
  match call with
  | .asked (.start studentId examId) => (admitStudent studentId examId d, d)
  | .asked (.submit studentId attemptId answers) => (readAttempt studentId attemptId answers d, d)
  | .admitted studentId examId => (findAttempt studentId examId d, d)
  | .absent studentId examId => insertAttempt token studentId examId d
  | .attemptRead row answers => (checkTime row answers d, d)
  | .accepted attemptId answers => (.written attemptId answers, writeAnswers attemptId answers d)
  | .written attemptId answers => (readAnswers attemptId answers d, d)
  | .scoring attemptId examId answers stored => writeScore attemptId examId answers stored d
  | call => (call, d)

/-- What else happens; an exam keeps its questions. -/
inductive CbtChange
  | createExam (id : String) (exam : CbtExam)
  | publishExam (id : String)
  | setRoles (roles : String → List String)
  | setEnrolled (enrolled : String → String → Bool)
  | setEnabled (enabled : Bool)
  | pass (milliseconds : ℕ)

def CbtChange.apply (d : CbtStores) : CbtChange → CbtStores
  | .createExam id exam =>
    if (d.exams id).isSome then d
    else { d with exams := fun examId => if examId = id then some exam else d.exams examId }
  | .publishExam id =>
    { d with
      exams := fun examId =>
        if examId = id then (d.exams examId).map fun exam => { exam with published := true }
        else d.exams examId }
  | .setRoles roles => { d with roles }
  | .setEnrolled enrolled => { d with enrolled }
  | .setEnabled enabled => { d with enabled }
  | .pass milliseconds => { d with now := d.now + milliseconds }

def cbtService : Service CbtRequest String CbtChange CbtStores CbtCall where
  start := .asked
  next := cbtStep
  other change d := change.apply d

abbrev CbtState := Flight CbtStores CbtCall
abbrev CbtEvent := FlightEvent CbtRequest String CbtChange

/-! ## What is fair -/

/-- The submission was accepted with these answers for the attempt, and has written them. -/
def CbtCall.wrote (attemptId : String) (answers : CbtAnswers) : CbtCall → Prop
  | .written id given => id = attemptId ∧ given = answers
  | .scoring id _ given _ => id = attemptId ∧ given = answers
  | .scored id given _ _ => id = attemptId ∧ given = answers
  | .unscored id given => id = attemptId ∧ given = answers
  | _ => False

/-- The attempt is submitted, with the score of its answers, which an accepted submission has
written. -/
structure Scored (s : CbtState) (row : CbtAttempt) : Prop where
  points : ∃ exam, s.shared.exams row.examId = some exam ∧ row.score = exam.scoreOf row.answers
    ∧ row.maxScore = exam.maxScoreOf
  range : row.score ≤ row.maxScore
  accepted : ∃ call ∈ s.calls, call.wrote row.id row.answers

/-- A request on its own: one statement for each token. -/
def alone (tokens : List String) (request : CbtRequest) (d : CbtStores) : CbtCall × CbtStores :=
  tokens.foldl (fun next token => cbtStep token next.1 next.2) (.asked request, d)

/-- The student can start an attempt on the exam that takes every submission. -/
def CanSubmit (d : CbtStores) : Prop :=
  ∃ token attemptId d', alone [token, token, token] (.start studentId examId) d
      = (.started attemptId, d')
    ∧ ∀ answers, ∃ score maxScore d'',
      alone [token, token, token, token, token] (.submit studentId attemptId answers) d'
        = (.scored attemptId answers score maxScore, d'')

/-- **CBT is fair**: a student has at most one attempt in progress on an exam; one that is submitted
is scored for the answers of a submission that was accepted; and for each exam that a student may
take, there is a submitted attempt, or one can be had that takes a submission. -/
structure CbtFair (s : CbtState) : Prop where
  single : ∀ studentId examId,
    s.shared.attempts.rows.countP (CbtAttempt.inProgress studentId examId) ≤ 1
  scored : ∀ row ∈ s.shared.attempts.rows, row.submitted = true → Scored s row
  startable : ∀ studentId examId, admitStudent studentId examId s.shared = .admitted studentId examId →
    (∃ row ∈ s.shared.attempts.rows, row.isOf studentId examId = true ∧ row.submitted = true)
      ∨ CanSubmit studentId examId s.shared

/-- The step leaves the submitted attempts as they are. -/
def Freezes (s : CbtState) (e : CbtEvent) : Prop :=
  ∀ row ∈ s.shared.attempts.rows, row.submitted = true →
    row ∈ (cbtService.step e s).shared.attempts.rows

/-- An attempt is inserted when the student has none in progress on the exam; answers are written
to an attempt that is not submitted yet; the answers that are scored are still the stored ones;
no attempt in progress runs out of time before there is a submitted one; and the points of an exam
fit their columns. -/
def CbtStepOk (s : CbtState) : CbtEvent → Prop
  | .advance i _ =>
    ∀ call, s.calls[i]? = some call →
      match call with
      | .absent studentId examId =>
        ∀ row ∈ s.shared.attempts.rows, row.isOf studentId examId = true → row.submitted = true
      | .accepted attemptId answers =>
        ∀ row ∈ s.shared.attempts.rows, row.id = attemptId →
          row.submitted = false ∨ row.answers = answers
      | .scoring attemptId _ _ stored =>
        ∀ row ∈ s.shared.attempts.rows, row.id = attemptId → row.answers = stored
      | _ => True
  | .other (.pass milliseconds) =>
    ∀ row ∈ s.shared.attempts.rows, row.submitted = false →
      (∃ done ∈ s.shared.attempts.rows, done.isOf row.studentId row.examId = true
        ∧ done.submitted = true)
        ∨ ∀ exam, s.shared.exams row.examId = some exam →
          s.shared.now + milliseconds ≤ row.startedAt + exam.milliseconds
  | .other (.createExam _ exam) => exam.maxScoreOf ≤ 2147483647
  | _ => True

end MultiAcademy.School
