import MultiAcademy.Lib.Table

/-!
# A school's academic tables

The rows that the academic services read or write, and who may act on them.  People,
classes, subjects and terms are named by their ids; a score sheet, a result and a generated
result are named by their position, and a result that was deleted leaves its position empty.
-/

namespace MultiAcademy.School

open MultiAcademy.Lib

/-- The status and the message of a refusal. -/
abbrev AcademicError := ℕ × String

/-! ## Rows -/

/-- The slugs in `users.roles`. -/
inductive Role
  | student | parent | teacher | classTeacher | subjectTeacher | headTeacher
  | assistantHeadTeacher | principal | vicePrincipal | director | schoolAdmin | itAdmin
  | other (slug : String)
  deriving DecidableEq

structure User where
  id : String
  name : String
  roles : List Role
  gender : Option String := none
  admissionNo : Option String := none
  schoolLevel : Option String := none
  deriving DecidableEq

/-- A row of `academic_classes`. -/
structure SchoolClass where
  id : String
  name : String
  code : String
  schoolLevel : String
  classTeacherId : Option String := none
  deriving DecidableEq

/-- A row of `academic_subjects`. -/
structure Subject where
  id : String
  name : String
  schoolLevel : String
  classIds : List String := []
  deriving DecidableEq

/-- A row of `academic_sessions`. -/
structure AcademicSession where
  id : String
  name : String
  deriving DecidableEq

/-- A row of `academic_terms`. -/
structure Term where
  id : String
  sessionId : String
  code : String
  name : String
  startDate : Option String := none
  endDate : Option String := none
  deriving DecidableEq

/-- A row of `academic_score_categories`. -/
structure ScoreCategory where
  id : String
  name : String
  isActive : Bool := true
  deriving DecidableEq

/-- A row of `academic_score_subcategories`. -/
structure ScoreSubcategory where
  id : String
  categoryId : String
  name : String
  isActive : Bool := true
  deriving DecidableEq

/-- A row that ties two people, or a person to a class or a subject. -/
structure Link where
  person : String
  target : String
  deriving DecidableEq

/-- A row of `attendance_students`. -/
structure Attendance where
  studentId : String
  classId : String
  status : String
  deriving DecidableEq

inductive SheetStatus
  | draft | published
  deriving DecidableEq

/-- A row of `academic_score_sheets`. -/
structure ScoreSheet where
  sessionId : String
  termId : String
  classId : String
  studentId : String
  subjectId : String
  categoryId : String
  subcategoryId : Option String
  studentScore : Option ℚ
  obtainableScore : ℚ
  grade : Option ℤ
  status : SheetStatus
  recorderUserId : String
  recordedBy : String
  deriving DecidableEq

structure SubjectRecord where
  subjectId : String
  subject : Option String
  caScore : ℚ
  examScore : ℚ
  totalScore : ℚ
  firstTermTotal : ℚ
  secondTermTotal : ℚ
  totalAverage : ℚ
  gradeTitle : String
  gradeName : String
  deriving DecidableEq

/-- What a generated result says of the student, the class and the term. -/
structure ResultHeader where
  studentSchoolLevel : String
  studentAcademicSession : Option String
  studentTerm : Option String
  studentGender : Option String
  studentName : String
  studentClassName : String
  studentClassCode : String
  studentClassTeacherId : Option String
  studentClassTeacherName : Option String
  noOfTimesSchoolOpened : ℕ
  admissionNo : Option String
  noOfTimesPresent : ℕ
  termEnded : Option String
  noOfTimesAbsent : ℕ
  nextTermBegins : Option String
  deriving DecidableEq

inductive ReleaseStatus
  | pending | approved
  deriving DecidableEq

/-- A row of `academic_generated_results`. -/
structure GeneratedResult where
  sessionId : String
  termId : String
  classId : String
  studentId : String
  header : ResultHeader
  studentSubjectRecords : List SubjectRecord
  releaseStatus : ReleaseStatus
  approvedBy : Option String
  generatedBy : String
  deriving DecidableEq

inductive ResultStatus
  | draft | submitted | approved
  deriving DecidableEq

/-- A row of `academic_results`. -/
structure Result where
  studentId : Option String
  classId : String
  subjectId : String
  termId : String
  caScore : Option ℚ
  examScore : Option ℚ
  totalScore : Option ℚ
  grade : Option String
  status : ResultStatus
  approvalComment : Option String := none
  approvedBy : Option String := none
  deriving DecidableEq

/-- The tables. -/
structure AcademicDb where
  users : List User := []
  classes : List SchoolClass := []
  subjects : List Subject := []
  sessions : List AcademicSession := []
  terms : List Term := []
  categories : List ScoreCategory := []
  subcategories : List ScoreSubcategory := []
  /-- `academic_class_teacher_links`: teachers and classes. -/
  classTeachers : List Link := []
  /-- `academic_subject_teacher_links`: teachers and subjects. -/
  subjectTeachers : List Link := []
  /-- `parent_student_links`. -/
  parents : List Link := []
  /-- `student_class_enrollments`. -/
  enrollments : List Link := []
  attendance : List Attendance := []
  scoreSheets : Table ScoreSheet := []
  generatedResults : Table GeneratedResult := []
  results : Table (Option Result) := []

/-! ## Look-ups -/

def findUser (id : String) (db : AcademicDb) : Option User := db.users.find? fun row => row.id = id

def findClass (id : String) (db : AcademicDb) : Option SchoolClass :=
  db.classes.find? fun row => row.id = id

def findSubject (id : String) (db : AcademicDb) : Option Subject :=
  db.subjects.find? fun row => row.id = id

variable (userId : String) (db : AcademicDb)

/-- The roles of a user; none of a user who does not exist. -/
def rolesOf : List Role :=
  ((findUser userId db).map (·.roles)).getD []

def getUserRoles : Except AcademicError (List Role) :=
  match findUser userId db with
  | none => .error (400, "User not found for assignment")
  | some user => .ok user.roles

/-! ## Roles and scopes -/

def academicManagementRoles : List Role :=
  [.director, .schoolAdmin, .headTeacher, .principal, .vicePrincipal, .assistantHeadTeacher]

def hasAcademicManagementRole (roles : List Role) : Bool :=
  roles.any fun role => role ∈ academicManagementRoles

def hasTenantWideRole (roles : List Role) : Bool :=
  roles.any fun role => role ∈ [Role.director, .schoolAdmin, .itAdmin]

structure TeacherScope where
  isTeacher : Bool := false
  classIds : List String := []
  subjectIds : List String := []
  subjectClassIds : List String := []

def getTeacherScope : TeacherScope :=
  let roles := rolesOf userId db
  if roles.any (fun role => role ∈ [Role.teacher, .classTeacher, .subjectTeacher]) = false then {}
  else
    let owned := (db.classes.filter fun row => row.classTeacherId = some userId).map (·.id)
    let linked := (db.classTeachers.filter fun row => row.person = userId).map (·.target)
    let subjects := (db.subjectTeachers.filter fun row => row.person = userId).filterMap
      fun row => findSubject row.target db
    let subjectClassIds := subjects.flatMap (·.classIds)
    { isTeacher := true
      -- a subject assignment does not turn a class into a homeroom
      classIds := (linked ∪ owned).filter fun id => id ∈ owned || id ∉ subjectClassIds
      subjectIds := subjects.map (·.id)
      subjectClassIds }

def assertTeacherMayAccess (classId subjectId : Option String)
    (db : AcademicDb) : Except AcademicError Unit :=
  if hasTenantWideRole (rolesOf userId db) then .ok ()
  else
    let scope := getTeacherScope userId db
    if scope.isTeacher = false then .ok ()
    else
      let classAllowed := classId.any fun id => id ∈ scope.classIds
      let subjectAllowed := subjectId.any fun id => id ∈ scope.subjectIds
      let subjectClassAllowed := subjectAllowed
        && (classId.isNone || scope.subjectClassIds = []
          || classId.any fun id => id ∈ scope.subjectClassIds)
      if classAllowed || subjectClassAllowed then .ok ()
      else .error (403, "Teacher is not assigned to this class or subject")

def schoolLevelMatches (userLevel : String) (itemLevel : Option String) : Bool :=
  let user := userLevel.toLower
  let item := (itemLevel.getD "").toLower
  if user = "all" then true
  else if item = "" then false
  else if user = "primary" then item ∈ ["primary", "nursery"]
  else if user = "secondary" then item ∈ ["secondary", "jss", "sss"]
  else if item = "secondary" then user ∈ ["secondary", "jss", "sss"]
  else user = item

def getActorSchoolLevel : String :=
  let roles := rolesOf userId db
  if roles.any fun role => role ∈ [Role.director, .schoolAdmin, .itAdmin] then "all"
  else
    match ((findUser userId db).bind (·.schoolLevel)).filter (· ≠ "") with
    | some level => level.toLower
    | none =>
      if .headTeacher ∈ roles ∨ .assistantHeadTeacher ∈ roles then "primary"
      else if .principal ∈ roles ∨ .vicePrincipal ∈ roles then "secondary"
      else "all"

def assertActorSchoolLevel (classId subjectId : Option String)
    (db : AcademicDb) : Except AcademicError Unit :=
  let level := getActorSchoolLevel userId db
  let classMatches := classId.all fun id =>
    (findClass id db).any fun row => schoolLevelMatches level (some row.schoolLevel)
  let subjectMatches := subjectId.all fun id =>
    (findSubject id db).any fun row => schoolLevelMatches level (some row.schoolLevel)
  if classMatches && subjectMatches then .ok ()
  else .error (403, "User is not assigned to this school level")

end MultiAcademy.School
