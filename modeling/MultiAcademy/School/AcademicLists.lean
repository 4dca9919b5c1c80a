import MultiAcademy.School.AcademicCatalog
import MultiAcademy.School.ListCache

/-!
# The academic lists

The lists of `academic/academic.service.ts` that the list cache keeps: sessions, terms, classes,
subjects, results and generated results, each under a key that names the school, the list, and
what the list depends on.
-/

namespace MultiAcademy.School

open MultiAcademy.Lib

deriving instance DecidableEq for SessionRow, TermRow

/-! ## Rows -/

/-- A row of `listClasses`. -/
structure ClassView where
  row : ClassRow
  classTeacherName : Option String
  teacherAssignedCount : ℕ
  assignedTeacherNames : List String
  currentEnrollment : ℕ
  deriving DecidableEq

/-- A row of `listSubjects`. -/
structure SubjectView where
  row : SubjectRow
  categoryName : Option String
  teacherAssignedCount : ℕ
  assignedTeacherNames : List String
  linkedClassNames : List String
  deriving DecidableEq

/-- A row of `listGeneratedResults`. -/
structure GeneratedView where
  id : ℕ
  sessionId : String
  termId : String
  classId : String
  studentId : String
  studentName : String
  studentGender : Option String
  sessionName : Option String
  termName : Option String
  studentSchoolLevel : String
  studentClassName : String
  studentClassCode : String
  admissionNo : Option String
  studentSubjectRecords : List SubjectRecord
  releaseStatus : ReleaseStatus
  approvedBy : Option String
  generatedBy : String
  noOfTimesSchoolOpened : ℕ
  noOfTimesPresent : ℕ
  noOfTimesAbsent : ℕ
  termEnded : Option String
  nextTermBegins : Option String
  schoolLevel : Option String
  deriving DecidableEq

variable (env : AcademicEnv)

/-- `array_agg(name ORDER BY name)`. -/
def orderNames (names : List String) : List String :=
  names.insertionSort fun a b => ¬ env.before b a

/-- The teachers that a table of links ties to a class or a subject. -/
def assignedTeachers (links : List Link) (target : String) (db : AcademicDb) : List String :=
  ((links.filter fun link => link.target = target).filterMap
    fun link => findUser link.person db).map (·.name)

/-- `COUNT(DISTINCT student_id)` of the enrolled and of those who have a result. -/
def currentEnrollment (classId : String) (db : AcademicDb) : ℕ :=
  let enrolled := (db.enrollments.filter fun link => link.target = classId).map (·.person)
  let examined := ((liveResults db).filter fun row => row.2.classId = classId).filterMap
    (·.2.studentId)
  (enrolled ++ examined).dedup.length

def classView (s : AcademicStore) (row : ClassRow) : ClassView :=
  let teachers := assignedTeachers s.db.classTeachers row.id s.db
  { row
    classTeacherName := (row.classTeacherId.bind (findUser · s.db)).map (·.name)
    teacherAssignedCount := teachers.length
    assignedTeacherNames := orderNames env teachers
    currentEnrollment := currentEnrollment row.id s.db }

def subjectView (s : AcademicStore) (row : SubjectRow) : SubjectView :=
  let teachers := assignedTeachers s.db.subjectTeachers row.id s.db
  { row
    categoryName := (row.categoryId.bind fun id =>
      s.subjectCategories.rows.find? fun category => category.id = id).map (·.name)
    teacherAssignedCount := teachers.length
    assignedTeacherNames := orderNames env teachers
    linkedClassNames := orderNames env
      ((s.db.classes.filter fun schoolClass => schoolClass.id ∈ row.classIds).map (·.name)) }

/-! ## Lists -/

/-- `listSessions`, the last created first. -/
def listSessions (s : AcademicStore) : List SessionRow := s.calendar.sessions.rows.reverse

/-- `listTerms`; an empty id is none. -/
def listTerms (sessionId : Option String) (s : AcademicStore) : List TermRow :=
  match orNull sessionId with
  | some sessionId => s.calendar.terms.rows.filter fun row => row.sessionId = sessionId
  | none => s.calendar.terms.rows

/-- `listClasses`, the last created first. -/
def listClasses (actorUserId : String) (scopeToTeacher : Bool)
    (s : AcademicStore) : List ClassView :=
  let mapped := s.classes.rows.reverse.map (classView env s)
  let levelScoped :=
    filterByActorSchoolLevel actorUserId (fun view => some view.row.schoolLevel) mapped s.db
  let scope := getTeacherScope actorUserId s.db
  -- who is no teacher sees the classes of all levels
  if scopeToTeacher = false ∨ scope.isTeacher = false then mapped
  else levelScoped.filter fun view =>
    view.row.id ∈ scope.classIds || (scope.subjectIds ≠ [] && view.row.id ∈ scope.subjectClassIds)

/-- `listSubjects`, the last created first. -/
def listSubjects (actorUserId : String) (scopeToTeacher : Bool)
    (s : AcademicStore) : List SubjectView :=
  let mapped := s.subjects.rows.reverse.map (subjectView env s)
  let levelScoped :=
    filterByActorSchoolLevel actorUserId (fun view => some view.row.schoolLevel) mapped s.db
  let scope := getTeacherScope actorUserId s.db
  if scopeToTeacher = false then mapped
  else if scope.isTeacher = false then levelScoped
  else levelScoped.filter fun view => view.row.id ∈ scope.subjectIds

/-- The filters of `listGeneratedResults`. -/
structure GeneratedFilters where
  sessionId : Option String := none
  termId : Option String := none
  classId : Option String := none
  deriving DecidableEq

/-- The clauses of `listGeneratedResults`: the own or the children's released results of a student
or a parent, and the filters that are given. -/
def GeneratedFilters.selects (filters : GeneratedFilters) (actorUserId : String)
    (roles : List Role) (db : AcademicDb) (row : GeneratedResult) : Bool :=
  (visibleStudents actorUserId roles db).all (fun studentIds =>
      row.releaseStatus = .approved && row.studentId ∈ studentIds)
    && (orNull filters.sessionId).all (fun id => row.sessionId = id)
    && (orNull filters.termId).all (fun id => row.termId = id)
    && (orNull filters.classId).all (fun id => row.classId = id)

def generatedView (db : AcademicDb) (id : ℕ) (row : GeneratedResult) : GeneratedView :=
  { id
    sessionId := row.sessionId
    termId := row.termId
    classId := row.classId
    studentId := row.studentId
    studentName := row.header.studentName
    studentGender := row.header.studentGender.or ((findUser row.studentId db).bind (·.gender))
    sessionName := (db.sessions.find? fun session => session.id = row.sessionId).map (·.name)
    termName := (db.terms.find? fun term => term.id = row.termId).map (·.name)
    studentSchoolLevel := row.header.studentSchoolLevel
    studentClassName := row.header.studentClassName
    studentClassCode := row.header.studentClassCode
    admissionNo := row.header.admissionNo
    studentSubjectRecords := row.studentSubjectRecords
    releaseStatus := row.releaseStatus
    approvedBy := row.approvedBy
    generatedBy := row.generatedBy
    noOfTimesSchoolOpened := row.header.noOfTimesSchoolOpened
    noOfTimesPresent := row.header.noOfTimesPresent
    noOfTimesAbsent := row.header.noOfTimesAbsent
    termEnded := row.header.termEnded
    nextTermBegins := row.header.nextTermBegins
    schoolLevel := classLevel row.classId db }

def listGeneratedResults (actorUserId : String) (filters : GeneratedFilters)
    (db : AcademicDb) : Except AcademicError (List GeneratedView) := do
  let roles ← getUserRoles actorUserId db
  if .student ∉ roles ∧ .parent ∉ roles ∧ hasAcademicManagementRole roles = false then
    throw (403, "Generated results are restricted to academic management roles")
  let selected := db.generatedResults.zipIdx.filter fun row =>
    filters.selects actorUserId roles db row.1
  let ordered := (selected.map fun row => generatedView db row.2 row.1).insertionSort
    fun a b => ¬ env.before b.studentName a.studentName
  return filterByActorSchoolLevel actorUserId (·.schoolLevel) ordered db

/-- The lists; `getGeneratedResult` asks for generated results without filters. -/
inductive AcademicList
  | sessions
  | terms (sessionId : Option String)
  | classes (actorUserId : String) (scopeToTeacher : Bool)
  | subjects (actorUserId : String) (scopeToTeacher : Bool)
  | results (actorUserId : String)
  | generatedResults (actorUserId : String) (filters : Option GeneratedFilters)
  deriving DecidableEq

inductive ListAnswer
  | sessions (rows : List SessionRow)
  | terms (rows : List TermRow)
  | classes (rows : List ClassView)
  | subjects (rows : List SubjectView)
  | results (rows : List ResultView)
  | generatedResults (rows : List GeneratedView)
  deriving DecidableEq

def AcademicList.uncached (l : AcademicList) (s : AcademicStore) :
    Except AcademicError ListAnswer :=
  match l with
  | .sessions => .ok (.sessions (listSessions s))
  | .terms sessionId => .ok (.terms (listTerms sessionId s))
  | .classes actorUserId scopeToTeacher =>
    .ok (.classes (listClasses env actorUserId scopeToTeacher s))
  | .subjects actorUserId scopeToTeacher =>
    .ok (.subjects (listSubjects env actorUserId scopeToTeacher s))
  | .results actorUserId => (listResults actorUserId s.db).map .results
  | .generatedResults actorUserId filters =>
    (listGeneratedResults env actorUserId (filters.getD {}) s.db).map .generatedResults

/-! ## Keys -/

def jsonChar (c : Char) : List Char :=
  let digit (n : ℕ) : Char := Char.ofNat (if n < 10 then 48 + n else 87 + n)
  match c.toNat with
  | 8 => ['\\', 'b']
  | 9 => ['\\', 't']
  | 10 => ['\\', 'n']
  | 12 => ['\\', 'f']
  | 13 => ['\\', 'r']
  | 34 => ['\\', c]
  | 92 => ['\\', c]
  | n => if n < 32 then ['\\', 'u', '0', '0', digit (n / 16), digit (n % 16)] else [c]

/-- `JSON.stringify` of a text, or `null`. -/
def jsonText : Option String → String
  | some text => "\x22" ++ String.ofList (text.toList.flatMap jsonChar) ++ "\x22"
  | none => "null"

/-- `stableStringify` of the filters: the keys in order. -/
def GeneratedFilters.stableStringify (filters : GeneratedFilters) : String :=
  "\x7b\x22classId\x22:" ++ jsonText filters.classId
    ++ ",\x22sessionId\x22:" ++ jsonText filters.sessionId
    ++ ",\x22termId\x22:" ++ jsonText filters.termId ++ "\x7d"

def academicKey (tenantId rest : String) : String := "tenant:" ++ tenantId ++ ":academic:" ++ rest

def AcademicList.key (tenantId : String) (l : AcademicList) : String :=
  academicKey tenantId <|
    match l with
    | .sessions => "sessions"
    | .terms sessionId => "terms:" ++ (orNull sessionId).getD "all"
    | .classes actorUserId scopeToTeacher =>
      "classes:" ++ actorUserId ++ ":" ++ toString scopeToTeacher
    | .subjects actorUserId scopeToTeacher =>
      "subjects:" ++ actorUserId ++ ":" ++ toString scopeToTeacher
    | .results actorUserId => "results:" ++ actorUserId
    | .generatedResults actorUserId filters =>
      "generated-results:" ++ actorUserId ++ ":"
        ++ filters.elim "\x7b\x7d" GeneratedFilters.stableStringify

/-! ## What the lists read -/

def AcademicList.reads : AcademicList → List AcademicTable
  | .sessions => [.sessions]
  | .terms _ => [.terms]
  | .classes _ _ => [.people, .classes, .subjects, .results, .enrollments]
  | .subjects _ _ => [.people, .classes, .subjects, .subjectCategories]
  | .results _ => [.people, .classes, .subjects, .results]
  | .generatedResults _ _ => [.people, .classes, .sessions, .terms, .generatedResults]

section Frame
variable {s s' : AcademicStore}

/-- Stores that agree on the people, the classes and the subjects. -/
structure SameSchool (s s' : AcademicStore) : Prop where
  users : s.records.users = s'.records.users
  parents : s.records.parents = s'.records.parents
  classTeachers : s.records.classTeachers = s'.records.classTeachers
  subjectTeachers : s.records.subjectTeachers = s'.records.subjectTeachers
  classes : s.classes = s'.classes
  subjects : s.subjects = s'.subjects

theorem SameSchool.listClasses_eq (h : SameSchool s s')
    (hresults : s.records.results = s'.records.results)
    (henrollments : s.records.enrollments = s'.records.enrollments) (env : AcademicEnv)
    (actorUserId : String) (scopeToTeacher : Bool) :
    listClasses env actorUserId scopeToTeacher s
      = listClasses env actorUserId scopeToTeacher s' := by
  have hstore : s' = { s with
      calendar := s'.calendar
      subjectCategories := s'.subjectCategories
      records := { s.records with
        classes := s'.records.classes
        subjects := s'.records.subjects
        sessions := s'.records.sessions
        terms := s'.records.terms
        categories := s'.records.categories
        subcategories := s'.records.subcategories
        attendance := s'.records.attendance
        scoreSheets := s'.records.scoreSheets
        generatedResults := s'.records.generatedResults } } := by
    simp only [h.users, h.parents, h.classTeachers, h.subjectTeachers, h.classes, h.subjects,
      hresults, henrollments]
  rw [hstore]
  rfl

theorem SameSchool.listSubjects_eq (h : SameSchool s s')
    (hcategories : s.subjectCategories = s'.subjectCategories) (env : AcademicEnv)
    (actorUserId : String) (scopeToTeacher : Bool) :
    listSubjects env actorUserId scopeToTeacher s
      = listSubjects env actorUserId scopeToTeacher s' := by
  have hstore : s' = { s with
      calendar := s'.calendar
      records := { s'.records with
        users := s.records.users
        parents := s.records.parents
        classTeachers := s.records.classTeachers
        subjectTeachers := s.records.subjectTeachers } } := by
    simp only [h.users, h.parents, h.classTeachers, h.subjectTeachers, h.classes, h.subjects,
      hcategories]
  rw [hstore]
  rfl

theorem SameSchool.listResults_eq (h : SameSchool s s')
    (hresults : s.records.results = s'.records.results) (actorUserId : String) :
    listResults actorUserId s.db = listResults actorUserId s'.db := by
  have hdb : s'.db = { s'.db with
      users := s.db.users
      parents := s.db.parents
      classTeachers := s.db.classTeachers
      subjectTeachers := s.db.subjectTeachers
      classes := s.db.classes
      subjects := s.db.subjects
      results := s.db.results } := by
    simp only [AcademicStore.db, h.users, h.parents, h.classTeachers, h.subjectTeachers,
      h.classes, h.subjects, hresults]
  rw [hdb]
  rfl

theorem listGeneratedResults_eq (husers : s.records.users = s'.records.users)
    (hparents : s.records.parents = s'.records.parents) (hclasses : s.classes = s'.classes)
    (hcalendar : s.calendar = s'.calendar)
    (hgenerated : s.records.generatedResults = s'.records.generatedResults) (env : AcademicEnv)
    (actorUserId : String) (filters : GeneratedFilters) :
    listGeneratedResults env actorUserId filters s.db
      = listGeneratedResults env actorUserId filters s'.db := by
  have hdb : s'.db = { s'.db with
      users := s.db.users
      parents := s.db.parents
      classes := s.db.classes
      sessions := s.db.sessions
      terms := s.db.terms
      generatedResults := s.db.generatedResults } := by
    simp only [AcademicStore.db, husers, hparents, hclasses, hcalendar, hgenerated]
  rw [hdb]
  rfl

end Frame

/-- **What a list depends on**: it gives the same on stores that agree on its tables. -/
theorem reads_uncached (env : AcademicEnv) (l : AcademicList) :
    Reads AcademicTable.same (l.uncached env) l.reads := by
  intro s s' hsame
  have hschool (hpeople : .people ∈ l.reads) (hclasses : .classes ∈ l.reads)
      (hsubjects : .subjects ∈ l.reads) : SameSchool s s' := by
    obtain ⟨husers, hparents, hclassTeachers, hsubjectTeachers⟩ := hsame .people hpeople
    exact ⟨husers, hparents, hclassTeachers, hsubjectTeachers, hsame .classes hclasses,
      hsame .subjects hsubjects⟩
  cases l with
  | sessions =>
    have hsessions : s.calendar.sessions = s'.calendar.sessions :=
      hsame .sessions (by simp [AcademicList.reads])
    simp only [AcademicList.uncached, listSessions, hsessions]
  | terms sessionId =>
    have hterms : s.calendar.terms = s'.calendar.terms :=
      hsame .terms (by simp [AcademicList.reads])
    simp only [AcademicList.uncached, listTerms, hterms]
  | classes actorUserId scopeToTeacher =>
    have h := hschool (by simp [AcademicList.reads]) (by simp [AcademicList.reads])
      (by simp [AcademicList.reads])
    have hresults : AcademicTable.results.same s s' :=
      hsame .results (by simp [AcademicList.reads])
    have henrollments : AcademicTable.enrollments.same s s' :=
      hsame .enrollments (by simp [AcademicList.reads])
    simp only [AcademicList.uncached, h.listClasses_eq hresults henrollments]
  | subjects actorUserId scopeToTeacher =>
    have h := hschool (by simp [AcademicList.reads]) (by simp [AcademicList.reads])
      (by simp [AcademicList.reads])
    have hcategories : AcademicTable.subjectCategories.same s s' :=
      hsame .subjectCategories (by simp [AcademicList.reads])
    simp only [AcademicList.uncached, h.listSubjects_eq hcategories]
  | results actorUserId =>
    have h := hschool (by simp [AcademicList.reads]) (by simp [AcademicList.reads])
      (by simp [AcademicList.reads])
    have hresults : AcademicTable.results.same s s' :=
      hsame .results (by simp [AcademicList.reads])
    simp only [AcademicList.uncached, h.listResults_eq hresults]
  | generatedResults actorUserId filters =>
    obtain ⟨husers, hparents, -⟩ := hsame .people (by simp [AcademicList.reads])
    have hclasses : AcademicTable.classes.same s s' :=
      hsame .classes (by simp [AcademicList.reads])
    have hsessions : AcademicTable.sessions.same s s' :=
      hsame .sessions (by simp [AcademicList.reads])
    have hterms : AcademicTable.terms.same s s' :=
      hsame .terms (by simp [AcademicList.reads])
    have hgenerated : AcademicTable.generatedResults.same s s' :=
      hsame .generatedResults (by simp [AcademicList.reads])
    have hcalendar : s.calendar = s'.calendar :=
      congrArg₂ AcademicCalendar.mk hsessions hterms
    simp only [AcademicList.uncached,
      listGeneratedResults_eq husers hparents hclasses hcalendar hgenerated]

/-! ## What the mutators forget -/

/-- The mutator invalidates the list. -/
def covers (env : AcademicEnv) (tenantId : String) (now : Time) (m : AcademicMutation)
    (s : AcademicStore) (l : AcademicList) : Bool :=
  (m.drops env now s).any fun family => under (academicKey tenantId family) (l.key tenantId)

/-- The mutator writes a table that the list reads, and does not invalidate the list. -/
def forgets (env : AcademicEnv) (tenantId : String) (now : Time) (m : AcademicMutation)
    (s : AcademicStore) (l : AcademicList) : Bool :=
  overlap m.writes l.reads && !covers env tenantId now m s l

theorem uncached_of_not_forgets {env : AcademicEnv} {tenantId : String} {now : Time}
    {m : AcademicMutation} {s : AcademicStore} {l : AcademicList}
    (hcovers : covers env tenantId now m s l = false)
    (hforgets : forgets env tenantId now m s l = false) :
    l.uncached env (m.apply env now s) = l.uncached env s := by
  have hapart : overlap m.writes l.reads = false := by
    rw [forgets, hcovers, Bool.not_false, Bool.and_true] at hforgets
    exact hforgets
  exact (reads_uncached env l).unchanged (writes_apply env now m) hapart s

end MultiAcademy.School
