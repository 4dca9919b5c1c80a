import MultiAcademy.School.Results

/-!
# Listing results

`listResults` and `listResultsSummary` read the rows of `academic_results`, and then leave
out what the caller may not see: the results of other students, classes of another school
level, and classes and subjects that are not a teacher's.  For a student or a parent the
subjects of a summary are those that are approved.  The list itself, and the counts and the
averages of the summary, are not narrowed to what is approved.
-/

namespace MultiAcademy.School

open MultiAcademy.Lib

/-! ## Rows -/

/-- A row of the list. -/
structure ResultView where
  id : ℕ
  result : Result
  schoolLevel : Option String
  deriving DecidableEq

/-- The results with their ids, the first first. -/
def liveResults (db : AcademicDb) : List (ℕ × Result) :=
  db.results.zipIdx.filterMap fun row => row.1.map fun result => (row.2, result)

def classLevel (classId : String) (db : AcademicDb) : Option String :=
  (findClass classId db).map (·.schoolLevel)

/-- `ORDER BY r.created_at DESC LIMIT 500`. -/
def latestResults (db : AcademicDb) : List ResultView :=
  ((liveResults db).reverse.take 500).map fun row =>
    { id := row.1, result := row.2, schoolLevel := classLevel row.2.classId db }

/-! ## What a caller may see -/

def visibleStudents (actorUserId : String) (roles : List Role) (db : AcademicDb) :
    Option (List String) :=
  if .student ∉ roles ∧ .parent ∉ roles then none
  else if .student ∈ roles then some [actorUserId]
  else some ((db.parents.filter fun row => row.person = actorUserId).map (·.target))

section Filters
variable {α : Type}

def filterStudentParentResults (actorUserId : String) (studentOf : α → String)
    (approvedOnly : α → α) (rows : List α) (db : AcademicDb) : Except AcademicError (List α) := do
  let roles ← getUserRoles actorUserId db
  match visibleStudents actorUserId roles db with
  | none => return rows
  | some studentIds => return (rows.filter fun row => studentOf row ∈ studentIds).map approvedOnly

def filterByActorSchoolLevel (actorUserId : String) (levelOf : α → Option String)
    (rows : List α) (db : AcademicDb) : List α :=
  rows.filter fun row => schoolLevelMatches (getActorSchoolLevel actorUserId db) (levelOf row)

/-- Keep the rows of the teacher's classes and subjects; who is no teacher, or is of the
management, keeps all. -/
def filterByScope (actorUserId : String) (inScope : TeacherScope → α → Bool) (rows : List α)
    (db : AcademicDb) : Except AcademicError (List α) := do
  let scope := getTeacherScope actorUserId db
  let roles ← getUserRoles actorUserId db
  if scope.isTeacher = false ∨ hasAcademicManagementRole roles = true then return rows
  else return rows.filter (inScope scope)

end Filters

/-! ## The list -/

/-- The class or the subject is the teacher's. -/
def ResultView.inScope (scope : TeacherScope) (row : ResultView) : Bool :=
  row.result.classId ∈ scope.classIds || row.result.subjectId ∈ scope.subjectIds

def listResults (actorUserId : String) (db : AcademicDb) :
    Except AcademicError (List ResultView) := do
  let audienceScoped ← filterStudentParentResults actorUserId
    (fun row => row.result.studentId.getD "null") id (latestResults db) db
  filterByScope actorUserId ResultView.inScope
    (filterByActorSchoolLevel actorUserId (·.schoolLevel) audienceScoped db) db

/-! ## The summary -/

structure ResultGroup where
  studentId : Option String
  classId : String
  termId : String
  deriving DecidableEq

def Result.group (result : Result) : ResultGroup :=
  { studentId := result.studentId, classId := result.classId, termId := result.termId }

structure ExamSubject where
  resultId : ℕ
  subjectId : String
  subjectName : Option String
  caScore : Option ℚ
  examScore : Option ℚ
  totalScore : Option ℚ
  grade : Option String
  status : ResultStatus
  deriving DecidableEq

structure SummaryRow where
  studentId : Option String
  studentName : String
  classId : String
  className : String
  schoolLevel : Option String
  termId : String
  termName : String
  totalSubjects : ℕ
  averageScore : ℚ
  status : ResultStatus
  examSubjects : List ExamSubject
  deriving DecidableEq

def ResultGroup.studentName (group : ResultGroup) (db : AcademicDb) : Option String :=
  (group.studentId.bind (findUser · db)).map (·.name)

def ResultGroup.className (group : ResultGroup) (db : AcademicDb) : Option String :=
  (findClass group.classId db).map (·.name)

/-- `ORDER BY u.name NULLS LAST, c.name NULLS LAST, r.term_id`. -/
def groupBefore (env : AcademicEnv) (db : AcademicDb) (a b : ResultGroup) : Prop :=
  let names := nameBefore env.before
  ¬ (names (b.studentName db) (a.studentName db)
    || (!names (a.studentName db) (b.studentName db)
      && (names (b.className db) (a.className db)
        || (!names (a.className db) (b.className db) && env.before b.termId a.termId))))

instance (env : AcademicEnv) (db : AcademicDb) (a b : ResultGroup) :
    Decidable (groupBefore env db a b) := inferInstanceAs (Decidable (¬ _))

/-- `COALESCE(AVG(total_score), 0)`. -/
def averageScore (results : List Result) : ℚ :=
  let totals := results.filterMap (·.totalScore)
  if totals = [] then 0 else totals.sum / totals.length

/-- Approved when all are, submitted when some is. -/
def summaryStatus (results : List Result) : ResultStatus :=
  if results.all fun result => result.status = .approved then .approved
  else if results.any fun result => result.status = .submitted then .submitted
  else .draft

def examSubject (db : AcademicDb) (row : ℕ × Result) : ExamSubject :=
  { resultId := row.1
    subjectId := row.2.subjectId
    subjectName := (findSubject row.2.subjectId db).map (·.name)
    caScore := row.2.caScore
    examScore := row.2.examScore
    totalScore := row.2.totalScore
    grade := row.2.grade
    status := row.2.status }

def summaryRow (env : AcademicEnv) (db : AcademicDb) (group : ResultGroup) : SummaryRow :=
  let rows := (liveResults db).filter fun row => row.2.group = group
  let results := rows.map (·.2)
  { studentId := group.studentId
    studentName := (group.studentName db).getD ""
    classId := group.classId
    className := (group.className db).getD ""
    schoolLevel := classLevel group.classId db
    termId := group.termId
    termName := ((db.terms.find? fun term => term.id = group.termId).map (·.name)).getD group.termId
    totalSubjects := results.length
    averageScore := averageScore results
    status := summaryStatus results
    examSubjects := (rows.map (examSubject db)).insertionSort fun a b =>
      ¬ nameBefore env.before b.subjectName a.subjectName }

def summaryRows (env : AcademicEnv) (db : AcademicDb) : List SummaryRow :=
  ((((liveResults db).map fun row => row.2.group).dedup).insertionSort (groupBefore env db)).map
    (summaryRow env db)

def SummaryRow.approvedOnly (row : SummaryRow) : SummaryRow :=
  { row with examSubjects := row.examSubjects.filter fun subject => subject.status = .approved }

/-- The class is the teacher's, or one of the subjects. -/
def SummaryRow.inScope (scope : TeacherScope) (row : SummaryRow) : Bool :=
  row.classId ∈ scope.classIds
    || scope.subjectIds.any fun id => row.examSubjects.any fun subject => subject.subjectId = id

def listResultsSummary (env : AcademicEnv) (actorUserId : String) (db : AcademicDb) :
    Except AcademicError (List SummaryRow) := do
  let audienceScoped ← filterStudentParentResults actorUserId
    (fun row => row.studentId.getD "undefined") SummaryRow.approvedOnly (summaryRows env db) db
  filterByScope actorUserId SummaryRow.inScope
    (filterByActorSchoolLevel actorUserId (·.schoolLevel) audienceScoped db) db

/-! ## What is not approved -/

/-- The row `i` as far as it is approved. -/
def approvedAt (i : ℕ) (db : AcademicDb) : Option Result :=
  db.results[i]?.join.filter fun result => result.status = .approved

/-- The tables differ in results that are not approved. -/
structure SameApproved (db db' : AcademicDb) : Prop where
  tables : ∃ results, db' = { db with results }
  approved : ∀ i, approvedAt i db' = approvedAt i db

/-- A student or a parent may see a result of the student, the class and the subject: it is
their own or a child's, of their school level, and, if they teach, of their classes or
subjects. -/
def maySee (actorUserId : String) (db : AcademicDb) (studentId classId subjectId : String) :
    Bool :=
  let roles := rolesOf actorUserId db
  let scope := getTeacherScope actorUserId db
  (visibleStudents actorUserId roles db).any (fun ids => studentId ∈ ids)
    && schoolLevelMatches (getActorSchoolLevel actorUserId db) (classLevel classId db)
    && (!scope.isTeacher || hasAcademicManagementRole roles
      || classId ∈ scope.classIds || subjectId ∈ scope.subjectIds)

section Audience
variable {env : AcademicEnv} {actorUserId : String} {db : AcademicDb}

/-- A student or a parent is a user, and is narrowed to some students. -/
theorem audience_roles
    (haudience : .student ∈ rolesOf actorUserId db ∨ .parent ∈ rolesOf actorUserId db) :
    getUserRoles actorUserId db = .ok (rolesOf actorUserId db)
      ∧ ∃ ids, visibleStudents actorUserId (rolesOf actorUserId db) db = some ids := by
  constructor
  · unfold rolesOf at haudience ⊢
    unfold getUserRoles
    cases huser : findUser actorUserId db with
    | none => simp [huser] at haudience
    | some user => rfl
  unfold visibleStudents
  rw [if_neg fun hnone => haudience.elim hnone.1 hnone.2]
  split
  · exact ⟨_, rfl⟩
  · exact ⟨_, rfl⟩

/-- What is left out for a teacher, as a filter. -/
theorem filterByScope_eq {α : Type} {roles : List Role}
    (hroles : getUserRoles actorUserId db = .ok roles) (inScope : TeacherScope → α → Bool)
    (rows : List α) :
    filterByScope actorUserId inScope rows db
      = .ok (rows.filter fun row => !(getTeacherScope actorUserId db).isTeacher
          || hasAcademicManagementRole roles || inScope (getTeacherScope actorUserId db) row) := by
  simp only [filterByScope, hroles, bind, Except.bind]
  by_cases hall : (getTeacherScope actorUserId db).isTeacher = false
      ∨ hasAcademicManagementRole roles = true
  · rw [if_pos hall]
    refine congrArg Except.ok (List.filter_eq_self.2 fun row _ => ?_).symm
    rcases hall with hall | hall
    · simp [hall]
    · simp [hall]
  rw [if_neg hall]
  refine congrArg Except.ok (List.filter_congr fun row _ => ?_)
  rw [not_or, Bool.not_eq_false, Bool.not_eq_true] at hall
  simp [hall.1, hall.2]

theorem filterStudentParentResults_eq {α : Type} {roles : List Role} {ids : List String}
    (hroles : getUserRoles actorUserId db = .ok roles)
    (hids : visibleStudents actorUserId roles db = some ids) (studentOf : α → String)
    (approvedOnly : α → α) (rows : List α) :
    filterStudentParentResults actorUserId studentOf approvedOnly rows db
      = .ok ((rows.filter fun row => studentOf row ∈ ids).map approvedOnly) := by
  simp only [filterStudentParentResults, hroles, bind, Except.bind, hids]
  rfl

theorem mem_liveResults {row : ℕ × Result} (h : row ∈ liveResults db) :
    row.1 < db.results.length := by
  obtain ⟨⟨cell, i⟩, hcell, hrow⟩ := List.mem_filterMap.1 h
  obtain ⟨result, -, rfl⟩ := Option.map_eq_some_iff.1 hrow
  simpa using (List.mem_zipIdx hcell).2.1

theorem mem_latestResults {row : ResultView} (h : row ∈ latestResults db) :
    row.id < db.results.length ∧ row.schoolLevel = classLevel row.result.classId db := by
  obtain ⟨live, hlive, rfl⟩ := List.mem_map.1 h
  exact ⟨mem_liveResults (List.mem_reverse.1 (List.mem_of_mem_take hlive)), rfl⟩

/-- **The list of a student or a parent**: the latest results that the caller may see. -/
theorem listResults_eq
    (haudience : .student ∈ rolesOf actorUserId db ∨ .parent ∈ rolesOf actorUserId db) :
    listResults actorUserId db
      = .ok ((latestResults db).filter fun row =>
          maySee actorUserId db (row.result.studentId.getD "null") row.result.classId
            row.result.subjectId) := by
  obtain ⟨hroles, ids, hids⟩ := audience_roles haudience
  rw [listResults, filterStudentParentResults_eq hroles hids]
  refine (filterByScope_eq hroles _ _).trans (congrArg Except.ok ?_)
  rw [List.map_id, filterByActorSchoolLevel, List.filter_filter, List.filter_filter]
  refine List.filter_congr fun row hrow => ?_
  simp only [maySee, hids, Option.any_some, ResultView.inScope, (mem_latestResults hrow).2]
  ac_rfl

theorem mem_listResults
    (haudience : .student ∈ rolesOf actorUserId db ∨ .parent ∈ rolesOf actorUserId db)
    {rows : List ResultView} (h : listResults actorUserId db = .ok rows) {row : ResultView} :
    row ∈ rows ↔ row ∈ latestResults db
      ∧ maySee actorUserId db (row.result.studentId.getD "null") row.result.classId
          row.result.subjectId = true := by
  rw [listResults_eq haudience] at h
  cases h
  exact List.mem_filter

theorem listResults_of_blind
    (haudience : .student ∈ rolesOf actorUserId db ∨ .parent ∈ rolesOf actorUserId db)
    (hblind : ∀ studentId classId subjectId,
      maySee actorUserId db studentId classId subjectId = false) :
    listResults actorUserId db = .ok [] := by
  rw [listResults_eq haudience]
  refine congrArg Except.ok (List.filter_eq_nil_iff.2 fun row _ => ?_)
  rw [hblind]
  exact Bool.false_ne_true

/-- Who may see no result gets an empty summary. -/
theorem listResultsSummary_of_blind
    (haudience : .student ∈ rolesOf actorUserId db ∨ .parent ∈ rolesOf actorUserId db)
    (hblind : ∀ studentId classId subjectId,
      maySee actorUserId db studentId classId subjectId = false) :
    listResultsSummary env actorUserId db = .ok [] := by
  obtain ⟨hroles, ids, hids⟩ := audience_roles haudience
  rw [listResultsSummary, filterStudentParentResults_eq hroles hids]
  refine (filterByScope_eq hroles _ _).trans (congrArg Except.ok ?_)
  rw [List.filter_eq_nil_iff]
  intro row hrow hscope
  obtain ⟨hrow, hlevel⟩ := List.mem_filter.1 hrow
  obtain ⟨source, hsource, rfl⟩ := List.mem_map.1 hrow
  obtain ⟨hsource, hstudent⟩ := List.mem_filter.1 hsource
  obtain ⟨group, -, rfl⟩ := List.mem_map.1 hsource
  have hstudent' : group.studentId.getD "undefined" ∈ ids := of_decide_eq_true hstudent
  have hlevel' : schoolLevelMatches (getActorSchoolLevel actorUserId db)
      (classLevel group.classId db) = true := hlevel
  -- the subject that lets the row pass, if it is not the class
  have hscope' : ∃ subjectId, (!(getTeacherScope actorUserId db).isTeacher
      || hasAcademicManagementRole (rolesOf actorUserId db)
      || group.classId ∈ (getTeacherScope actorUserId db).classIds
      || subjectId ∈ (getTeacherScope actorUserId db).subjectIds) = true := by
    rcases Bool.or_eq_true_iff.1 hscope with hall | hscope
    · exact ⟨"", by rw [hall, Bool.true_or, Bool.true_or]⟩
    rcases Bool.or_eq_true_iff.1 hscope with hclass | hsubject
    · have hclass' : group.classId ∈ (getTeacherScope actorUserId db).classIds :=
        of_decide_eq_true hclass
      exact ⟨"", by simp [hclass']⟩
    obtain ⟨subjectId, hmem, -⟩ := List.any_eq_true.1 hsubject
    exact ⟨subjectId, by simp [hmem]⟩
  obtain ⟨subjectId, hpass⟩ := hscope'
  have hsee : maySee actorUserId db (group.studentId.getD "undefined") group.classId subjectId
      = true := by
    simp only [maySee, hids, Option.any_some, hlevel', hpass, hstudent', decide_true,
      Bool.and_true]
  rw [hblind] at hsee
  cases hsee

theorem latestResults_insert (result : Result) :
    { id := db.results.length, result, schoolLevel := classLevel result.classId db }
      ∈ latestResults { db with results := db.results.insert (some result) } := by
  have hlive : liveResults { db with results := db.results.insert (some result) }
      = liveResults db ++ [(db.results.length, result)] := by
    simp [liveResults, Table.insert, List.zipIdx_append]
  rw [latestResults, hlive, List.reverse_append]
  exact List.mem_map.2 ⟨(db.results.length, result), List.mem_cons_self, rfl⟩

/-- A result that is inserted and not approved leaves what is approved. -/
theorem sameApproved_insert {result : Result} (hstatus : result.status ≠ .approved) :
    SameApproved db { db with results := db.results.insert (some result) } := by
  refine ⟨⟨_, rfl⟩, ?_⟩
  intro i
  rw [approvedAt, approvedAt, Table.getElem?_insert]
  split
  · rename_i hi
    rw [hi, Table.nextId, List.getElem?_eq_none (Nat.le_refl _)]
    simp [hstatus]
  · rfl

end Audience

/-- **What is not approved stays hidden** from a student or a parent exactly when the caller
may see no result at all: no student is theirs, or no class is of their school level, or, of
a caller who teaches too, no class and no subject is theirs. -/
theorem results_hidden_iff (env : AcademicEnv) (actorUserId : String) (db : AcademicDb)
    (haudience : .student ∈ rolesOf actorUserId db ∨ .parent ∈ rolesOf actorUserId db) :
    (∀ db', SameApproved db db' →
        listResults actorUserId db' = listResults actorUserId db
          ∧ listResultsSummary env actorUserId db' = listResultsSummary env actorUserId db)
      ↔ ∀ studentId classId subjectId,
          maySee actorUserId db studentId classId subjectId = false := by
  constructor
  · intro hhidden studentId classId subjectId
    rw [Bool.eq_false_iff]
    intro hsee
    let leaked : Result :=
      { studentId := some studentId, classId, subjectId, termId := "", caScore := none
        examScore := none, totalScore := none, grade := none, status := .submitted }
    have hsame : SameApproved db { db with results := db.results.insert (some leaked) } :=
      sameApproved_insert (by rintro ⟨⟩)
    have hlists := (hhidden _ hsame).1
    rw [listResults_eq haudience] at hlists
    have haudience' : .student ∈ rolesOf actorUserId
          { db with results := db.results.insert (some leaked) }
        ∨ .parent ∈ rolesOf actorUserId
          { db with results := db.results.insert (some leaked) } := haudience
    have hshown := (mem_listResults haudience' hlists).2 ⟨latestResults_insert leaked, hsee⟩
    have hold := (mem_latestResults (List.mem_filter.1 hshown).1).1
    exact absurd hold (Nat.lt_irrefl _)
  intro hblind db' hsame
  obtain ⟨results, rfl⟩ := hsame.tables
  rw [listResults_of_blind haudience hblind, listResultsSummary_of_blind haudience hblind]
  exact ⟨listResults_of_blind haudience hblind, listResultsSummary_of_blind haudience hblind⟩

/-- A student with one approved result, and a parent of nobody. -/
def reportedSchool : AcademicDb :=
  { users :=
      [ { id := "student", name := "Student", roles := [.student] },
        { id := "parent", name := "Parent", roles := [.parent] } ]
    classes := [ { id := "class", name := "Class", code := "C", schoolLevel := "primary" } ]
    results :=
      [ some
          { studentId := some "student", classId := "class", subjectId := "maths"
            termId := "term", caScore := some 30, examScore := some 50, totalScore := some 80
            grade := some "A", status := .approved } ] }

/-- A result of the student that is still to be approved. -/
def pendingResult : Result :=
  { studentId := some "student", classId := "class", subjectId := "english", termId := "term"
    caScore := some 5, examScore := some 5, totalScore := some 10, grade := some "F"
    status := .submitted }

theorem results_hidden_iff_example :
    .parent ∈ rolesOf "parent" reportedSchool
      ∧ ∀ db', SameApproved reportedSchool db' →
        listResults "parent" db' = listResults "parent" reportedSchool
          ∧ listResultsSummary {} "parent" db' = listResultsSummary {} "parent" reportedSchool :=
  have hparent : .parent ∈ rolesOf "parent" reportedSchool := by decide
  have hnone : visibleStudents "parent" (rolesOf "parent" reportedSchool) reportedSchool
      = some [] := by decide
  ⟨hparent, (results_hidden_iff {} "parent" reportedSchool (Or.inr hparent)).2 fun _ _ _ => by
    simp [maySee, hnone]⟩

/-- **A student sees what is not approved**: the pending result is in the list, and the
summary counts it, averages it and has its status. -/
theorem not_results_hidden :
    SameApproved reportedSchool
        { reportedSchool with results := reportedSchool.results.insert (some pendingResult) }
      ∧ ((listResults "student" reportedSchool).toOption.map fun rows => rows.map (·.id))
          = some [0]
      ∧ ((listResults "student"
          { reportedSchool with
            results := reportedSchool.results.insert (some pendingResult) }).toOption.map
          fun rows => rows.map (·.id)) = some [1, 0]
      ∧ ((listResultsSummary {} "student" reportedSchool).toOption.map fun rows =>
          rows.map fun row => (row.totalSubjects, row.averageScore, row.status))
          = some [(1, 80, .approved)]
      ∧ ((listResultsSummary {} "student"
          { reportedSchool with
            results := reportedSchool.results.insert (some pendingResult) }).toOption.map
          fun rows => rows.map fun row => (row.totalSubjects, row.averageScore, row.status))
          = some [(2, 45, .submitted)]
      ∧ ¬ ∀ (env : AcademicEnv) (actorUserId : String) (db db' : AcademicDb),
          (.student ∈ rolesOf actorUserId db ∨ .parent ∈ rolesOf actorUserId db) →
          SameApproved db db' →
          listResults actorUserId db' = listResults actorUserId db
            ∧ listResultsSummary env actorUserId db' = listResultsSummary env actorUserId db := by
  have hsame : SameApproved reportedSchool
      { reportedSchool with results := reportedSchool.results.insert (some pendingResult) } :=
    sameApproved_insert (by rintro ⟨⟩)
  refine ⟨hsame, by decide +kernel, by decide +kernel, by decide +kernel, by decide +kernel,
    fun h => ?_⟩
  have hstudent : .student ∈ rolesOf "student" reportedSchool := by decide
  have hlists := congrArg (fun rows => rows.toOption.map List.length)
    (h {} "student" _ _ (Or.inl hstudent) hsame).1
  revert hlists
  decide +kernel

end MultiAcademy.School
