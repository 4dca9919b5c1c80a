import MultiAcademy.Lib.Calendar
import MultiAcademy.Lib.Footprint
import MultiAcademy.School.AcademicCalendar
import MultiAcademy.School.ResultLists

/-!
# Changing the academic tables

The mutators of `academic/academic.service.ts` over the tables that its lists read: those of
sessions and terms, which the calendar has; those of classes and subjects; and those of results,
which score sheets and results have.
-/

namespace MultiAcademy.School

open MultiAcademy.Lib

/-! ## The tables -/

/-- A row of `academic_classes`. -/
structure ClassRow where
  id : String
  name : String
  code : String
  schoolLevel : String
  classTeacherId : Option String := none
  capacity : Option ℕ := none
  isActive : Bool := true
  createdAt : Time := 0
  updatedAt : Time := 0
  deriving DecidableEq

/-- A row of `academic_subjects`. -/
structure SubjectRow where
  id : String
  name : String
  code : String
  schoolLevel : String
  description : Option String := none
  categoryId : Option String := none
  classIds : List String := []
  isActive : Bool := true
  deriving DecidableEq

/-- A row of `academic_subject_categories`. -/
structure SubjectCategory where
  id : String
  name : String
  slug : String
  deriving DecidableEq

/-- The tables; those of sessions, terms, classes and subjects among the records are not used. -/
structure AcademicStore where
  calendar : AcademicCalendar := {}
  classes : Keyed ClassRow.id := .empty
  subjects : Keyed SubjectRow.id := .empty
  subjectCategories : Keyed SubjectCategory.slug := .empty
  records : AcademicDb := {}

def ClassRow.schoolClass (row : ClassRow) : SchoolClass :=
  { id := row.id, name := row.name, code := row.code, schoolLevel := row.schoolLevel
    classTeacherId := row.classTeacherId }

def SubjectRow.subject (row : SubjectRow) : Subject :=
  { id := row.id, name := row.name, schoolLevel := row.schoolLevel, classIds := row.classIds }

def TermRow.term (row : TermRow) : Term :=
  { id := row.id, sessionId := row.sessionId, code := row.code, name := row.name
    startDate := row.startDate, endDate := row.endDate }

/-- The tables as the requests on results read them. -/
def AcademicStore.db (s : AcademicStore) : AcademicDb :=
  { s.records with
    classes := s.classes.rows.map ClassRow.schoolClass
    subjects := s.subjects.rows.map SubjectRow.subject
    sessions := s.calendar.sessions.rows.map fun row => { id := row.id, name := row.name }
    terms := s.calendar.terms.rows.map TermRow.term }

/-! ## Classes and subjects -/

/-- `UpsertClassDto`. -/
structure ClassBody where
  name : String
  code : String
  schoolLevel : String
  classTeacherId : Option String := none
  capacity : Option ℕ := none
  isActive : Option Bool := none

/-- `UpdateClassDto`; of a teacher, a capacity and the flag, `some none` is an explicit null. -/
structure ClassPatch where
  name : Option String := none
  code : Option String := none
  schoolLevel : Option String := none
  classTeacherId : Option (Option String) := none
  capacity : Option (Option ℕ) := none
  isActive : Option (Option Bool) := none

/-- `UpsertSubjectDto`. -/
structure SubjectBody where
  name : String
  code : String
  schoolLevel : String
  description : Option String := none
  categoryId : Option String := none
  classIds : List String := []
  isActive : Option Bool := none

/-- `UpdateSubjectDto`; of a description, a category and the flag, `some none` is an explicit
null. -/
structure SubjectPatch where
  name : Option String := none
  code : Option String := none
  schoolLevel : Option String := none
  description : Option (Option String) := none
  categoryId : Option (Option String) := none
  classIds : Option (List String) := none
  isActive : Option (Option Bool) := none

/-- The row that `upsertClass` makes of one that is there. -/
def ClassPatch.merge (body : ClassPatch) (now : Time) (existing row : ClassRow) : ClassRow :=
  { row with
    name := body.name.getD existing.name
    code := body.code.getD existing.code
    schoolLevel := body.schoolLevel.getD existing.schoolLevel
    classTeacherId := orNull (body.classTeacherId.getD existing.classTeacherId)
    capacity := (body.capacity.getD existing.capacity).filter fun n => n ≠ 0
    isActive := body.isActive.elim existing.isActive isTrue
    updatedAt := now }

/-- The row that `upsertSubject` makes of one that is there. -/
def SubjectPatch.merge (body : SubjectPatch) (existing row : SubjectRow) : SubjectRow :=
  { row with
    name := body.name.getD existing.name
    code := body.code.getD existing.code
    schoolLevel := body.schoolLevel.getD existing.schoolLevel
    description := orNull (body.description.getD existing.description)
    categoryId := orNull (body.categoryId.getD existing.categoryId)
    classIds := body.classIds.getD existing.classIds
    isActive := body.isActive.elim existing.isActive isTrue }

variable (id : String)

/-- `upsertClass` of a new class; `id` is the random token. -/
def createClass (body : ClassBody) (now : Time) (s : AcademicStore) :
    Option AcademicStore :=
  (s.classes.insert?
    { id, name := body.name, code := body.code, schoolLevel := body.schoolLevel
      classTeacherId := orNull body.classTeacherId
      capacity := body.capacity.filter fun n => n ≠ 0
      isActive := body.isActive ≠ some false
      createdAt := now, updatedAt := now }).map fun classes => { s with classes }

/-- `upsertClass` of a class that is there. -/
def updateClass (body : ClassPatch) (now : Time) (s : AcademicStore) :
    Option AcademicStore :=
  (s.classes.find? id).map fun existing =>
    { s with
      classes := s.classes.updateWhere (fun row => row.id = id) (body.merge now existing)
        fun _ => rfl }

def deleteClass (now : Time) (s : AcademicStore) : AcademicStore :=
  { s with
    classes := s.classes.updateWhere (fun row => row.id = id)
      (fun row => { row with isActive := false, updatedAt := now }) fun _ => rfl }

/-- `upsertSubject` of a new subject; `id` is the random token. -/
def createSubject (body : SubjectBody) (s : AcademicStore) : Option AcademicStore :=
  (s.subjects.insert?
    { id, name := body.name, code := body.code, schoolLevel := body.schoolLevel
      description := orNull body.description
      categoryId := orNull body.categoryId
      classIds := body.classIds
      isActive := body.isActive ≠ some false }).map fun subjects => { s with subjects }

/-- `upsertSubject` of a subject that is there. -/
def updateSubject (body : SubjectPatch) (s : AcademicStore) :
    Option AcademicStore :=
  (s.subjects.find? id).map fun existing =>
    { s with
      subjects := s.subjects.updateWhere (fun row => row.id = id) (body.merge existing)
        fun _ => rfl }

/-- `createSubjectCategory`; `id` is the random token. -/
def createSubjectCategory (id name slug : String) (s : AcademicStore) : Option AcademicStore :=
  (s.subjectCategories.insert? { id, name := trim name, slug := (trim slug).toLower }).map
    fun subjectCategories => { s with subjectCategories }

def deleteSubject (s : AcademicStore) : AcademicStore :=
  { s with
    subjects := s.subjects.updateWhere (fun row => row.id = id)
      (fun row => { row with isActive := false }) fun _ => rfl }

/-! ## The default structure -/

/-- `DEFAULT_CATEGORIES`: names and slugs. -/
def defaultCategories : List (String × String) :=
  [("Science", "science"), ("Art", "art"), ("Commercial", "commercial")]

/-- `DEFAULT_CLASSES`: names, codes and school levels. -/
def defaultClasses : List (String × String × String) :=
  let numbered (count : ℕ) (name code level : String) : List (String × String × String) :=
    (List.range count).map fun i => (s!"{name} {i + 1}", s!"{code}{i + 1}", level)
  numbered 3 "Nursery" "NUR" "nursery" ++ numbered 6 "Primary" "PRI" "primary"
    ++ numbered 3 "JSS" "JSS" "jss" ++ numbered 3 "SSS" "SSS" "sss"

/-- `INSERT INTO academic_subject_categories … ON CONFLICT (slug) DO UPDATE`. -/
def putCategory (row : SubjectCategory) (s : AcademicStore) : AcademicStore :=
  { s with
    subjectCategories := (s.subjectCategories.insert? row).getD
      (s.subjectCategories.updateWhere (fun old => old.slug = row.slug)
        (fun old => { old with name := row.name }) fun _ => rfl) }

/-- The classes of `repairDefaultStructure`, up to an insert that fails. -/
def repairClasses (now : Time) (token : String → String) :
    List (String × String × String) → AcademicStore → AcademicStore
  | [], s => s
  | (name, code, schoolLevel) :: rest, s =>
    if s.classes.rows.any fun row => row.code = code then
      repairClasses now token rest
        { s with
          classes := s.classes.updateWhere (fun row => row.code = code)
            (fun row => { row with isActive := true, updatedAt := now }) fun _ => rfl }
    else
      match s.classes.insert?
          { id := token code, name, code, schoolLevel, createdAt := now, updatedAt := now } with
      | none => s
      | some classes => repairClasses now token rest { s with classes }

/-- `repairDefaultStructure`; `token` gives the random tokens. -/
def repairDefaultStructure (token : String → String) (now : Time) (s : AcademicStore) :
    AcademicStore :=
  repairClasses now token defaultClasses
    (defaultCategories.foldl
      (fun s row => putCategory { id := token row.2, name := row.1, slug := row.2 } s) s)

/-! ## The mutators -/

inductive AcademicMutation
  | calendar (op : CalendarOp)
  | createClass (id : String) (body : ClassBody)
  | updateClass (id : String) (body : ClassPatch)
  | deleteClass (id : String)
  | createSubject (id : String) (body : SubjectBody)
  | updateSubject (id : String) (body : SubjectPatch)
  | deleteSubject (id : String)
  | createSubjectCategory (id name slug : String)
  | repairDefaultStructure (token : String → String)
  | results (e : AcademicEvent)

def AcademicMutation.apply (env : AcademicEnv) (now : Time) (m : AcademicMutation)
    (s : AcademicStore) : AcademicStore :=
  match m with
  | .calendar op => { s with calendar := calendarStep op s.calendar }
  | .createClass id body => (School.createClass id body now s).getD s
  | .updateClass id body => (School.updateClass id body now s).getD s
  | .deleteClass id => School.deleteClass id now s
  | .createSubject id body => (School.createSubject id body s).getD s
  | .updateSubject id body => (School.updateSubject id body s).getD s
  | .deleteSubject id => School.deleteSubject id s
  | .createSubjectCategory id name slug => (School.createSubjectCategory id name slug s).getD s
  | .repairDefaultStructure token => School.repairDefaultStructure token now s
  | .results e => { s with records := academicStep env e s.db }

/-! ## What the mutators write -/

inductive AcademicTable
  | people
  | sessions
  | terms
  | classes
  | subjects
  | subjectCategories
  | enrollments
  | results
  | generatedResults
  deriving DecidableEq

def AcademicTable.same (table : AcademicTable) (s s' : AcademicStore) : Prop :=
  match table with
  | .people => s.records.users = s'.records.users ∧ s.records.parents = s'.records.parents
      ∧ s.records.classTeachers = s'.records.classTeachers
      ∧ s.records.subjectTeachers = s'.records.subjectTeachers
  | .sessions => s.calendar.sessions = s'.calendar.sessions
  | .terms => s.calendar.terms = s'.calendar.terms
  | .classes => s.classes = s'.classes
  | .subjects => s.subjects = s'.subjects
  | .subjectCategories => s.subjectCategories = s'.subjectCategories
  | .enrollments => s.records.enrollments = s'.records.enrollments
  | .results => s.records.results = s'.records.results
  | .generatedResults => s.records.generatedResults = s'.records.generatedResults

def CalendarOp.writes : CalendarOp → List AcademicTable
  | .createSession _ _ | .updateSession _ _ | .setCurrentSession _ => [.sessions]
  | .createTerm _ _ | .updateTerm _ _ | .deleteTerm _ => [.terms]
  | .deleteSession _ | .setCurrentTerm _ => [.sessions, .terms]

def AcademicEvent.writes : AcademicEvent → List AcademicTable
  | .saveScoreSheetBatch _ _ => []
  | .generateScoreSheetResult _ _ _ => [.generatedResults, .results]
  | .upsertResult _ _ _ => [.results, .enrollments]
  | .approveResult _ _ _ | .approveResultsBatch _ | .deleteResult _ => [.results]
  | .releaseGeneratedResult _ _ => [.generatedResults]

def AcademicMutation.writes : AcademicMutation → List AcademicTable
  | .calendar op => op.writes
  | .createClass _ _ | .updateClass _ _ | .deleteClass _ => [.classes]
  | .createSubject _ _ | .updateSubject _ _ | .deleteSubject _ => [.subjects]
  | .createSubjectCategory _ _ _ => [.subjectCategories]
  | .repairDefaultStructure _ => [.classes, .subjectCategories]
  | .results e => e.writes

/-! ## What the mutators invalidate -/

def CalendarOp.drops : CalendarOp → List String
  | .createSession _ _ | .updateSession _ _ | .deleteSession _ | .setCurrentSession _ =>
    ["sessions"]
  | .createTerm _ _ | .updateTerm _ _ | .deleteTerm _ => ["terms:"]
  | .setCurrentTerm _ => ["terms:", "sessions"]

def AcademicEvent.drops (env : AcademicEnv) (db : AcademicDb) : AcademicEvent → List String
  | .generateScoreSheetResult actorUserId studentId sitting =>
    match School.generateScoreSheetResult env actorUserId studentId sitting db with
    | .ok _ => ["generated-results:", "results:"]
    | .error _ => []
  | .releaseGeneratedResult actorUserId id =>
    match School.releaseGeneratedResult actorUserId id db with
    | .ok _ =>
      -- it returns early for a result that is released already
      if db.generatedResults[id]?.any fun row => row.releaseStatus = .approved then []
      else ["generated-results:"]
    | .error _ => []
  | .saveScoreSheetBatch _ _ | .upsertResult _ _ _ | .approveResult _ _ _
  | .approveResultsBatch _ | .deleteResult _ => []

/-- The families of lists that a mutator invalidates, after `tenant:…:academic:`; who fails
invalidates none. -/
def AcademicMutation.drops (env : AcademicEnv) (now : Time) (m : AcademicMutation)
    (s : AcademicStore) : List String :=
  match m with
  | .calendar op =>
    match (op.apply s.calendar).1 with
    | .ok _ => op.drops
    | .error _ => []
  | .createClass id body => if (School.createClass id body now s).isSome then ["classes:"] else []
  | .updateClass id body => if (School.updateClass id body now s).isSome then ["classes:"] else []
  | .deleteClass _ => ["classes:"]
  | .createSubject id body => if (School.createSubject id body s).isSome then ["subjects:"] else []
  | .updateSubject id body => if (School.updateSubject id body s).isSome then ["subjects:"] else []
  | .deleteSubject _ | .createSubjectCategory _ _ _ | .repairDefaultStructure _ => []
  | .results e => e.drops env s.db

/-! ## The other tables -/

section Frame
variable (env : AcademicEnv) (db : AcademicDb)

theorem calendar_frame (op : CalendarOp) (c : AcademicCalendar) :
    (.sessions ∉ op.writes → (calendarStep op c).sessions = c.sessions)
      ∧ (.terms ∉ op.writes → (calendarStep op c).terms = c.terms) := by
  cases op with
  | createSession id body =>
    refine ⟨fun h => absurd List.mem_cons_self h, fun _ => ?_⟩
    simp only [calendarStep, CalendarOp.apply, School.createSession, insertSession]
    split <;> split <;> rfl
  | updateSession id body =>
    refine ⟨fun h => absurd List.mem_cons_self h, fun _ => ?_⟩
    simp only [calendarStep, CalendarOp.apply, School.updateSession]
    split
    · rfl
    dsimp only
    split <;> rfl
  | setCurrentSession id =>
    refine ⟨fun h => absurd List.mem_cons_self h, fun _ => ?_⟩
    simp only [calendarStep, CalendarOp.apply, School.setCurrentSession]
    split <;> rfl
  | createTerm id body =>
    refine ⟨fun _ => ?_, fun h => absurd List.mem_cons_self h⟩
    simp only [calendarStep, CalendarOp.apply, School.createTerm]
    split
    · rfl
    simp only [insertTerm]
    split <;> split <;> rfl
  | updateTerm id body =>
    refine ⟨fun _ => ?_, fun h => absurd List.mem_cons_self h⟩
    simp only [calendarStep, CalendarOp.apply, School.updateTerm]
    split
    · rfl
    split
    · rfl
    dsimp only
    split <;> rfl
  | deleteTerm id =>
    refine ⟨fun _ => ?_, fun h => absurd List.mem_cons_self h⟩
    simp only [calendarStep, CalendarOp.apply, School.deleteTerm]
    split <;> rfl
  | deleteSession id => simp [CalendarOp.writes]
  | setCurrentTerm id => simp [CalendarOp.writes]

theorem generateScoreSheetResult_frame (actorUserId studentId : String) (sitting : Sitting) :
    ∃ generatedResults results,
      written db (generateScoreSheetResult env actorUserId studentId sitting db)
        = { db with generatedResults, results } := by
  rw [generateScoreSheetResult_eq]
  split
  · exact ⟨db.generatedResults, db.results, rfl⟩
  split
  · exact ⟨db.generatedResults, db.results, rfl⟩
  simp only [putGenerated, written]
  split
  · exact ⟨_, _, rfl⟩
  · exact ⟨_, _, rfl⟩

theorem ensureEnrollment_frame (studentId : Option String) (classId : String) :
    ∃ enrollments, ensureEnrollment studentId classId db = { db with enrollments } := by
  simp only [ensureEnrollment]
  split
  · exact ⟨db.enrollments, rfl⟩
  split
  · exact ⟨db.enrollments, rfl⟩
  split
  · exact ⟨db.enrollments, rfl⟩
  · exact ⟨_, rfl⟩

theorem upsertResult_frame (actorUserId : String) (id : Option ℕ) (body : ResultBody) :
    ∃ results enrollments,
      written db (upsertResult env actorUserId id body db)
        = { db with results, enrollments } := by
  have hput : ∀ studentId classId results, ∃ results' enrollments,
      ensureEnrollment studentId classId { db with results }
        = { db with results := results', enrollments } := by
    intro studentId classId results
    obtain ⟨enrollments, henrolled⟩ :=
      ensureEnrollment_frame { db with results } studentId classId
    exact ⟨results, enrollments, henrolled⟩
  simp only [upsertResult]
  cases checkUpsert actorUserId id body db with
  | error error => exact ⟨db.results, db.enrollments, rfl⟩
  | ok existing =>
    cases id with
    | none => exact hput _ _ _
    | some k =>
      cases existing with
      | none => exact hput _ _ _
      | some result => exact hput _ _ _

theorem approveResult_frame (id : ℕ) (approverId comment : Option String) :
    ∃ results, written db (approveResult id approverId comment db) = { db with results } := by
  simp only [approveResult, bind, Except.bind]
  split
  · exact ⟨db.results, rfl⟩
  split
  · exact ⟨db.results, rfl⟩
  · exact ⟨_, rfl⟩

theorem approveResultsBatch_frame (filter : ApprovalFilter) :
    ∃ results, written db (approveResultsBatch filter db) = { db with results } := by
  simp only [approveResultsBatch]
  split
  · exact ⟨db.results, rfl⟩
  · exact ⟨_, rfl⟩

theorem releaseGeneratedResult_frame (actorUserId : String) (id : ℕ) :
    ∃ generatedResults,
      written db (releaseGeneratedResult actorUserId id db) = { db with generatedResults } := by
  simp only [releaseGeneratedResult, bind, Except.bind]
  cases getUserRoles actorUserId db with
  | error error => exact ⟨db.generatedResults, rfl⟩
  | ok roles =>
    dsimp only
    split
    · exact ⟨db.generatedResults, rfl⟩
    cases db.generatedResults[id]? with
    | none => exact ⟨db.generatedResults, rfl⟩
    | some row =>
      dsimp only
      split
      · exact ⟨db.generatedResults, rfl⟩
      · exact ⟨_, rfl⟩

variable {table : AcademicTable} {s : AcademicStore}

/-- Stores that differ in results, enrollments and generated results agree on the rest. -/
theorem AcademicTable.same_records
    {db : AcademicDb} (hrest : ∃ results enrollments generatedResults scoreSheets,
      db = { s.db with results, enrollments, generatedResults, scoreSheets })
    (hresults : table = .results → db.results = s.db.results)
    (henrollments : table = .enrollments → db.enrollments = s.db.enrollments)
    (hgenerated : table = .generatedResults → db.generatedResults = s.db.generatedResults) :
    table.same { s with records := db } s := by
  obtain ⟨_, _, _, _, rfl⟩ := hrest
  cases table with
  | results => exact hresults rfl
  | enrollments => exact henrollments rfl
  | generatedResults => exact hgenerated rfl
  | people => exact ⟨rfl, rfl, rfl, rfl⟩
  | _ => rfl

theorem AcademicTable.same_results
    (htable : table ∉ [AcademicTable.results]) (results : Table (Option Result)) :
    table.same { s with records := { s.db with results } } s :=
  AcademicTable.same_records ⟨_, _, _, _, rfl⟩
    (fun hr => absurd (List.mem_singleton.2 hr) htable) (fun _ => rfl) fun _ => rfl

/-- Stores that differ in classes, subjects and categories agree on the rest. -/
theorem AcademicTable.same_structure {s s' : AcademicStore}
    (hrest : ∃ classes subjects subjectCategories,
      s' = { s with classes, subjects, subjectCategories })
    (hclasses : table = .classes → s'.classes = s.classes)
    (hsubjects : table = .subjects → s'.subjects = s.subjects)
    (hcategories : table = .subjectCategories → s'.subjectCategories = s.subjectCategories) :
    table.same s' s := by
  obtain ⟨_, _, _, rfl⟩ := hrest
  cases table with
  | classes => exact hclasses rfl
  | subjects => exact hsubjects rfl
  | subjectCategories => exact hcategories rfl
  | people => exact ⟨rfl, rfl, rfl, rfl⟩
  | _ => rfl

theorem AcademicTable.same_classes
    (htable : table ∉ [AcademicTable.classes]) (classes : Keyed ClassRow.id) :
    table.same { s with classes } s :=
  AcademicTable.same_structure ⟨_, _, _, rfl⟩
    (fun hc => absurd (List.mem_singleton.2 hc) htable) (fun _ => rfl) fun _ => rfl

theorem AcademicTable.same_subjects
    (htable : table ∉ [AcademicTable.subjects]) (subjects : Keyed SubjectRow.id) :
    table.same { s with subjects } s :=
  AcademicTable.same_structure ⟨_, _, _, rfl⟩ (fun _ => rfl)
    (fun hc => absurd (List.mem_singleton.2 hc) htable) fun _ => rfl

/-- A request on results leaves the tables that it does not write. -/
theorem academicStep_frame (e : AcademicEvent) (s : AcademicStore) {table : AcademicTable}
    (htable : table ∉ e.writes) :
    table.same { s with records := academicStep env e s.db } s := by
  cases e with
  | saveScoreSheetBatch actorUserId batch =>
    obtain ⟨_, h⟩ := saveScoreSheetBatch_frame s.db actorUserId batch
    simp only [academicStep, h]
    exact AcademicTable.same_records ⟨_, _, _, _, rfl⟩ (fun _ => rfl) (fun _ => rfl)
      (fun _ => rfl)
  | generateScoreSheetResult actorUserId studentId sitting =>
    obtain ⟨_, _, h⟩ := generateScoreSheetResult_frame env s.db actorUserId studentId
      sitting
    simp only [academicStep, h]
    simp only [AcademicEvent.writes, List.mem_cons, not_or] at htable
    exact AcademicTable.same_records ⟨_, _, _, _, rfl⟩ (fun hr => absurd hr htable.2.1)
      (fun _ => rfl) (fun hg => absurd hg htable.1)
  | upsertResult actorUserId id body =>
    obtain ⟨_, _, h⟩ := upsertResult_frame env s.db actorUserId id body
    simp only [academicStep, h]
    simp only [AcademicEvent.writes, List.mem_cons, not_or] at htable
    exact AcademicTable.same_records ⟨_, _, _, _, rfl⟩ (fun hr => absurd hr htable.1)
      (fun he => absurd he htable.2.1) (fun _ => rfl)
  | approveResult id approverId comment =>
    obtain ⟨_, h⟩ := approveResult_frame s.db id approverId comment
    simp only [academicStep, h]
    exact AcademicTable.same_results htable _
  | approveResultsBatch filter =>
    obtain ⟨_, h⟩ := approveResultsBatch_frame s.db filter
    simp only [academicStep, h]
    exact AcademicTable.same_results htable _
  | deleteResult id =>
    simp only [academicStep, deleteResult]
    exact AcademicTable.same_results htable _
  | releaseGeneratedResult actorUserId id =>
    obtain ⟨_, h⟩ := releaseGeneratedResult_frame s.db actorUserId id
    simp only [academicStep, h]
    exact AcademicTable.same_records ⟨_, _, _, _, rfl⟩ (fun _ => rfl) (fun _ => rfl)
      (fun hg => absurd (List.mem_singleton.2 hg) htable)

/-- To repair the default structure is to change categories and classes. -/
theorem repairDefaultStructure_frame (token : String → String) (now : Time) (s : AcademicStore) :
    ∃ classes subjectCategories,
      School.repairDefaultStructure token now s = { s with classes, subjectCategories } := by
  have hclasses : ∀ codes (s : AcademicStore), ∃ classes,
      repairClasses now token codes s = { s with classes } := by
    intro codes
    induction codes with
    | nil => exact fun s => ⟨s.classes, rfl⟩
    | cons code codes ih =>
      intro s
      rw [repairClasses]
      split
      · obtain ⟨classes, h⟩ := ih { s with classes := _ }
        exact ⟨classes, h⟩
      split
      · exact ⟨s.classes, rfl⟩
      obtain ⟨classes, h⟩ := ih { s with classes := _ }
      exact ⟨classes, h⟩
  have hcategories : ∀ (rows : List (String × String)) (s : AcademicStore), ∃ subjectCategories,
      rows.foldl (fun s row => putCategory { id := token row.2, name := row.1, slug := row.2 } s) s
        = { s with subjectCategories } := by
    intro rows
    induction rows with
    | nil => exact fun s => ⟨s.subjectCategories, rfl⟩
    | cons row rows ih =>
      intro s
      obtain ⟨categories, h⟩ :=
        ih (putCategory { id := token row.2, name := row.1, slug := row.2 } s)
      exact ⟨categories, h⟩
  obtain ⟨subjectCategories, hcategories⟩ := hcategories defaultCategories s
  obtain ⟨classes, hclasses⟩ := hclasses defaultClasses { s with subjectCategories }
  exact ⟨classes, subjectCategories, by rw [School.repairDefaultStructure, hcategories, hclasses]⟩

end Frame

/-- **What a mutator writes**: it leaves the other tables as they are. -/
theorem writes_apply (env : AcademicEnv) (now : Time) (m : AcademicMutation) :
    Writes AcademicTable.same (m.apply env now) m.writes := by
  intro table htable s
  cases m with
  | calendar op =>
    obtain ⟨hsessions, hterms⟩ := calendar_frame op s.calendar
    cases table with
    | sessions => exact hsessions htable
    | terms => exact hterms htable
    | people => exact ⟨rfl, rfl, rfl, rfl⟩
    | _ => rfl
  | results e => exact academicStep_frame env e s htable
  | repairDefaultStructure token =>
    obtain ⟨_, _, h⟩ := repairDefaultStructure_frame token now s
    simp only [AcademicMutation.writes, List.mem_cons, not_or] at htable
    simp only [AcademicMutation.apply, h]
    exact AcademicTable.same_structure ⟨_, _, _, rfl⟩ (fun hc => absurd hc htable.1)
      (fun _ => rfl) (fun hk => absurd hk htable.2.1)
  | createClass id body =>
    simp only [AcademicMutation.apply, School.createClass]
    cases s.classes.insert? _ <;>
      exact AcademicTable.same_classes htable _
  | updateClass id body =>
    simp only [AcademicMutation.apply, School.updateClass]
    cases s.classes.find? id <;>
      exact AcademicTable.same_classes htable _
  | deleteClass id =>
    simp only [AcademicMutation.apply, School.deleteClass]
    exact AcademicTable.same_classes htable _
  | createSubject id body =>
    simp only [AcademicMutation.apply, School.createSubject]
    cases s.subjects.insert? _ <;>
      exact AcademicTable.same_subjects htable _
  | updateSubject id body =>
    simp only [AcademicMutation.apply, School.updateSubject]
    cases s.subjects.find? id <;>
      exact AcademicTable.same_subjects htable _
  | deleteSubject id =>
    simp only [AcademicMutation.apply, School.deleteSubject]
    exact AcademicTable.same_subjects htable _
  | createSubjectCategory id name slug =>
    simp only [AcademicMutation.apply, School.createSubjectCategory]
    cases s.subjectCategories.insert? _ <;>
      exact AcademicTable.same_structure ⟨_, _, _, rfl⟩ (fun _ => rfl) (fun _ => rfl)
        (fun hk => absurd (List.mem_singleton.2 hk) htable)

end MultiAcademy.School
