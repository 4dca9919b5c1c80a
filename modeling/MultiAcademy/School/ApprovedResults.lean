import MultiAcademy.Lib.Run
import MultiAcademy.School.Results

/-!
# Approved results

Approving a result leaves its scores alone, and so do all requests but two: an edit by hand
does not look at the status, and a teacher who generates a student's result overwrites the
rows of `academic_results` whether they are approved or not.
-/

namespace MultiAcademy.School

open MultiAcademy.Lib

/-- The scores, the grade and the status. -/
structure Marks where
  caScore : Option ℚ
  examScore : Option ℚ
  totalScore : Option ℚ
  grade : Option String
  status : ResultStatus
  deriving DecidableEq

def Result.marks (result : Result) : Marks :=
  { caScore := result.caScore
    examScore := result.examScore
    totalScore := result.totalScore
    grade := result.grade
    status := result.status }

/-- The result in row `i` has these marks. -/
def Stands (i : ℕ) (marks : Marks) (db : AcademicDb) : Prop :=
  ∃ result, db.results[i]? = some (some result) ∧ result.marks = marks

instance (i : ℕ) (marks : Marks) (db : AcademicDb) : Decidable (Stands i marks db) :=
  decidable_of_iff (db.results[i]?.join.map Result.marks = some marks) <| by
    simp [Stands, Option.join_eq_some_iff]

/-- The request gives the result another status by hand, or deletes it. -/
def releases (i : ℕ) (db : AcademicDb) : AcademicEvent → Bool
  | .upsertResult actorUserId id body =>
    id = some i && body.submitted.isSome && (checkUpsert actorUserId id body db).isOk
  | .deleteResult id => id = i
  | _ => false

/-- The scores and the grade of an edit are those the result has: the ones that are sent,
and the total and the grade that follow from them. -/
def ResultBody.repeats (body : ResultBody) (matrix : Option GradingMatrix) (result : Result) :
    Bool :=
  let caScore := body.caScore.getD result.caScore
  let examScore := body.examScore.getD result.examScore
  let computed :=
    if (body.caScore.isSome || body.examScore.isSome) && body.totalScore.isNone then
      computeTotal matrix caScore examScore
    else (none, none)
  let totalScore := computed.1.or (body.totalScore.getD result.totalScore)
  let grade := (body.grade.join.filter (· ≠ "")).or
    ((computed.2.filter (· ≠ "")).or (body.grade.getD result.grade))
  caScore.map decimal2 = result.caScore && examScore.map decimal2 = result.examScore
    && totalScore.map decimal2 = result.totalScore && grade.filter (· ≠ "") = result.grade

/-- The request leaves the result as it is: an edit repeats its scores and its grade, and a
result that is generated has no subject whose row this is. -/
def leaves (env : AcademicEnv) (i : ℕ) (db : AcademicDb) : AcademicEvent → Bool
  | .generateScoreSheetResult actorUserId studentId sitting =>
    match generatedRow env actorUserId studentId sitting db with
    | .error _ => true
    | .ok row =>
      isReleased sitting studentId db
        || row.studentSubjectRecords.all fun record =>
          findResult sitting studentId record.subjectId db.results ≠ some i
  | .upsertResult actorUserId id body =>
    id ≠ some i ||
      match checkUpsert actorUserId id body db with
      | .error _ => true
      | .ok existing => existing.all (body.repeats env.matrix)
  | _ => true

variable {env : AcademicEnv} {db : AcademicDb} {i : ℕ} {marks : Marks} {result : Result}
  {results : Table (Option Result)} {sitting : Sitting} {studentId : String}

/-! ## Rows of `academic_results` -/

variable (record : SubjectRecord)

/-- A subject's row stays its row when another subject is brought in step. -/
theorem findResult_sync (subjectId : String) (hi : i < results.length) :
    findResult sitting studentId subjectId (syncResult sitting studentId results record) = some i
      ↔ findResult sitting studentId subjectId results = some i := by
  simp only [syncResult]
  split
  · rw [findResult, Table.first?_modify]
    · rfl
    intro row
    cases row with
    | none => rfl
    | some result => rfl
  rw [findResult, Table.first?_insert]
  have hlt : ∀ k, findResult sitting studentId subjectId results = some k →
      k < results.length := by
    intro k hk
    obtain ⟨row, hrow, -⟩ := Table.mem_select.1 (Table.mem_of_first? hk)
    exact (List.getElem?_eq_some_iff.1 hrow).1
  rw [← findResult]
  cases hfirst : findResult sitting studentId subjectId results with
  | some k => rfl
  | none =>
    rw [Option.none_or]
    refine iff_of_false ?_ nofun
    split
    · intro h
      rw [Option.some.injEq, Table.nextId] at h
      omega
    · exact nofun

/-- A subject that is brought in step leaves the rows that are not its own. -/
theorem getElem?_sync_of_ne (hi : i < results.length)
    (hne : findResult sitting studentId record.subjectId results ≠ some i) :
    (syncResult sitting studentId results record)[i]? = results[i]? := by
  simp only [syncResult]
  split
  · rename_i id hfound
    exact List.getElem?_modify_ne _ _ fun h => hne (h ▸ hfound)
  rw [Table.getElem?_insert, if_neg]
  intro h
  rw [h, Table.nextId] at hi
  omega

theorem getElem?_sync_self
    (hself : findResult sitting studentId record.subjectId results = some i)
    (hrow : results[i]? = some (some result)) :
    ∃ result', (syncResult sitting studentId results record)[i]? = some (some result')
      ∧ result'.status = .submitted := by
  simp only [syncResult]
  rw [hself]
  simp [hrow]

theorem length_sync :
    results.length ≤ (syncResult sitting studentId results record).length := by
  simp only [syncResult]
  split
  · rw [List.length_modify]
  rw [Table.length_insert]
  omega

/-- Subjects that have other rows leave a row. -/
theorem getElem?_foldl_sync (records : List SubjectRecord) (hi : i < results.length)
    (hne : ∀ record ∈ records, findResult sitting studentId record.subjectId results ≠ some i) :
    (records.foldl (syncResult sitting studentId) results)[i]? = results[i]? := by
  induction records generalizing results with
  | nil => rfl
  | cons record records ih =>
    have hlength : results.length ≤ (syncResult sitting studentId results record).length :=
      length_sync record
    rw [List.foldl_cons, ih (hi.trans_le hlength)]
    · exact getElem?_sync_of_ne record hi (hne record List.mem_cons_self)
    intro record' hrecord'
    rw [ne_eq, findResult_sync record record'.subjectId hi]
    exact hne record' (List.mem_cons_of_mem _ hrecord')

/-- A submitted row stays submitted. -/
theorem submitted_foldl_sync (records : List SubjectRecord)
    (hrow : ∃ result, results[i]? = some (some result) ∧ result.status = .submitted) :
    ∃ result, (records.foldl (syncResult sitting studentId) results)[i]? = some (some result)
      ∧ result.status = .submitted := by
  induction records generalizing results with
  | nil => exact hrow
  | cons record records ih =>
    refine ih ?_
    obtain ⟨result, hresult, hstatus⟩ := hrow
    by_cases hself : findResult sitting studentId record.subjectId results = some i
    · exact getElem?_sync_self record hself hresult
    refine ⟨result, ?_, hstatus⟩
    rw [getElem?_sync_of_ne record (List.getElem?_eq_some_iff.1 hresult).1 hself, hresult]

/-- A subject whose row it is makes it a submitted one. -/
theorem submitted_of_mem {records : List SubjectRecord} {record : SubjectRecord}
    (hmem : record ∈ records)
    (hself : findResult sitting studentId record.subjectId results = some i)
    (hrow : results[i]? = some (some result)) :
    ∃ result', (records.foldl (syncResult sitting studentId) results)[i]? = some (some result')
      ∧ result'.status = .submitted := by
  induction records generalizing results result with
  | nil => exact absurd hmem List.not_mem_nil
  | cons first records ih =>
    have hi : i < results.length := (List.getElem?_eq_some_iff.1 hrow).1
    by_cases hfirst : findResult sitting studentId first.subjectId results = some i
    · exact submitted_foldl_sync records (getElem?_sync_self first hfirst hrow)
    rcases List.mem_cons.1 hmem with rfl | hmem
    · exact absurd hself hfirst
    have hkept : (syncResult sitting studentId results first)[i]? = some (some result) := by
      rw [getElem?_sync_of_ne first hi hfirst, hrow]
    exact ih hmem ((findResult_sync first record.subjectId hi).2 hself) hkept

/-! ## One request -/

theorem Stands.congr {db' : AcademicDb} (hs : Stands i marks db)
    (h : db'.results[i]? = db.results[i]?) : Stands i marks db' := by
  obtain ⟨result, hresult, hmarks⟩ := hs
  exact ⟨result, h.trans hresult, hmarks⟩

theorem saveScoreSheetBatch_results (actorUserId : String) (batch : ScoreSheetBatch)
    (db : AcademicDb) : (saveScoreSheetBatch actorUserId batch db).results = db.results := by
  obtain ⟨scoreSheets, h⟩ := saveScoreSheetBatch_frame db actorUserId batch
  rw [h]

theorem ensureEnrollment_results (studentId : Option String) (classId : String)
    (db : AcademicDb) : (ensureEnrollment studentId classId db).results = db.results := by
  simp only [ensureEnrollment]
  split
  · rfl
  split
  · rfl
  split
  · rfl
  · rfl

theorem putGenerated_results (sitting : Sitting) (studentId : String) (row : GeneratedResult)
    (db : AcademicDb) : (putGenerated sitting studentId row db).results = db.results := by
  simp only [putGenerated]
  split
  · rfl
  · rfl

/-- What a request to generate a result leaves in `academic_results`. -/
theorem generate_results (actorUserId studentId : String) (sitting : Sitting) :
    (written db (generateScoreSheetResult env actorUserId studentId sitting db)).results
      = match generatedRow env actorUserId studentId sitting db with
        | .error _ => db.results
        | .ok row =>
          if isReleased sitting studentId db then db.results
          else row.studentSubjectRecords.foldl (syncResult sitting studentId) db.results := by
  rw [generateScoreSheetResult_eq]
  cases generatedRow env actorUserId studentId sitting db with
  | error error => rfl
  | ok row =>
    cases isReleased sitting studentId db with
    | true => rfl
    | false =>
      change row.studentSubjectRecords.foldl (syncResult sitting studentId)
        (putGenerated sitting studentId row db).results = _
      rw [putGenerated_results]
      rfl

/-- A generated result overwrites the rows of its subjects. -/
theorem stands_generate (hs : Stands i marks db) (happroved : marks.status = .approved)
    (actorUserId studentId : String) (sitting : Sitting) :
    Stands i marks (written db (generateScoreSheetResult env actorUserId studentId sitting db))
      ↔ leaves env i db (.generateScoreSheetResult actorUserId studentId sitting) = true := by
  have hresults : (written db
      (generateScoreSheetResult env actorUserId studentId sitting db)).results = _ :=
    generate_results actorUserId studentId sitting
  simp only [leaves]
  cases hrow : generatedRow env actorUserId studentId sitting db with
  | error error =>
    rw [hrow] at hresults
    exact iff_of_true (hs.congr (by rw [hresults])) rfl
  | ok row =>
    rw [hrow] at hresults
    cases hreleased : isReleased sitting studentId db with
    | true =>
      rw [hreleased] at hresults
      exact iff_of_true (hs.congr (by rw [hresults]; rfl)) rfl
    | false =>
      rw [hreleased] at hresults
      simp only [Bool.false_eq_true, if_false] at hresults
      obtain ⟨result, hresult, hmarks⟩ := hs
      have hi : i < db.results.length := (List.getElem?_eq_some_iff.1 hresult).1
      simp only [Bool.false_or, List.all_eq_true]
      constructor
      · rintro ⟨result', hresult', hmarks'⟩ record hrecord
        rw [decide_eq_true_iff]
        intro hself
        obtain ⟨submitted, hsubmitted, hstatus⟩ := submitted_of_mem hrecord hself hresult
        rw [hresults, hsubmitted] at hresult'
        cases hresult'
        have hstatus' : result'.status = .approved := by
          rw [← happroved, ← hmarks']
          rfl
        rw [hstatus] at hstatus'
        cases hstatus'
      intro hall
      refine ⟨result, ?_, hmarks⟩
      rw [hresults, getElem?_foldl_sync _ hi fun record hrecord =>
        of_decide_eq_true (hall record hrecord), hresult]

/-- The row that may be edited is there. -/
theorem checkUpsert_some {actorUserId : String} {k : ℕ} {body : ResultBody}
    {existing : Option Result} (h : checkUpsert actorUserId (some k) body db = .ok existing) :
    ∃ result, existing = some result ∧ db.results[k]? = some (some result) := by
  simp only [checkUpsert] at h
  obtain ⟨_, -, h⟩ := bind_eq_ok.1 h
  obtain ⟨found, hfound, h⟩ := bind_eq_ok.1 h
  obtain ⟨_, -, h⟩ := bind_eq_ok.1 h
  cases h
  obtain ⟨result, hresult, rfl⟩ := map_eq_ok.1 hfound
  simp only [getResult] at hresult
  cases hrow : db.results[k]?.join with
  | none => rw [hrow] at hresult; cases hresult
  | some row =>
    rw [hrow] at hresult
    cases hresult
    exact ⟨result, rfl, Option.join_eq_some_iff.1 hrow⟩

/-- What an upsert leaves in `academic_results`. -/
theorem upsert_results (actorUserId : String) (id : Option ℕ) (body : ResultBody) :
    (written db (upsertResult env actorUserId id body db)).results
      = match checkUpsert actorUserId id body db with
        | .error _ => db.results
        | .ok existing =>
          match id, existing with
          | some k, some result =>
            db.results.modify k fun _ => some (body.merge env.matrix result)
          | _, _ => db.results.insert (some (body.create env.matrix)) := by
  simp only [upsertResult]
  cases hcheck : checkUpsert actorUserId id body db with
  | error error => rfl
  | ok existing =>
    cases id with
    | none => exact ensureEnrollment_results _ _ _
    | some k =>
      cases existing with
      | none => exact ensureEnrollment_results _ _ _
      | some result => exact ensureEnrollment_results _ _ _

theorem marks_merge {body : ResultBody} (hstatus : body.submitted = none) :
    (body.merge env.matrix result).marks = result.marks
      ↔ body.repeats env.matrix result = true := by
  simp only [Result.marks, ResultBody.merge, ResultBody.repeats, ResultBody.requestedStatus,
    hstatus, Option.map_none, Option.getD_none, Marks.mk.injEq, Bool.and_eq_true,
    decide_eq_true_eq, and_true, and_assoc]

/-- A result that is edited stands when the edit repeats its marks. -/
theorem stands_upsert (hs : Stands i marks db) (actorUserId : String) (id : Option ℕ)
    (body : ResultBody) (hkept : releases i db (.upsertResult actorUserId id body) = false) :
    Stands i marks (written db (upsertResult env actorUserId id body db))
      ↔ leaves env i db (.upsertResult actorUserId id body) = true := by
  have hresults : (written db (upsertResult env actorUserId id body db)).results = _ :=
    upsert_results actorUserId id body
  simp only [leaves]
  cases hcheck : checkUpsert actorUserId id body db with
  | error error =>
    rw [hcheck] at hresults
    exact iff_of_true (hs.congr (by rw [hresults])) (Bool.or_true _)
  | ok existing =>
    rw [hcheck] at hresults
    obtain ⟨result, hresult, hmarks⟩ := hs
    have hi : i < db.results.length := (List.getElem?_eq_some_iff.1 hresult).1
    cases id with
    | none =>
      refine iff_of_true ⟨result, ?_, hmarks⟩ rfl
      rw [hresults, Table.getElem?_insert, if_neg (by rw [Table.nextId]; omega), hresult]
    | some k =>
      obtain ⟨found, rfl, hfound⟩ := checkUpsert_some hcheck
      simp only at hresults
      by_cases hk : k = i
      · subst hk
        rw [hresult] at hfound
        cases hfound
        have hstatus : body.submitted = none := by
          simpa [releases, hcheck, Except.isOk, Except.toBool] using hkept
        have hnew : (written db (upsertResult env actorUserId (some k) body db)).results[k]?
            = some (some (body.merge env.matrix result)) := by
          rw [hresults, List.getElem?_modify_eq, hresult]
          rfl
        simp only [ne_eq, not_true_eq_false, decide_false, Bool.false_or, Option.all_some,
          ← marks_merge hstatus]
        constructor
        · rintro ⟨result', hresult', hmarks'⟩
          rw [hnew] at hresult'
          cases hresult'
          rw [hmarks', hmarks]
        intro hsame
        exact ⟨_, hnew, hsame.trans hmarks⟩
      refine iff_of_true ⟨result, ?_, hmarks⟩ ?_
      · rw [hresults, List.getElem?_modify_ne _ _ hk, hresult]
      · simp [hk]

/-- An approval passes over what is approved. -/
theorem stands_approve (hs : Stands i marks db) (happroved : marks.status = .approved) (id : ℕ)
    (approverId comment : Option String) :
    Stands i marks (written db (approveResult id approverId comment db)) := by
  simp only [approveResult, getResult]
  cases hrow : db.results[id]?.join with
  | none => exact hs
  | some result =>
    by_cases hstatus : result.status = .approved
    · simp only [bind, Except.bind, if_pos hstatus]
      exact hs
    obtain ⟨own, hown, hmarks⟩ := hs
    have hne : id ≠ i := by
      rintro rfl
      rw [hown] at hrow
      cases hrow
      exact hstatus (by rw [← happroved, ← hmarks]; rfl)
    refine Stands.congr ⟨own, hown, hmarks⟩ ?_
    change (written db (if result.status = .approved then _ else _)).results[i]? = _
    rw [if_neg hstatus]
    exact List.getElem?_modify_ne _ _ hne

/-- So does the approval of a batch. -/
theorem stands_approveBatch (hs : Stands i marks db) (happroved : marks.status = .approved)
    (filter : ApprovalFilter) :
    Stands i marks (written db (approveResultsBatch filter db)) := by
  simp only [approveResultsBatch]
  split
  · exact hs
  obtain ⟨result, hresult, hmarks⟩ := hs
  refine ⟨result, ?_, hmarks⟩
  have hstatus : result.status = .approved := by
    rw [← happroved, ← hmarks]
    rfl
  change (db.results.updateWhere _ _)[i]? = _
  rw [Table.getElem?_updateWhere, hresult]
  simp [ApprovalFilter.selects, hstatus]

theorem releaseGeneratedResult_results (actorUserId : String) (id : ℕ) :
    (written db (releaseGeneratedResult actorUserId id db)).results = db.results := by
  simp only [releaseGeneratedResult, bind, Except.bind]
  cases getUserRoles actorUserId db with
  | error error => rfl
  | ok roles =>
    cases hmanages : hasAcademicManagementRole roles with
    | false => simp only [hmanages]; rfl
    | true =>
      cases hrow : db.generatedResults[id]? with
      | none => simp only [hmanages]; rfl
      | some row =>
        by_cases hstatus : row.releaseStatus = .approved
        · simp only [hmanages, hstatus]; rfl
        · simp only [hmanages, hstatus]; rfl

theorem stands_delete (hs : Stands i marks db) {id : ℕ} (hne : id ≠ i) :
    Stands i marks (deleteResult id db) :=
  hs.congr (List.getElem?_modify_ne _ _ hne)

/-- **One request.**  One that does not take the approval back leaves an approved result
standing exactly when it leaves it as it is. -/
theorem stands_step (e : AcademicEvent) (hkept : releases i db e = false)
    (happroved : marks.status = .approved) (hs : Stands i marks db) :
    Stands i marks (academicStep env e db) ↔ leaves env i db e = true := by
  cases e with
  | saveScoreSheetBatch actorUserId batch =>
    have hresults := saveScoreSheetBatch_results actorUserId batch db
    exact iff_of_true (hs.congr (congrArg (·[i]?) hresults)) rfl
  | generateScoreSheetResult actorUserId studentId sitting =>
    exact stands_generate hs happroved actorUserId studentId sitting
  | upsertResult actorUserId id body => exact stands_upsert hs actorUserId id body hkept
  | approveResult id approverId comment =>
    exact iff_of_true (stands_approve hs happroved id approverId comment) rfl
  | approveResultsBatch filter =>
    exact iff_of_true (stands_approveBatch hs happroved filter) rfl
  | deleteResult id =>
    have hne : id ≠ i := by simpa [releases] using hkept
    exact iff_of_true (stands_delete hs hne) rfl
  | releaseGeneratedResult actorUserId id =>
    have hresults : (written db (releaseGeneratedResult actorUserId id db)).results = _ :=
      releaseGeneratedResult_results actorUserId id
    exact iff_of_true (hs.congr (congrArg (·[i]?) hresults)) rfl

/-! ## Runs -/

/-- **An approved result stands throughout a run** that does not take its approval back
exactly when every request leaves it as it is. -/
theorem approved_frozen_iff (env : AcademicEnv) (i : ℕ) (marks : Marks)
    (happroved : marks.status = .approved) (db : AcademicDb) (hs : Stands i marks db)
    (es : List AcademicEvent)
    (hkept : Along (academicStep env) (fun db e => releases i db e = false) db es) :
    (∀ pre, pre <+: es → Stands i marks (run (academicStep env) db pre))
      ↔ Along (academicStep env) (fun db e => leaves env i db e = true) db es := by
  have hstep : ∀ db e, releases i db e = false → Stands i marks db →
      (Stands i marks (academicStep env e db) ↔ leaves env i db e = true) := by
    intro db e hkept hs
    exact stands_step e hkept happroved hs
  exact (along_iff_throughout hstep hkept hs).symm

/-- A class of a teacher, with one student, the sheets of an examination and an approved
result. -/
def approvedSchool : AcademicDb :=
  { users :=
      [ { id := "teacher", name := "Teacher", roles := [.classTeacher, .subjectTeacher] },
        { id := "student", name := "Student", roles := [.student] } ]
    classes :=
      [ { id := "class", name := "Class", code := "C", schoolLevel := "primary",
          classTeacherId := some "teacher" } ]
    subjects := [ { id := "maths", name := "Maths", schoolLevel := "primary" } ]
    categories := [ { id := "exam", name := "examination" } ]
    subjectTeachers := [ { person := "teacher", target := "maths" } ]
    enrollments := [ { person := "student", target := "class" } ]
    scoreSheets :=
      [ { sessionId := "session", termId := "term", classId := "class", studentId := "student",
          subjectId := "maths", categoryId := "exam", subcategoryId := none,
          studentScore := some 50, obtainableScore := 100, grade := some 50,
          status := .draft, recorderUserId := "teacher", recordedBy := "Teacher" } ]
    results :=
      [ some
          { studentId := some "student", classId := "class", subjectId := "maths"
            termId := "term", caScore := some 0, examScore := some 80, totalScore := some 80
            grade := some "A", status := .approved } ] }

def approvedMarks : Marks :=
  { caScore := some 0, examScore := some 80, totalScore := some 80, grade := some "A"
    status := .approved }

/-- The teacher generates the result of the student. -/
def regenerate : AcademicEvent :=
  .generateScoreSheetResult "teacher" "student"
    { sessionId := "session", termId := "term", classId := "class" }

/-- The teacher edits the examination score. -/
def rescore (score : ℚ) : AcademicEvent :=
  .upsertResult "teacher" (some 0)
    { examScore := some (some score), totalScore := some (some score) }

theorem approved_frozen_iff_example :
    approvedMarks.status = .approved ∧ Stands 0 approvedMarks approvedSchool
      ∧ ∀ pre, pre <+: [rescore 80, .approveResult 0 none none] →
        Stands 0 approvedMarks (run (academicStep {}) approvedSchool pre) :=
  ⟨rfl, by decide,
    (approved_frozen_iff {} 0 approvedMarks rfl approvedSchool (by decide)
      [rescore 80, .approveResult 0 none none] (by decide +kernel)).2 (by decide +kernel)⟩

/-- **Approved results are not final.**  A teacher who generates the result of the student
makes the approved result a submitted one with other scores; a teacher who edits it changes
its scores and leaves it approved. -/
theorem not_approved_frozen :
    Stands 0 approvedMarks approvedSchool
      ∧ releases 0 approvedSchool regenerate = false
      ∧ releases 0 approvedSchool (rescore 10) = false
      ∧ ((academicStep {} regenerate approvedSchool).results[0]?.join.map (·.status))
          = some .submitted
      ∧ ((academicStep {} (rescore 10) approvedSchool).results[0]?.join.map (·.status))
          = some .approved
      ∧ ((academicStep {} (rescore 10) approvedSchool).results[0]?.join.bind (·.totalScore))
          = some 10
      ∧ ¬ ∀ (env : AcademicEnv) (i : ℕ) (marks : Marks) (db : AcademicDb)
          (es : List AcademicEvent), marks.status = .approved → Stands i marks db →
          Along (academicStep env) (fun db e => releases i db e = false) db es →
          Stands i marks (run (academicStep env) db es) := by
  refine ⟨by decide +kernel, by decide +kernel, by decide +kernel, by decide +kernel,
    by decide +kernel, by decide +kernel, fun h => ?_⟩
  have hbroken : ¬ Stands 0 approvedMarks (academicStep {} regenerate approvedSchool) := by
    decide +kernel
  exact hbroken (h {} 0 approvedMarks approvedSchool [regenerate] rfl (by decide)
    (by decide))

end MultiAcademy.School
