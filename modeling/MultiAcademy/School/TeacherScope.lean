import MultiAcademy.Lib.Fallible
import MultiAcademy.Lib.Linking
import MultiAcademy.School.AcademicTables

/-!
# The scope of a teacher

`linkTeacherScope`, `linkTeacherToClasses` and `linkTeacherToSubjects` of
`academic/academic.service.ts`.  The first sets both kinds of links in one transaction and looks
at the school levels of what it links; the others set one kind each, without a transaction.  Where
junior or senior secondary is among the levels, the first takes subjects of every level.

Lower case is a parameter, and so are the insertions that the database refuses on account of the
token they draw.
-/

namespace MultiAcademy.School

open MultiAcademy.Lib

/-! ## The tables -/

/-- A user, with what `JSON.parse` makes of its roles; `none` where it throws. -/
structure ScopeUser where
  id : String
  roles : Option (List String)

/-- A row of `academic_classes` or `academic_subjects`. -/
structure ScopeRow where
  id : String
  schoolLevel : String
  isActive : Bool
  deriving DecidableEq

structure TeacherScopeDb where
  users : Keyed ScopeUser.id := .empty
  classes : Keyed ScopeRow.id := .empty
  subjects : Keyed ScopeRow.id := .empty
  /-- `academic_class_teacher_links`: class and teacher. -/
  classLinks : Links String String := .empty
  /-- `academic_subject_teacher_links`: subject and teacher. -/
  subjectLinks : Links String String := .empty

structure ScopeEnv where
  /-- `toLowerCase`. -/
  lower : String → String
  /-- The insertion of the link of a class fails. -/
  classRefused : String → Bool := fun _ => false
  subjectRefused : String → Bool := fun _ => false

/-! ## The operations -/

def activeRows (table : Keyed ScopeRow.id) (ids : List String) : List ScopeRow :=
  table.rows.filter fun row => row.isActive && row.id ∈ ids

/-- What `linkTeacherScope` asks of the classes, and of the subjects. -/
def assertScope (unknown mismatch : String) (outside : List String → String → Bool)
    (table : Keyed ScopeRow.id) (ids levels : List String) : Except AcademicError Unit :=
  if ids = [] then .ok ()
  else if (activeRows table ids).length ≠ ids.length then .error (400, unknown)
  else if levels ≠ [] ∧ (activeRows table ids).any (fun row => outside levels row.schoolLevel) then
    .error (400, mismatch)
  else .ok ()

variable (lower : String → String)

/-- `!levels.includes(level)`. -/
def classOutside (levels : List String) (level : String) : Bool :=
  lower level ∉ levels

/-- The test of a subject: the second condition is false as soon as the third could tell. -/
def subjectOutside (levels : List String) (level : String) : Bool :=
  lower level ∉ levels && !("jss" ∈ levels || "sss" ∈ levels)
    && !(lower level = "secondary" && levels.any fun value => value = "jss" || value = "sss")

def unknownClass : String := "Teacher scope contains an unknown or inactive class"

def unknownSubject : String := "Teacher scope contains an unknown or inactive subject"

/-- A statement fails, or `JSON.parse` does. -/
def scopeFailure : AcademicError := (500, "Internal server error")

/-- The transaction of `linkTeacherScope`. -/
def scopeTransaction (env : ScopeEnv) (teacherId : String)
    (uniqueClassIds uniqueSubjectIds levels : List String) (db : TeacherScopeDb) :
    Except AcademicError TeacherScopeDb := do
  let some user := db.users.find? teacherId | throw (400, "Teacher not found")
  let some roles := user.roles | throw scopeFailure
  if (uniqueClassIds ≠ [] ∧ "class_teacher" ∉ roles ∧ "subject_teacher" ∉ roles)
      ∨ (uniqueSubjectIds ≠ [] ∧ "subject_teacher" ∉ roles) then
    throw (400, "Teacher roles do not permit the requested class or subject scope")
  assertScope unknownClass "Selected classes do not match the selected school levels"
    (classOutside env.lower) db.classes uniqueClassIds levels
  assertScope unknownSubject "Selected subjects do not match the selected school levels"
    (subjectOutside env.lower) db.subjects uniqueSubjectIds levels
  let some classLinks := replaceLinks env.classRefused teacherId uniqueClassIds db.classLinks
    | throw scopeFailure
  let some subjectLinks :=
      replaceLinks env.subjectRefused teacherId uniqueSubjectIds db.subjectLinks
    | throw scopeFailure
  return { db with classLinks, subjectLinks }

/-- What `linkTeacherScope` returns. -/
structure TeacherScopeAnswer where
  teacherId : String
  classIds : List String
  subjectIds : List String
  schoolLevels : List String

/-- `linkTeacherScope`; a transaction that fails is rolled back. -/
def linkTeacherScope (env : ScopeEnv) (teacherId : String)
    (classIds subjectIds schoolLevels : List String) (db : TeacherScopeDb) :
    TeacherScopeDb × Except AcademicError TeacherScopeAnswer :=
  let levels := (schoolLevels.map env.lower).eraseDups
  match scopeTransaction env teacherId classIds.eraseDups subjectIds.eraseDups levels db with
  | .error refusal => (db, .error refusal)
  | .ok db' =>
    (db', .ok { teacherId, classIds := classIds.eraseDups, subjectIds := subjectIds.eraseDups,
                schoolLevels := levels })

/-- `getUserRoles`. -/
def scopeRoles (teacherId : String) (db : TeacherScopeDb) : Except AcademicError (List String) :=
  match db.users.find? teacherId with
  | none => .error (400, "User not found for assignment")
  | some user => .ok (user.roles.getD [])

/-- What the operations without a transaction ask before they write. -/
def assertLinkable (allowed : List String → Bool) (forbidden unknown : String)
    (table : Keyed ScopeRow.id) (teacherId : String) (ids : List String) (db : TeacherScopeDb) :
    Except AcademicError Unit := do
  let roles ← scopeRoles teacherId db
  if !allowed roles then throw (400, forbidden)
  if ids ≠ [] ∧ (activeRows table ids).length ≠ ids.eraseDups.length then throw (400, unknown)

def linkTeacherToClasses (env : ScopeEnv) (teacherId : String) (classIds : List String)
    (db : TeacherScopeDb) : TeacherScopeDb × Except AcademicError (List String) :=
  match assertLinkable (fun roles => "class_teacher" ∈ roles || "subject_teacher" ∈ roles)
      "Only class_teacher or subject_teacher can be assigned classes" unknownClass db.classes
      teacherId classIds db with
  | .error refusal => (db, .error refusal)
  | .ok () =>
    match reconcileLinks env.classRefused teacherId classIds.eraseDups db.classLinks with
    | (classLinks, false) => ({ db with classLinks }, .error scopeFailure)
    | (classLinks, true) => ({ db with classLinks }, .ok classIds.eraseDups)

def linkTeacherToSubjects (env : ScopeEnv) (teacherId : String) (subjectIds : List String)
    (db : TeacherScopeDb) : TeacherScopeDb × Except AcademicError (List String) :=
  match assertLinkable (fun roles => "subject_teacher" ∈ roles)
      "Only subject_teacher can be assigned subjects" unknownSubject db.subjects
      teacherId subjectIds db with
  | .error refusal => (db, .error refusal)
  | .ok () =>
    match reconcileLinks env.subjectRefused teacherId subjectIds.eraseDups db.subjectLinks with
    | (subjectLinks, false) => ({ db with subjectLinks }, .error scopeFailure)
    | (subjectLinks, true) => ({ db with subjectLinks }, .ok subjectIds.eraseDups)

/-! ## The law -/

def ClassBelongs (levels : List String) (level : String) : Prop :=
  lower level ∈ levels.map lower

/-- A subject belongs to one of the levels, and one for `secondary` to `jss` and to `sss`. -/
def SubjectBelongs (levels : List String) (level : String) : Prop :=
  lower level ∈ levels.map lower
    ∨ lower level = "secondary" ∧ ("jss" ∈ levels.map lower ∨ "sss" ∈ levels.map lower)

/-- The links of the teacher are the ones given, and those of the others are what they were. -/
def LinksSet (teacherId : String) (ids : List String) (links links' : Links String String) : Prop :=
  ∀ link, link ∈ links'.rows
    ↔ if link.2 = teacherId then link.1 ∈ ids else link ∈ links.rows

/-- What an accepted call leaves. -/
structure ScopeLinked (env : ScopeEnv) (teacherId : String)
    (classIds subjectIds levels : List String) (db db' : TeacherScopeDb) : Prop where
  classLinks : LinksSet teacherId classIds db.classLinks db'.classLinks
  subjectLinks : LinksSet teacherId subjectIds db.subjectLinks db'.subjectLinks
  classes : ∀ id ∈ classIds, ∃ row ∈ db.classes.rows,
    row.id = id ∧ row.isActive = true ∧ ClassBelongs env.lower levels row.schoolLevel
  subjects : ∀ id ∈ subjectIds, ∃ row ∈ db.subjects.rows,
    row.id = id ∧ row.isActive = true ∧ SubjectBelongs env.lower levels row.schoolLevel

/-- **A teacher's scope is set whole and within the levels**: a call that is refused changes
nothing, and one that is accepted leaves what it was given; where the other two operations, one
after the other, accept the same lists, they leave the same links, whatever insertions the
database refuses meanwhile. -/
structure ScopeSetWhole (env : ScopeEnv) (teacherId : String)
    (classIds subjectIds levels : List String) (db : TeacherScopeDb) : Prop where
  refused : ∀ refusal,
    (linkTeacherScope env teacherId classIds subjectIds levels db).2 = .error refusal →
      (linkTeacherScope env teacherId classIds subjectIds levels db).1 = db
  accepted : ∀ answer,
    (linkTeacherScope env teacherId classIds subjectIds levels db).2 = .ok answer →
      ScopeLinked env teacherId classIds subjectIds levels db
        (linkTeacherScope env teacherId classIds subjectIds levels db).1
  agree : ∀ answer ids ids' env' db' db'',
    (linkTeacherScope env teacherId classIds subjectIds levels db).2 = .ok answer →
    linkTeacherToClasses env' teacherId classIds db = (db', .ok ids) →
    linkTeacherToSubjects env' teacherId subjectIds db' = (db'', .ok ids') →
      (∀ link, link ∈ (linkTeacherScope env teacherId classIds subjectIds levels db).1.classLinks.rows
        ↔ link ∈ db''.classLinks.rows)
      ∧ ∀ link,
        link ∈ (linkTeacherScope env teacherId classIds subjectIds levels db).1.subjectLinks.rows
          ↔ link ∈ db''.subjectLinks.rows

/-- Everything but the levels of the subjects is in order. -/
structure ScopeAdmitted (env : ScopeEnv) (teacherId : String)
    (classIds subjectIds levels : List String) (db : TeacherScopeDb) : Prop where
  user : ∃ user ∈ db.users.rows, user.id = teacherId ∧ ∃ roles, user.roles = some roles
    ∧ (classIds ≠ [] → "class_teacher" ∈ roles ∨ "subject_teacher" ∈ roles)
    ∧ (subjectIds ≠ [] → "subject_teacher" ∈ roles)
  classes : ∀ id ∈ classIds, ∃ row ∈ db.classes.rows,
    row.id = id ∧ row.isActive = true ∧ ClassBelongs env.lower levels row.schoolLevel
  subjects : ∀ id ∈ subjectIds, ∃ row ∈ db.subjects.rows, row.id = id ∧ row.isActive = true
  classLinks : ∀ id ∈ classIds, env.classRefused id = false
  subjectLinks : ∀ id ∈ subjectIds, env.subjectRefused id = false

/-- A call with junior or senior secondary among its levels and a subject of none of them, and
everything else in order. -/
structure TakesStrangers (env : ScopeEnv) (teacherId : String)
    (classIds subjectIds levels : List String) (db : TeacherScopeDb) : Prop where
  admitted : ScopeAdmitted env teacherId classIds subjectIds levels db
  secondary : "jss" ∈ levels.map env.lower ∨ "sss" ∈ levels.map env.lower
  stranger : ∃ row ∈ db.subjects.rows, row.id ∈ subjectIds
    ∧ ¬SubjectBelongs env.lower levels row.schoolLevel

section Scope
variable {env : ScopeEnv} {teacherId : String} {classIds subjectIds levels : List String}
  {db : TeacherScopeDb}

/-! ## What is asked -/

/-- As many active rows as ids: each id is that of an active row. -/
theorem length_activeRows_iff {table : Keyed ScopeRow.id} {ids : List String}
    (hnodup : ids.Nodup) :
    (activeRows table ids).length = ids.length
      ↔ ∀ id ∈ ids, ∃ row ∈ table.rows, row.id = id ∧ row.isActive = true := by
  have hfound : ∀ id, id ∈ (activeRows table ids).map ScopeRow.id
      ↔ id ∈ ids ∧ ∃ row ∈ table.rows, row.id = id ∧ row.isActive = true := by
    intro id
    simp only [activeRows, List.mem_map, List.mem_filter, Bool.and_eq_true, decide_eq_true_iff]
    constructor
    · rintro ⟨row, ⟨hrow, hactive, hid⟩, rfl⟩
      exact ⟨hid, row, hrow, rfl, hactive⟩
    rintro ⟨hid, row, hrow, rfl, hactive⟩
    exact ⟨row, ⟨hrow, hactive, hid⟩, rfl⟩
  have hids : ((activeRows table ids).map ScopeRow.id).Nodup :=
    table.nodup.sublist (List.filter_sublist.map _)
  rw [← List.length_map ScopeRow.id]
  constructor
  · intro hlength id hid
    have hperm := (List.subperm_of_subset hids fun id h => ((hfound id).1 h).1).perm_of_length_le
      hlength.ge
    exact ((hfound id).1 (hperm.symm.subset hid)).2
  intro hall
  refine ((List.perm_ext_iff_of_nodup hids hnodup).2 fun id => ?_).length_eq
  exact ⟨fun h => ((hfound id).1 h).1, fun h => (hfound id).2 ⟨h, hall id h⟩⟩

theorem assertScope_eq_ok {unknown mismatch : String} {outside : List String → String → Bool}
    {table : Keyed ScopeRow.id} {ids : List String} (hnodup : ids.Nodup) (hlevels : levels ≠ []) :
    assertScope unknown mismatch outside table ids levels = .ok ()
      ↔ ∀ id ∈ ids, ∃ row ∈ table.rows,
        row.id = id ∧ row.isActive = true ∧ outside levels row.schoolLevel = false := by
  rw [assertScope]
  by_cases hempty : ids = []
  · simp [hempty]
  rw [if_neg hempty]
  by_cases hknown : (activeRows table ids).length = ids.length
  · rw [if_neg (not_not.2 hknown)]
    rw [length_activeRows_iff hnodup] at hknown
    have hlisted : ∀ row, row ∈ activeRows table ids
        ↔ row ∈ table.rows ∧ row.isActive = true ∧ row.id ∈ ids := by
      simp [activeRows]
    by_cases hany : (activeRows table ids).any (fun row => outside levels row.schoolLevel) = true
    · rw [if_pos ⟨hlevels, hany⟩]
      refine iff_of_false (fun h => by cases h) fun hall => ?_
      obtain ⟨row, hrow, hout⟩ := List.any_eq_true.1 hany
      obtain ⟨hmem, -, hid⟩ := (hlisted row).1 hrow
      obtain ⟨row', hmem', hid', -, hin⟩ := hall row.id hid
      rw [Keyed.eq_of_key hmem' hmem hid', hout] at hin
      cases hin
    rw [if_neg fun h => hany h.2]
    refine iff_of_true rfl fun id hid => ?_
    obtain ⟨row, hrow, rfl, hactive⟩ := hknown id hid
    refine ⟨row, hrow, rfl, hactive, Bool.eq_false_iff.2 fun hout => hany ?_⟩
    exact List.any_eq_true.2 ⟨row, (hlisted row).2 ⟨hrow, hactive, hid⟩, hout⟩
  rw [if_pos hknown]
  refine iff_of_false (fun h => by cases h) fun hall => hknown ?_
  rw [length_activeRows_iff hnodup]
  intro id hid
  obtain ⟨row, hrow, hrid, hactive, -⟩ := hall id hid
  exact ⟨row, hrow, hrid, hactive⟩

/-- The transaction goes through when everything it asks is in order. -/
theorem scopeTransaction_eq_ok {db' : TeacherScopeDb} :
    scopeTransaction env teacherId classIds subjectIds levels db = .ok db'
      ↔ (∃ user roles, db.users.find? teacherId = some user ∧ user.roles = some roles
          ∧ (classIds ≠ [] → "class_teacher" ∈ roles ∨ "subject_teacher" ∈ roles)
          ∧ (subjectIds ≠ [] → "subject_teacher" ∈ roles))
        ∧ assertScope unknownClass "Selected classes do not match the selected school levels"
            (classOutside env.lower) db.classes classIds levels = .ok ()
        ∧ assertScope unknownSubject "Selected subjects do not match the selected school levels"
            (subjectOutside env.lower) db.subjects subjectIds levels = .ok ()
        ∧ ∃ classLinks subjectLinks,
          replaceLinks env.classRefused teacherId classIds db.classLinks = some classLinks
            ∧ replaceLinks env.subjectRefused teacherId subjectIds db.subjectLinks
              = some subjectLinks
            ∧ db' = { db with classLinks, subjectLinks } := by
  rw [scopeTransaction]
  cases huser : db.users.find? teacherId with
  | none => simp [throw, throwThe, MonadExceptOf.throw]
  | some user =>
  cases hroles : user.roles with
  | none => simp [throw, throwThe, MonadExceptOf.throw, hroles]
  | some roles =>
  simp only [Option.some.injEq, hroles]
  rw [check_eq_ok, bind_eq_ok]
  simp only [bind_eq_ok]
  have hpermit : ¬(classIds ≠ [] ∧ "class_teacher" ∉ roles ∧ "subject_teacher" ∉ roles
        ∨ subjectIds ≠ [] ∧ "subject_teacher" ∉ roles)
      ↔ (classIds ≠ [] → "class_teacher" ∈ roles ∨ "subject_teacher" ∈ roles)
        ∧ (subjectIds ≠ [] → "subject_teacher" ∈ roles) := by
    grind
  rw [hpermit]
  constructor
  · rintro ⟨hpermitted, _, hclasses, _, hsubjects, h⟩
    refine ⟨⟨user, roles, rfl, hroles, hpermitted⟩, hclasses, hsubjects, ?_⟩
    cases hclass : replaceLinks env.classRefused teacherId classIds db.classLinks with
    | none =>
      rw [hclass] at h
      cases h
    | some classLinks =>
      cases hsubject : replaceLinks env.subjectRefused teacherId subjectIds db.subjectLinks with
      | none =>
        simp only [hclass, hsubject] at h
        cases h
      | some subjectLinks =>
        simp only [hclass, hsubject] at h
        cases h
        exact ⟨classLinks, subjectLinks, rfl, rfl, rfl⟩
  rintro ⟨⟨_, roles', rfl, hroles', hpermitted⟩, hclasses, hsubjects, classLinks, subjectLinks,
    hclass, hsubject, rfl⟩
  rw [hroles, Option.some.injEq] at hroles'
  subst hroles'
  refine ⟨hpermitted, (), hclasses, (), hsubjects, ?_⟩
  simp only [hclass, hsubject]
  rfl

theorem eraseDups_ne_nil {ids : List String} : ids.eraseDups ≠ [] ↔ ids ≠ [] := by
  cases ids with
  | nil => simp
  | cons id rest => simp [List.eraseDups_cons]

/-! ## The outcome of a call -/

/-- A call that is accepted was in order, but perhaps for the levels of its subjects. -/
theorem linkTeacherScope_ok (hlevels : levels ≠ []) {answer : TeacherScopeAnswer}
    (h : (linkTeacherScope env teacherId classIds subjectIds levels db).2 = .ok answer) :
    ScopeAdmitted env teacherId classIds subjectIds levels db
      ∧ (∀ id ∈ subjectIds, ∃ row ∈ db.subjects.rows, row.id = id ∧ row.isActive = true
          ∧ subjectOutside env.lower (levels.map env.lower).eraseDups row.schoolLevel = false)
      ∧ LinksSet teacherId classIds db.classLinks
          (linkTeacherScope env teacherId classIds subjectIds levels db).1.classLinks
      ∧ LinksSet teacherId subjectIds db.subjectLinks
          (linkTeacherScope env teacherId classIds subjectIds levels db).1.subjectLinks := by
  have hgiven : (levels.map env.lower).eraseDups ≠ [] :=
    eraseDups_ne_nil.2 fun hnil => hlevels (List.map_eq_nil_iff.1 hnil)
  rw [linkTeacherScope] at h ⊢
  cases hrun : scopeTransaction env teacherId classIds.eraseDups subjectIds.eraseDups
      (levels.map env.lower).eraseDups db with
  | error refusal =>
    rw [hrun] at h
    cases h
  | ok db' =>
    obtain ⟨⟨user, roles, huser, hroles, hclassRole, hsubjectRole⟩, hclasses, hsubjects,
      classLinks, subjectLinks, hclass, hsubject, rfl⟩ := scopeTransaction_eq_ok.1 hrun
    rw [assertScope_eq_ok (nodup_eraseDups _) hgiven] at hclasses hsubjects
    rw [eraseDups_ne_nil] at hclassRole hsubjectRole
    simp only [List.mem_eraseDups] at hclasses hsubjects
    obtain ⟨hmem, hid⟩ := Keyed.find?_eq_some.1 huser
    refine ⟨⟨⟨user, hmem, hid, roles, hroles, hclassRole, hsubjectRole⟩, fun id h => ?_,
      fun id h => ?_, fun id h => ?_, fun id h => ?_⟩, hsubjects, fun link => ?_,
      fun link => ?_⟩
    · obtain ⟨row, hrow, hrid, hactive, hin⟩ := hclasses id h
      refine ⟨row, hrow, hrid, hactive, ?_⟩
      simpa [classOutside, ClassBelongs] using hin
    · obtain ⟨row, hrow, hrid, hactive, -⟩ := hsubjects id h
      exact ⟨row, hrow, hrid, hactive⟩
    · exact (replaceLinks_iff (nodup_eraseDups _)).1 (by rw [hclass]; rfl) id
        (List.mem_eraseDups.2 h)
    · exact (replaceLinks_iff (nodup_eraseDups _)).1 (by rw [hsubject]; rfl) id
        (List.mem_eraseDups.2 h)
    · rw [mem_replaceLinks hclass, List.mem_eraseDups]
    · rw [mem_replaceLinks hsubject, List.mem_eraseDups]

/-- A call in order is accepted when the subjects pass their test. -/
theorem linkTeacherScope_accepts (hlevels : levels ≠ [])
    (h : ScopeAdmitted env teacherId classIds subjectIds levels db)
    (hpass : ∀ id ∈ subjectIds, ∃ row ∈ db.subjects.rows, row.id = id ∧ row.isActive = true
      ∧ subjectOutside env.lower (levels.map env.lower).eraseDups row.schoolLevel = false) :
    ∃ answer, (linkTeacherScope env teacherId classIds subjectIds levels db).2 = .ok answer := by
  have hgiven : (levels.map env.lower).eraseDups ≠ [] :=
    eraseDups_ne_nil.2 fun hnil => hlevels (List.map_eq_nil_iff.1 hnil)
  obtain ⟨user, hmem, hid, roles, hroles, hclassRole, hsubjectRole⟩ := h.user
  have hreplaced : ∀ {refused : String → Bool} {ids : List String} (links : Links String String),
      (∀ id ∈ ids, refused id = false) →
        ∃ links', replaceLinks refused teacherId ids.eraseDups links = some links' :=
    fun links hnone => Option.isSome_iff_exists.1
      ((replaceLinks_iff (nodup_eraseDups _)).2 fun id hid => hnone id (List.mem_eraseDups.1 hid))
  obtain ⟨classLinks, hclass⟩ := hreplaced db.classLinks h.classLinks
  obtain ⟨subjectLinks, hsubject⟩ := hreplaced db.subjectLinks h.subjectLinks
  have hrun : scopeTransaction env teacherId classIds.eraseDups subjectIds.eraseDups
      (levels.map env.lower).eraseDups db = .ok { db with classLinks, subjectLinks } := by
    refine scopeTransaction_eq_ok.2 ⟨⟨user, roles, Keyed.find?_eq_some.2 ⟨hmem, hid⟩, hroles, ?_,
      ?_⟩, ?_, ?_, classLinks, subjectLinks, hclass, hsubject, rfl⟩
    · rwa [eraseDups_ne_nil]
    · rwa [eraseDups_ne_nil]
    · refine (assertScope_eq_ok (nodup_eraseDups _) hgiven).2 fun id hid => ?_
      obtain ⟨row, hrow, hrid, hactive, hin⟩ := h.classes id (List.mem_eraseDups.1 hid)
      refine ⟨row, hrow, hrid, hactive, ?_⟩
      simpa [classOutside, ClassBelongs] using hin
    exact (assertScope_eq_ok (nodup_eraseDups _) hgiven).2 fun id hid =>
      hpass id (List.mem_eraseDups.1 hid)
  rw [linkTeacherScope, hrun]
  exact ⟨_, rfl⟩

/-- The test of a subject passes where junior or senior secondary is given, and else where its
level is. -/
theorem subjectOutside_eq_false {level : String} :
    subjectOutside env.lower (levels.map env.lower).eraseDups level = false
      ↔ SubjectBelongs env.lower levels level
        ∨ "jss" ∈ levels.map env.lower ∨ "sss" ∈ levels.map env.lower := by
  by_cases hgiven : env.lower level ∈ levels.map env.lower
  · simp only [subjectOutside, SubjectBelongs, List.mem_eraseDups, hgiven]
    simp
  by_cases hsecondary : "jss" ∈ levels.map env.lower ∨ "sss" ∈ levels.map env.lower
  · simp only [subjectOutside, List.mem_eraseDups]
    rcases hsecondary with h | h <;> simp [h]
  have hnone : ¬((levels.map env.lower).eraseDups.any
      fun value => value = "jss" || value = "sss") = true := by
    simp only [List.any_eq_true, List.mem_eraseDups, Bool.or_eq_true, decide_eq_true_iff]
    rintro ⟨value, hvalue, rfl | rfl⟩
    · exact hsecondary (Or.inl hvalue)
    · exact hsecondary (Or.inr hvalue)
  rw [not_or] at hsecondary
  simp only [subjectOutside, SubjectBelongs, List.mem_eraseDups, hgiven, hsecondary.1,
    hsecondary.2, hnone]
  simp

/-- What the two other operations leave when they go through. -/
theorem links_of_linkTeacherToClasses {env' : ScopeEnv} {db' db'' : TeacherScopeDb}
    {ids ids' : List String} (h : linkTeacherToClasses env' teacherId classIds db = (db', .ok ids))
    (h' : linkTeacherToSubjects env' teacherId subjectIds db' = (db'', .ok ids')) :
    LinksSet teacherId classIds db.classLinks db''.classLinks
      ∧ LinksSet teacherId subjectIds db.subjectLinks db''.subjectLinks := by
  rw [linkTeacherToClasses] at h
  split at h
  · cases h
  split at h
  · cases h
  rename_i classLinks hclass
  rw [linkTeacherToSubjects] at h'
  split at h'
  · cases h'
  split at h'
  · cases h'
  rename_i subjectLinks hsubject
  cases h
  cases h'
  constructor
  · intro link
    rw [mem_reconcileLinks hclass, List.mem_eraseDups]
  intro link
  rw [mem_reconcileLinks hsubject, List.mem_eraseDups]

/-- **A teacher's scope is set whole and within the levels exactly when the call does not take
strangers**: subjects of no given level, under levels with junior or senior secondary. -/
theorem scope_set_whole_iff (hlevels : levels ≠ []) :
    ScopeSetWhole env teacherId classIds subjectIds levels db
      ↔ ¬TakesStrangers env teacherId classIds subjectIds levels db := by
  constructor
  · rintro hlaw ⟨hadmitted, hsecondary, row, hrow, hid, hstranger⟩
    obtain ⟨answer, hok⟩ := linkTeacherScope_accepts hlevels hadmitted fun id hid => by
      obtain ⟨row, hrow, hrid, hactive⟩ := hadmitted.subjects id hid
      exact ⟨row, hrow, hrid, hactive, subjectOutside_eq_false.2 (Or.inr hsecondary)⟩
    obtain ⟨row', hrow', hrid, -, hbelongs⟩ := (hlaw.accepted answer hok).subjects row.id hid
    rw [Keyed.eq_of_key hrow' hrow hrid] at hbelongs
    exact hstranger hbelongs
  intro hnot
  constructor
  · intro refusal h
    rw [linkTeacherScope] at h ⊢
    split at h
    · rfl
    · cases h
  · intro answer hok
    obtain ⟨hadmitted, hpass, hclass, hsubject⟩ := linkTeacherScope_ok hlevels hok
    refine ⟨hclass, hsubject, hadmitted.classes, fun id hid => ?_⟩
    obtain ⟨row, hrow, rfl, hactive, hin⟩ := hpass id hid
    refine ⟨row, hrow, rfl, hactive, ?_⟩
    rcases subjectOutside_eq_false.1 hin with hbelongs | hsecondary
    · exact hbelongs
    by_contra hstranger
    exact hnot ⟨hadmitted, hsecondary, row, hrow, hid, hstranger⟩
  intro answer ids ids' env' db' db'' hok h h'
  obtain ⟨-, -, hclass, hsubject⟩ := linkTeacherScope_ok hlevels hok
  obtain ⟨hclass', hsubject'⟩ := links_of_linkTeacherToClasses h h'
  exact ⟨fun link => (hclass link).trans (hclass' link).symm,
    fun link => (hsubject link).trans (hsubject' link).symm⟩

end Scope

/-! ## A teacher of junior secondary -/

/-- A subject teacher, and a subject of the primary school. -/
def primaryDb : TeacherScopeDb where
  users := ⟨[{ id := "t1", roles := some ["subject_teacher"] }], by decide⟩
  subjects := ⟨[{ id := "s1", schoolLevel := "primary", isActive := true }], by decide⟩

/-- The lower case of ASCII, and a database that refuses nothing. -/
def plainScopeEnv : ScopeEnv :=
  { lower := fun text => String.ofList (text.toList.map Char.toLower) }

/-- Without junior or senior secondary the levels are kept. -/
theorem scope_set_whole_primary :
    ["Primary"] ≠ [] ∧ ScopeSetWhole plainScopeEnv "t1" [] ["s1"] ["Primary"] primaryDb :=
  ⟨by decide, (scope_set_whole_iff (by decide)).2 fun h => absurd h.secondary (by decide)⟩

/-- A primary subject is linked under junior secondary. -/
theorem stranger_linked :
    (linkTeacherScope plainScopeEnv "t1" [] ["s1"] ["jss"] primaryDb).1.subjectLinks.rows
        = [("s1", "t1")]
      ∧ ¬∀ (env : ScopeEnv) (teacherId : String) (classIds subjectIds levels : List String)
        (db : TeacherScopeDb), levels ≠ [] →
          ScopeSetWhole env teacherId classIds subjectIds levels db := by
  refine ⟨by decide, fun hall => ?_⟩
  have hlaw := hall plainScopeEnv "t1" [] ["s1"] ["jss"] primaryDb (by decide)
  obtain ⟨row, hrow, -, -, hbelongs⟩ := (hlaw.accepted _ rfl).subjects "s1" (by decide)
  rw [List.mem_singleton.1 hrow] at hbelongs
  exact absurd hbelongs (by rw [SubjectBelongs]; decide)

end MultiAcademy.School
