import MultiAcademy.School.TermRanking

/-!
# Frozen means frozen

What a parent is given must not depend on the results of a ward whose balance is frozen.  The
portal keeps to it for the ward.  The lists of the academic service show the ward's results as
those of any other child, and a list of the five hundred latest results leaves out what the ward's
results displace; the report card of a sibling is ranked among the results of the class, the
ward's with them.
-/

namespace MultiAcademy.School

open MultiAcademy.Lib

variable {δ : Type}

/-! ## Two databases -/

def SchoolReads.withResults (results : Table (Option Result))
    (generatedResults : Table GeneratedResult) (s : SchoolReads δ) : SchoolReads δ :=
  { s with store := { s.store with records := { s.store.records with results, generatedResults } } }

/-- The result is not the ward's. -/
def ofOthers (ward : String) (row : ℕ × Result) : Bool := row.2.studentId ≠ some ward

/-- The generated result is not the ward's. -/
def generatedOfOthers (ward : String) (row : GeneratedResult × ℕ) : Bool := row.1.studentId ≠ ward

/-- The databases differ in the results of the ward: those of others are the same, at the same
ids. -/
structure DiffersInWard (ward : String) (s s' : SchoolReads δ) : Prop where
  tables : ∃ results generatedResults, s' = s.withResults results generatedResults
  results : (liveResults s'.db).filter (ofOthers ward) = (liveResults s.db).filter (ofOthers ward)
  generated : s'.db.generatedResults.zipIdx.filter (generatedOfOthers ward)
    = s.db.generatedResults.zipIdx.filter (generatedOfOthers ward)

/-! ## Sealed reads -/

/-- The results of the others. -/
def withoutWard (ward : String) (db : AcademicDb) : AcademicDb :=
  { db with results := db.results.map fun cell => cell.filter (·.studentId ≠ some ward) }

/-- A parent may see the ward's generated results of a class. -/
def seesGenerated (parentId ward : String) (filters : GeneratedFilters) (classId : String)
    (db : AcademicDb) : Bool :=
  (visibleStudents parentId (rolesOf parentId db) db).any (fun ids => ward ∈ ids)
    && (orNull filters.classId).all (fun id => classId = id)
    && schoolLevelMatches (getActorSchoolLevel parentId db) (classLevel classId db)

def cardRanked (studentId termId : String) (s : SchoolReads δ) : Bool :=
  s.flags.reportCards && s.fullName.isSome && (findUser studentId s.db).isSome
    && s.flags.termRanking && (cardClass s.env studentId termId s.db).isSome

/-- The report card of a student is shown to the parent, with a ranking of the class. -/
def showsRank (parentId studentId termId : String) (s : SchoolReads δ) : Bool :=
  (assertWard parentId studentId s).isOk && !(s.balance studentId).frozen
    && cardRanked studentId termId s

def hasPlace (studentId termId : String) (s : SchoolReads δ) : Bool :=
  (cardClass s.env studentId termId s.db).any fun classId =>
    (rankedResults classId termId s.db).any fun row => row.2.studentId = some studentId

/-- The parent may see the result of the list. -/
def showsResult (parentId : String) (db : AcademicDb) (row : ResultView) : Bool :=
  maySee parentId db (row.result.studentId.getD "null") row.result.classId row.result.subjectId

/-- The parent may see no result of the ward. -/
def Blind (parentId ward : String) (db : AcademicDb) : Prop :=
  ∀ classId subjectId, maySee parentId db ward classId subjectId = false

/-- The read shows nothing of the ward.  A report card shows no ranking, and a printed one no place
in it.  A list is held by the cache, or shows none of the ward's results; and of the latest results
it shows none at all, also with the ward's away.  The other reads of the portal are sealed. -/
def Sealed (parentId ward : String) (s : SchoolReads δ) : ParentRead → Prop
  | .wardReportCardData studentId termId => showsRank parentId studentId termId s = false
  | .wardReportCardPdf studentId termId =>
    showsRank parentId studentId termId s = true → hasPlace studentId termId s = false
  | .listGeneratedResults filters force =>
    (s.held (.generatedResults parentId (some filters)) force).isSome = true
      ∨ ∀ classId, seesGenerated parentId ward filters classId s.db = false
  | .listResults force =>
    (s.held (.results parentId) force).isSome = true
      ∨ Blind parentId ward s.db
        ∧ ∀ row ∈ latestResults (withoutWard ward s.db), showsResult parentId s.db row = false
  | .listResultsSummary => Blind parentId ward s.db
  | _ => True

/-! ## Rows that others have -/

section Rows
variable {s s' : SchoolReads δ} {parentId ward studentId termId classId : String}

theorem filter_kept {α : Type} {p q : α → Bool} (hp : ∀ a, q a = true → p a = true) (l : List α) :
    (l.filter p).filter q = l.filter q := by
  rw [List.filter_filter]
  refine List.filter_congr fun a _ => ?_
  cases hq : q a with
  | true => rw [hp a hq]; rfl
  | false => rfl

theorem filter_of_imp {α : Type} {p q : α → Bool} {l l' : List α}
    (hp : ∀ a, q a = true → p a = true) (h : l'.filter p = l.filter p) :
    l'.filter q = l.filter q := by
  rw [← filter_kept hp l', h, filter_kept hp l]

theorem liveResults_append (rows : List Result) (db : AcademicDb) :
    liveResults { db with results := db.results ++ rows.map some }
      = liveResults db ++ (rows.zipIdx db.results.length).map fun row => (row.2, row.1) := by
  rw [liveResults, liveResults, List.zipIdx_append, List.filterMap_append, List.zipIdx_map,
    List.filterMap_map]
  congr 1
  rw [← List.filterMap_eq_map, Nat.zero_add]
  rfl

theorem liveResults_withoutWard (db : AcademicDb) :
    liveResults (withoutWard ward db) = (liveResults db).filter (ofOthers ward) := by
  rw [liveResults, liveResults, withoutWard, List.filter_filterMap, List.zipIdx_map,
    List.filterMap_map]
  congr 1
  funext row
  obtain ⟨cell, i⟩ := row
  cases cell with
  | none => rfl
  | some result =>
    by_cases hward : result.studentId = some ward
    · simp [Option.filter, ofOthers, hward]
    · simp [Option.filter, ofOthers, hward]

/-- Results of the ward that are added are no others' results. -/
theorem DiffersInWard.append {rows : List Result}
    (hrows : ∀ row ∈ rows, row.studentId = some ward) :
    DiffersInWard ward s
      (s.withResults (s.db.results ++ rows.map some) s.db.generatedResults) := by
  refine ⟨⟨_, _, rfl⟩, ?_, rfl⟩
  have hlive : liveResults (s.withResults (s.db.results ++ rows.map some)
      s.db.generatedResults).db = liveResults s.db
        ++ (rows.zipIdx s.db.results.length).map fun row => (row.2, row.1) :=
    liveResults_append rows s.db
  rw [hlive, List.filter_append, List.append_right_eq_self, List.filter_eq_nil_iff]
  intro row hrow
  obtain ⟨⟨result, i⟩, hmem, rfl⟩ := List.mem_map.1 hrow
  simp [ofOthers, hrows result (List.fst_mem_of_mem_zipIdx hmem)]

theorem differsInWard_without :
    DiffersInWard ward s
      (s.withResults (withoutWard ward s.db).results s.db.generatedResults) := by
  refine ⟨⟨_, _, rfl⟩, ?_, rfl⟩
  have hlive : liveResults (s.withResults (withoutWard ward s.db).results
      s.db.generatedResults).db = (liveResults s.db).filter (ofOthers ward) :=
    liveResults_withoutWard s.db
  rw [hlive, List.filter_filter]
  simp

theorem DiffersInWard.released (h : DiffersInWard ward s s') (hne : studentId ≠ ward) :
    releasedResults studentId s'.db = releasedResults studentId s.db := by
  refine filter_of_imp ?_ h.generated
  intro row hrow
  simp only [Bool.and_eq_true, decide_eq_true_eq] at hrow
  simp only [generatedOfOthers, decide_eq_true_eq, hrow.1]
  exact hne

/-- The subjects of another student's report card are the same. -/
theorem DiffersInWard.cardSubjects_eq (h : DiffersInWard ward s s') (hne : studentId ≠ ward) :
    cardSubjects s'.env studentId termId s'.db = cardSubjects s.env studentId termId s.db := by
  have hrows : (liveResults s'.db).filter (fun row =>
        row.2.studentId = some studentId && row.2.termId = termId && row.2.status = .approved)
      = (liveResults s.db).filter fun row =>
        row.2.studentId = some studentId && row.2.termId = termId && row.2.status = .approved := by
    refine filter_of_imp ?_ h.results
    intro row hrow
    simp only [Bool.and_eq_true, decide_eq_true_eq] at hrow
    simp [ofOthers, hrow.1.1, hne]
  obtain ⟨results, generatedResults, rfl⟩ := h.tables
  unfold cardSubjects
  rw [hrows]
  rfl

end Rows

/-! ## The reads of the portal -/

section Portal
variable {s s' : SchoolReads δ} {parentId ward studentId termId : String}

/-- The reads of released results say the same of a frozen student, and of one whose released
results are the same. -/
theorem parentRead_of_released (parentId : String) (htables : ∃ results generatedResults,
      s' = s.withResults results generatedResults)
    (hshown : (s.balance studentId).frozen = true
      ∨ releasedResults studentId s'.db = releasedResults studentId s.db) :
    parentRead parentId s' (.wardOverview studentId)
        = parentRead parentId s (.wardOverview studentId)
      ∧ parentRead parentId s' (.wardResults studentId)
        = parentRead parentId s (.wardResults studentId)
      ∧ parentRead parentId s' (.wardHistory studentId)
        = parentRead parentId s (.wardHistory studentId)
      ∧ parentRead parentId s' (.wardTranscriptPdf studentId)
        = parentRead parentId s (.wardTranscriptPdf studentId) := by
  obtain ⟨results, generatedResults, rfl⟩ := htables
  have haccess : assertWard parentId studentId (s.withResults results generatedResults)
      = assertWard parentId studentId s := rfl
  have hbalance : (s.withResults results generatedResults).balance studentId
      = s.balance studentId := rfl
  have hopen : assertNotFrozen studentId (s.withResults results generatedResults)
      = assertNotFrozen studentId s := rfl
  rcases hshown with hfrozen | hsame
  · have hclosed : ∃ e, assertNotFrozen studentId s = .error e := by
      rw [assertNotFrozen, if_pos hfrozen]
      exact ⟨_, rfl⟩
    obtain ⟨e, hclosed⟩ := hclosed
    refine ⟨?_, ?_, ?_, ?_⟩
    · simp only [parentRead, getWardOverviewLocal, haccess, hbalance, hfrozen, if_true]
      rfl
    · simp only [parentRead, School.wardResults, haccess, hbalance, hfrozen, if_true]
    · simp only [parentRead, School.wardHistory, haccess, hbalance, hfrozen, if_true]
    simp only [parentRead, School.wardTranscriptPdf, haccess, hopen, hclosed]
    rfl
  have hresults : queryWardResults studentId (s.withResults results generatedResults)
      = queryWardResults studentId s := by
    unfold queryWardResults
    rw [hsame]
    rfl
  have hhistory : queryWardHistory studentId (s.withResults results generatedResults)
      = queryWardHistory studentId s := by
    unfold queryWardHistory
    rw [hsame]
    rfl
  have htranscript : transcriptData studentId (s.withResults results generatedResults)
      = transcriptData studentId s := by
    unfold transcriptData
    rw [hsame]
    rfl
  refine ⟨?_, ?_, ?_, ?_⟩
  · simp only [parentRead, getWardOverviewLocal, haccess, hbalance, hresults, hhistory]
    rfl
  · simp only [parentRead, School.wardResults, haccess, hbalance, hresults]
  · simp only [parentRead, School.wardHistory, haccess, hbalance, hhistory]
  simp only [parentRead, School.wardTranscriptPdf, haccess, hopen, htranscript]
  rfl

theorem DiffersInWard.shown (h : DiffersInWard ward s s') (hfrozen : (s.balance ward).frozen = true)
    (studentId : String) :
    (s.balance studentId).frozen = true
      ∨ releasedResults studentId s'.db = releasedResults studentId s.db := by
  by_cases hward : studentId = ward
  · rw [hward]
    exact Or.inl hfrozen
  · exact Or.inr (h.released hward)

end Portal

/-! ## The latest results -/

section Latest
variable {s s' : SchoolReads δ} {parentId ward : String}

theorem mem_take_filter {α : Type} {p : α → Bool} {l : List α} {n : ℕ} {a : α} (h : a ∈ l.take n)
    (hp : p a = true) : a ∈ (l.filter p).take n := by
  have hprefix : (l.take n).filter p <+: (l.filter p).take n :=
    List.prefix_take_iff.2 ⟨(List.take_prefix n l).filter p,
      (List.length_filter_le p _).trans (List.length_take_le n l)⟩
  exact hprefix.subset (List.mem_filter.2 ⟨h, hp⟩)

theorem DiffersInWard.mem_latest (h : DiffersInWard ward s s') {row : ResultView}
    (hrow : row ∈ latestResults s'.db) (hother : row.result.studentId ≠ some ward) :
    row ∈ latestResults (withoutWard ward s.db) := by
  obtain ⟨live, hlive, rfl⟩ := List.mem_map.1 hrow
  have hkept : ofOthers ward live = true := by simpa [ofOthers] using hother
  have hmem := mem_take_filter hlive hkept
  rw [List.filter_reverse, h.results, ← liveResults_withoutWard] at hmem
  obtain ⟨results, generatedResults, rfl⟩ := h.tables
  exact List.mem_map.2 ⟨live, hmem, rfl⟩

theorem DiffersInWard.listResults_eq (h : DiffersInWard ward s s')
    (hparent : .parent ∈ rolesOf parentId s.db) :
    School.listResults parentId s'.db
      = .ok ((latestResults s'.db).filter (showsResult parentId s.db)) := by
  obtain ⟨results, generatedResults, rfl⟩ := h.tables
  have hparent' : .parent ∈ rolesOf parentId (s.withResults results generatedResults).db := hparent
  exact School.listResults_eq (Or.inr hparent')

theorem DiffersInWard.refl (ward : String) (s : SchoolReads δ) : DiffersInWard ward s s :=
  ⟨⟨_, _, rfl⟩, rfl, rfl⟩

/-- A parent who is shown none of the ward's results, and none of the latest of the others', has
an empty list. -/
theorem DiffersInWard.listResults_nil (h : DiffersInWard ward s s')
    (hparent : .parent ∈ rolesOf parentId s.db) (hblind : Blind parentId ward s.db)
    (hothers : ∀ row ∈ latestResults (withoutWard ward s.db),
      showsResult parentId s.db row = false) :
    School.listResults parentId s'.db = .ok [] := by
  rw [h.listResults_eq hparent]
  refine congrArg Except.ok (List.filter_eq_nil_iff.2 fun row hrow => Bool.eq_false_iff.1 ?_)
  by_cases hward : row.result.studentId = some ward
  · rw [showsResult, hward]
    exact hblind _ _
  · exact hothers row (h.mem_latest hrow hward)

def pendingOf (ward classId subjectId : String) : Result :=
  { studentId := some ward, classId, subjectId, termId := "", caScore := none, examScore := none
    totalScore := none, grade := none, status := .submitted }

/-- **The latest results are sealed exactly when the list shows none**, with the ward's results or
without. -/
theorem latest_sealed_iff (hparent : .parent ∈ rolesOf parentId s.db) :
    (∀ s', DiffersInWard ward s s' →
        School.listResults parentId s'.db = School.listResults parentId s.db)
      ↔ Blind parentId ward s.db
        ∧ ∀ row ∈ latestResults (withoutWard ward s.db), showsResult parentId s.db row = false := by
  constructor
  · intro hsame
    have hblind : Blind parentId ward s.db := by
      intro classId subjectId
      rw [Bool.eq_false_iff]
      intro hsee
      have hpending : (pendingOf ward classId subjectId).studentId = some ward := rfl
      have hadd : DiffersInWard ward s _ :=
        DiffersInWard.append (List.forall_mem_singleton.2 hpending)
      have hlists := hsame _ hadd
      rw [hadd.listResults_eq hparent, (DiffersInWard.refl ward s).listResults_eq hparent] at hlists
      have hnew : { id := s.db.results.length, result := pendingOf ward classId subjectId
                    schoolLevel := classLevel classId s.db }
          ∈ latestResults { s.db with
              results := s.db.results.insert (some (pendingOf ward classId subjectId)) } :=
        latestResults_insert (pendingOf ward classId subjectId)
      have hold : _ ∈ (latestResults s.db).filter (showsResult parentId s.db) :=
        Except.ok.inj hlists ▸ List.mem_filter.2 ⟨hnew, hsee⟩
      exact absurd (mem_latestResults (List.mem_filter.1 hold).1).1 (Nat.lt_irrefl _)
    refine ⟨hblind, ?_⟩
    -- five hundred results of the ward displace all others
    obtain ⟨rows, hrows, hlength⟩ : ∃ rows : List Result,
        (∀ row ∈ rows, row.studentId = some ward) ∧ rows.length = 500 := by
      refine ⟨List.replicate 500 (pendingOf ward "" ""), ?_, List.length_replicate⟩
      intro row hrow
      rw [List.eq_of_mem_replicate hrow, pendingOf]
    have hfull := DiffersInWard.append (s := s) hrows
    have hempty : School.listResults parentId
        (s.withResults (s.db.results ++ rows.map some) s.db.generatedResults).db = .ok [] := by
      rw [hfull.listResults_eq hparent]
      refine congrArg Except.ok (List.filter_eq_nil_iff.2 fun row hrow => Bool.eq_false_iff.1 ?_)
      have hward : row.result.studentId = some ward := by
        obtain ⟨live, hlive, rfl⟩ := List.mem_map.1 hrow
        have happend : liveResults (s.withResults (s.db.results ++ rows.map some)
            s.db.generatedResults).db = liveResults s.db
              ++ (rows.zipIdx s.db.results.length).map fun row => (row.2, row.1) :=
          liveResults_append rows s.db
        rw [happend, List.reverse_append,
          List.take_append_of_le_length (by simp [hlength])] at hlive
        obtain ⟨⟨result, i⟩, hmem, rfl⟩ :=
          List.mem_map.1 (List.mem_reverse.1 (List.mem_of_mem_take hlive))
        exact hrows result (List.fst_mem_of_mem_zipIdx hmem)
      rw [showsResult, hward]
      exact hblind _ _
    have hwithout := hsame _ differsInWard_without
    rw [← hsame _ hfull, hempty, differsInWard_without.listResults_eq hparent] at hwithout
    have hnone := List.filter_eq_nil_iff.1 (Except.ok.inj hwithout)
    intro row hrow
    exact Bool.eq_false_iff.2 (hnone row hrow)
  rintro ⟨hblind, hothers⟩ s' h
  rw [h.listResults_nil hparent hblind hothers,
    (DiffersInWard.refl ward s).listResults_nil hparent hblind hothers]

end Latest

/-! ## Generated results -/

section Generated
variable {s s' : SchoolReads δ} {parentId ward : String} {filters : GeneratedFilters}

def listsGenerated (parentId : String) (filters : GeneratedFilters) (db : AcademicDb)
    (row : GeneratedResult × ℕ) : Bool :=
  filters.selects parentId (rolesOf parentId db) db row.1
    && schoolLevelMatches (getActorSchoolLevel parentId db) (classLevel row.1.classId db)

/-- A parent's list: what is selected and of the level, by the students' names. -/
theorem listGeneratedResults_of_parent (env : AcademicEnv) (hbefore : Collates env.before)
    {db : AcademicDb} (hparent : .parent ∈ rolesOf parentId db) (filters : GeneratedFilters) :
    School.listGeneratedResults env parentId filters db
      = .ok (((db.generatedResults.zipIdx.filter (listsGenerated parentId filters db)).map
          fun row => generatedView db row.2 row.1).insertionSort
            fun a b => ¬ env.before b.studentName a.studentName) := by
  have hroles := (audience_roles (Or.inr hparent)).1
  have hallowed : ¬ (Role.student ∉ rolesOf parentId db ∧ Role.parent ∉ rolesOf parentId db
      ∧ hasAcademicManagementRole (rolesOf parentId db) = false) := fun h => h.2.1 hparent
  simp only [School.listGeneratedResults, hroles, bind, Except.bind, if_neg hallowed]
  refine congrArg Except.ok ?_
  have hnames : Collates fun a b : GeneratedView => env.before a.studentName b.studentName :=
    hbefore.comap GeneratedView.studentName
  rw [filterByActorSchoolLevel,
    hnames.filter_insertionSort (fun a b => by rw [Bool.not_eq_true]), List.filter_map,
    List.filter_filter]
  congr 3
  funext row
  rw [Bool.and_comm]
  rfl

theorem DiffersInWard.listGenerated_eq (h : DiffersInWard ward s s')
    (hbefore : Collates s.env.before) (hparent : .parent ∈ rolesOf parentId s.db) :
    School.listGeneratedResults s'.env parentId filters s'.db
      = .ok (((s'.db.generatedResults.zipIdx.filter (listsGenerated parentId filters s.db)).map
          fun row => generatedView s.db row.2 row.1).insertionSort
            fun a b => ¬ s.env.before b.studentName a.studentName) := by
  obtain ⟨results, generatedResults, rfl⟩ := h.tables
  have hparent' : .parent ∈ rolesOf parentId (s.withResults results generatedResults).db := hparent
  exact listGeneratedResults_of_parent s.env hbefore hparent' filters

theorem listsGenerated_of_ward {row : GeneratedResult × ℕ}
    (hhidden : ∀ classId, seesGenerated parentId ward filters classId s.db = false)
    (hparent : .parent ∈ rolesOf parentId s.db)
    (hrow : listsGenerated parentId filters s.db row = true) :
    generatedOfOthers ward row = true := by
  obtain ⟨ids, hids⟩ := (audience_roles (Or.inr hparent)).2
  simp only [listsGenerated, GeneratedFilters.selects, hids, Option.all_some, Bool.and_eq_true,
    decide_eq_true_eq] at hrow
  obtain ⟨⟨⟨⟨⟨-, hstudent⟩, -⟩, -⟩, hclass⟩, hlevel⟩ := hrow
  rw [generatedOfOthers, decide_eq_true_eq]
  intro hward
  have hnone := hhidden row.1.classId
  simp only [seesGenerated, hids, Option.any_some, hclass, hlevel, ← hward, hstudent, decide_true,
    Bool.and_self] at hnone
  cases hnone

/-- **The generated results are sealed exactly when the parent may see none of the ward's.** -/
theorem generated_sealed_iff (hbefore : Collates s.env.before)
    (hparent : .parent ∈ rolesOf parentId s.db) :
    (∀ s', DiffersInWard ward s s' →
        School.listGeneratedResults s'.env parentId filters s'.db
          = School.listGeneratedResults s.env parentId filters s.db)
      ↔ ∀ classId, seesGenerated parentId ward filters classId s.db = false := by
  constructor
  · intro hsame classId
    rw [Bool.eq_false_iff]
    intro hsee
    obtain ⟨ids, hids⟩ := (audience_roles (Or.inr hparent)).2
    simp only [seesGenerated, hids, Option.any_some, Bool.and_eq_true, decide_eq_true_eq] at hsee
    obtain ⟨⟨hward, hclass⟩, hlevel⟩ := hsee
    let leaked : GeneratedResult :=
      { sessionId := (orNull filters.sessionId).getD ""
        termId := (orNull filters.termId).getD ""
        classId, studentId := ward
        header :=
          { studentSchoolLevel := "", studentAcademicSession := none, studentTerm := none
            studentGender := none, studentName := "", studentClassName := ""
            studentClassCode := "", studentClassTeacherId := none
            studentClassTeacherName := none, noOfTimesSchoolOpened := 0, admissionNo := none
            noOfTimesPresent := 0, termEnded := none, noOfTimesAbsent := 0
            nextTermBegins := none }
        studentSubjectRecords := [], releaseStatus := .approved, approvedBy := none
        generatedBy := "" }
    have hadd : DiffersInWard ward s
        (s.withResults s.db.results (s.db.generatedResults ++ [leaked])) := by
      refine ⟨⟨_, _, rfl⟩, rfl, ?_⟩
      have hrows : (s.withResults s.db.results
          (s.db.generatedResults ++ [leaked])).db.generatedResults.zipIdx
          = s.db.generatedResults.zipIdx ++ [(leaked, s.db.generatedResults.length)] := by
        exact (List.zipIdx_append).trans (by simp)
      rw [hrows, List.filter_append, List.append_right_eq_self]
      simp [generatedOfOthers, leaked]
    have hlists := hsame _ hadd
    rw [hadd.listGenerated_eq hbefore hparent,
      (DiffersInWard.refl ward s).listGenerated_eq hbefore hparent] at hlists
    have hselected : listsGenerated parentId filters s.db
        (leaked, s.db.generatedResults.length) = true := by
      have hgiven : ∀ text : Option String,
          (orNull text).all (fun id => (orNull text).getD "" = id) = true := by
        intro text
        cases orNull text with
        | none => rfl
        | some id => simp
      simp only [listsGenerated, GeneratedFilters.selects, hids, Option.all_some, leaked, hward,
        hclass, hlevel, hgiven, decide_true, Bool.and_self]
    have hshown : generatedView s.db s.db.generatedResults.length leaked
        ∈ ((s.db.generatedResults.zipIdx.filter (listsGenerated parentId filters s.db)).map
          fun row => generatedView s.db row.2 row.1) := by
      rw [← List.mem_insertionSort (r := fun a b : GeneratedView =>
        ¬ s.env.before b.studentName a.studentName), ← Except.ok.inj hlists,
        List.mem_insertionSort]
      refine List.mem_map.2 ⟨(leaked, s.db.generatedResults.length), ?_, rfl⟩
      refine List.mem_filter.2 ⟨?_, hselected⟩
      exact List.mem_zipIdx_iff_getElem?.2 (by simp [SchoolReads.withResults, SchoolReads.db,
        AcademicStore.db])
    obtain ⟨⟨row, i⟩, hrow, hview⟩ := List.mem_map.1 hshown
    have hbound := (List.mem_zipIdx (List.mem_filter.1 hrow).1).2.1
    have hid : i = s.db.generatedResults.length := congrArg GeneratedView.id hview
    omega
  intro hhidden s' h
  have hrows : s'.db.generatedResults.zipIdx.filter (listsGenerated parentId filters s.db)
      = s.db.generatedResults.zipIdx.filter (listsGenerated parentId filters s.db) :=
    filter_of_imp (fun row hrow => listsGenerated_of_ward hhidden hparent hrow) h.generated
  rw [h.listGenerated_eq hbefore hparent, hrows,
    (DiffersInWard.refl ward s).listGenerated_eq hbefore hparent]

end Generated

/-! ## The summary -/

section Summary
variable {s s' : SchoolReads δ} {parentId ward : String} {env : AcademicEnv} {db : AcademicDb}

theorem collates_nameBefore {before : String → String → Bool} (h : Collates before) :
    Collates (nameBefore before) where
  asymm := by
    intro a b hab
    cases a with
    | none => cases hab
    | some a =>
      cases b with
      | none => rfl
      | some b => exact h.asymm hab
  apart := by
    intro a b c hab hbc
    cases a with
    | none => rfl
    | some a =>
      cases b with
      | none => cases hab
      | some b =>
        cases c with
        | none => cases hbc
        | some c => exact h.apart hab hbc

def summaryGroups (env : AcademicEnv) (db : AcademicDb) : List ResultGroup :=
  ((liveResults db).map fun row => row.2.group).dedup.insertionSort (groupBefore env db)

def groupOfOthers (ward : String) (group : ResultGroup) : Bool := group.studentId ≠ some ward

/-- The parent's summary has a row for the group. -/
def showsGroup (env : AcademicEnv) (parentId : String) (db : AcademicDb) (group : ResultGroup) :
    Bool :=
  let scope := getTeacherScope parentId db
  (visibleStudents parentId (rolesOf parentId db) db).any
      (fun ids => group.studentId.getD "undefined" ∈ ids)
    && (schoolLevelMatches (getActorSchoolLevel parentId db) (classLevel group.classId db)
      && (!scope.isTeacher || hasAcademicManagementRole (rolesOf parentId db)
        || (summaryRow env db group).approvedOnly.inScope scope))

theorem listResultsSummary_of_parent (hparent : .parent ∈ rolesOf parentId db) :
    School.listResultsSummary env parentId db
      = .ok (((summaryGroups env db).filter (showsGroup env parentId db)).map fun group =>
          (summaryRow env db group).approvedOnly) := by
  obtain ⟨hroles, ids, hids⟩ := audience_roles (Or.inr hparent)
  rw [School.listResultsSummary, filterStudentParentResults_eq hroles hids]
  refine (filterByScope_eq hroles _ _).trans (congrArg Except.ok ?_)
  simp only [filterByActorSchoolLevel, summaryRows, List.filter_map, List.map_map,
    List.filter_filter]
  refine congrArg (List.map _) (List.filter_congr fun group _ => ?_)
  simp only [showsGroup, hids, Option.any_some, Function.comp_apply]
  rw [Bool.and_comm, Bool.and_assoc, Bool.and_left_comm]
  rfl

/-- Apart from the ward's, the groups come from the results of others. -/
theorem filter_summaryGroups (hbefore : Collates env.before) :
    (summaryGroups env db).filter (groupOfOthers ward)
      = (((liveResults db).filter (ofOthers ward)).map fun row => row.2.group).dedup.insertionSort
          (groupBefore env db) := by
  have hnames := collates_nameBefore hbefore
  have hgroups := (hnames.comap (·.studentName db : ResultGroup → Option String)).thenBy
    ((hnames.comap (·.className db)).thenBy (hbefore.comap (·.termId)))
  rw [summaryGroups, hgroups.filter_insertionSort (fun a b => by
    rw [← Bool.not_eq_true]
    rfl), filter_dedup, List.filter_map]
  rfl

/-- The rows of other students are the same. -/
theorem DiffersInWard.summaryRow_eq (h : DiffersInWard ward s s') {group : ResultGroup}
    (hgroup : groupOfOthers ward group = true) :
    summaryRow s'.env s'.db group = summaryRow s.env s.db group := by
  have hrows : (liveResults s'.db).filter (fun row => row.2.group = group)
      = (liveResults s.db).filter fun row => row.2.group = group := by
    refine filter_of_imp ?_ h.results
    intro row hrow
    rw [← of_decide_eq_true hrow] at hgroup
    exact hgroup
  obtain ⟨results, generatedResults, rfl⟩ := h.tables
  unfold summaryRow
  rw [hrows]
  rfl

theorem DiffersInWard.showsGroup_eq (h : DiffersInWard ward s s') {group : ResultGroup}
    (hgroup : groupOfOthers ward group = true) :
    showsGroup s'.env parentId s'.db group = showsGroup s.env parentId s.db group := by
  unfold showsGroup
  rw [h.summaryRow_eq hgroup]
  obtain ⟨results, generatedResults, rfl⟩ := h.tables
  rfl

/-- A parent who may see no result of the ward has no row of the ward. -/
theorem Blind.showsGroup_of_ward (hblind : Blind parentId ward db)
    (hparent : .parent ∈ rolesOf parentId db) {group : ResultGroup}
    (hshown : showsGroup env parentId db group = true) : groupOfOthers ward group = true := by
  obtain ⟨ids, hids⟩ := (audience_roles (Or.inr hparent)).2
  simp only [showsGroup, hids, Option.any_some, Bool.and_eq_true, decide_eq_true_eq] at hshown
  obtain ⟨hstudent, hlevel, hscope⟩ := hshown
  rw [groupOfOthers, decide_eq_true_eq]
  intro hward
  rw [hward] at hstudent
  -- the subject that lets the row pass, if it is not the class
  obtain ⟨subjectId, hpass⟩ : ∃ subjectId, (!(getTeacherScope parentId db).isTeacher
      || hasAcademicManagementRole (rolesOf parentId db)
      || group.classId ∈ (getTeacherScope parentId db).classIds
      || subjectId ∈ (getTeacherScope parentId db).subjectIds) = true := by
    rcases Bool.or_eq_true_iff.1 hscope with hall | hscope
    · exact ⟨"", by rw [hall, Bool.true_or, Bool.true_or]⟩
    rcases Bool.or_eq_true_iff.1 hscope with hclass | hsubject
    · have hclass' : group.classId ∈ (getTeacherScope parentId db).classIds :=
        of_decide_eq_true hclass
      exact ⟨"", by simp [hclass']⟩
    obtain ⟨subjectId, hmem, -⟩ := List.any_eq_true.1 hsubject
    exact ⟨subjectId, by simp [hmem]⟩
  have hnone := hblind group.classId subjectId
  have hstudent' : ward ∈ ids := hstudent
  simp only [maySee, hids, Option.any_some, hlevel, hpass, hstudent', decide_true,
    Bool.and_true] at hnone
  cases hnone

def approvedOf (ward classId subjectId : String) : Result :=
  { studentId := some ward, classId, subjectId, termId := "", caScore := none, examScore := none
    totalScore := none, grade := none, status := .approved }

/-- **The summary is sealed exactly when the parent may see no result of the ward.** -/
theorem summary_sealed_iff (hbefore : Collates s.env.before)
    (hparent : .parent ∈ rolesOf parentId s.db) :
    (∀ s', DiffersInWard ward s s' →
        School.listResultsSummary s'.env parentId s'.db
          = School.listResultsSummary s.env parentId s.db)
      ↔ Blind parentId ward s.db := by
  constructor
  · intro hsame classId subjectId
    rw [Bool.eq_false_iff]
    intro hsee
    obtain ⟨ids, hids⟩ := (audience_roles (Or.inr hparent)).2
    simp only [maySee, hids, Option.any_some, Bool.and_eq_true, decide_eq_true_eq] at hsee
    obtain ⟨⟨hward, hlevel⟩, hscope⟩ := hsee
    let added := approvedOf ward classId subjectId
    let s' := s.withResults (s.db.results ++ [added].map some) s.db.generatedResults
    have hlive : liveResults s'.db = liveResults s.db ++ [(s.db.results.length, added)] :=
      liveResults_append [added] s.db
    have hadd : DiffersInWard ward s s' :=
      DiffersInWard.append (List.forall_mem_singleton.2 (rfl : added.studentId = some ward))
    have hparent' : .parent ∈ rolesOf parentId s'.db := hparent
    have hlists := hsame _ hadd
    rw [listResultsSummary_of_parent hparent, listResultsSummary_of_parent hparent'] at hlists
    -- the row of the added result counts one result more than it did
    have hshown : showsGroup s'.env parentId s'.db added.group = true := by
      have hids' : visibleStudents parentId (rolesOf parentId s'.db) s'.db = some ids := hids
      have hsubject : { resultId := s.db.results.length, subjectId
                        subjectName := (findSubject subjectId s.db).map (·.name)
                        caScore := none, examScore := none, totalScore := none, grade := none
                        status := .approved }
          ∈ (summaryRow s'.env s'.db added.group).approvedOnly.examSubjects := by
        refine List.mem_filter.2 ⟨(List.perm_insertionSort _ _).mem_iff.2 ?_, rfl⟩
        refine List.mem_map.2 ⟨(s.db.results.length, added), ?_, rfl⟩
        rw [hlive]
        exact List.mem_filter.2 ⟨List.mem_append_right _ List.mem_cons_self, by simp⟩
      have hinScope : (!(getTeacherScope parentId s.db).isTeacher
          || hasAcademicManagementRole (rolesOf parentId s.db)
          || (summaryRow s'.env s'.db added.group).approvedOnly.inScope
            (getTeacherScope parentId s.db)) = true := by
        rcases Bool.or_eq_true_iff.1 hscope with hscope | htaught
        · rcases Bool.or_eq_true_iff.1 hscope with hall | hclass
          · rw [hall, Bool.true_or]
          have hclass' : (summaryRow s'.env s'.db added.group).approvedOnly.inScope
              (getTeacherScope parentId s.db) = true :=
            Bool.or_eq_true_iff.2 (Or.inl hclass)
          rw [hclass', Bool.or_true]
        have htaught' : (summaryRow s'.env s'.db added.group).approvedOnly.inScope
            (getTeacherScope parentId s.db) = true :=
          Bool.or_eq_true_iff.2 (Or.inr (List.any_eq_true.2 ⟨subjectId,
            of_decide_eq_true htaught, List.any_eq_true.2 ⟨_, hsubject, by simp⟩⟩))
        rw [htaught', Bool.or_true]
      simp only [showsGroup, hids', Option.any_some, Bool.and_eq_true, decide_eq_true_eq]
      exact ⟨hward, hlevel, hinScope⟩
    have hnew : (summaryRow s'.env s'.db added.group).approvedOnly
        ∈ ((summaryGroups s'.env s'.db).filter (showsGroup s'.env parentId s'.db)).map fun group =>
          (summaryRow s'.env s'.db group).approvedOnly := by
      refine List.mem_map.2 ⟨added.group, List.mem_filter.2 ⟨?_, hshown⟩, rfl⟩
      refine (List.mem_insertionSort _).2 (List.mem_dedup.2 (List.mem_map.2
        ⟨(s.db.results.length, added), ?_, rfl⟩))
      rw [hlive]
      exact List.mem_append_right _ List.mem_cons_self
    rw [Except.ok.inj hlists] at hnew
    obtain ⟨group, -, hrow⟩ := List.mem_map.1 hnew
    have hgroup : group = added.group := by
      have hstudent : group.studentId = added.group.studentId := congrArg SummaryRow.studentId hrow
      have hclass : group.classId = added.group.classId := congrArg SummaryRow.classId hrow
      have hterm : group.termId = added.group.termId := congrArg SummaryRow.termId hrow
      cases group
      dsimp only at hstudent hclass hterm
      rw [hstudent, hclass, hterm]
    have hcounts : ∀ db, (summaryRow s.env db added.group).approvedOnly.totalSubjects
        = ((liveResults db).filter fun row => row.2.group = added.group).length :=
      fun db => List.length_map ..
    have hcount := congrArg SummaryRow.totalSubjects hrow
    rw [hgroup, hcounts] at hcount
    have hcount' := hcount.trans (hcounts s'.db)
    rw [hlive, List.filter_append, List.length_append] at hcount'
    simp at hcount'
  intro hblind s' h
  have hgroups : (summaryGroups s'.env s'.db).filter (groupOfOthers ward)
      = (summaryGroups s.env s.db).filter (groupOfOthers ward) := by
    obtain ⟨results, generatedResults, rfl⟩ := h.tables
    have hbefore' : Collates (s.withResults results generatedResults).env.before := hbefore
    rw [filter_summaryGroups hbefore', filter_summaryGroups hbefore, h.results]
    rfl
  have hparent' : .parent ∈ rolesOf parentId s'.db := by
    obtain ⟨results, generatedResults, rfl⟩ := h.tables
    exact hparent
  have hblind' : Blind parentId ward s'.db := by
    obtain ⟨results, generatedResults, rfl⟩ := h.tables
    exact hblind
  rw [listResultsSummary_of_parent hparent, listResultsSummary_of_parent hparent',
    ← filter_kept (fun _ hshown => hblind'.showsGroup_of_ward hparent' hshown), hgroups,
    ← filter_kept (fun _ hshown => hblind.showsGroup_of_ward hparent hshown)
      (summaryGroups s.env s.db)]
  have hshown : ((summaryGroups s.env s.db).filter (groupOfOthers ward)).filter
        (showsGroup s'.env parentId s'.db)
      = ((summaryGroups s.env s.db).filter (groupOfOthers ward)).filter
        (showsGroup s.env parentId s.db) :=
    List.filter_congr fun group hgroup => h.showsGroup_eq (List.mem_filter.1 hgroup).2
  rw [hshown]
  refine congrArg Except.ok (List.map_congr_left fun group hgroup => ?_)
  have hother := (List.mem_filter.1 (List.mem_of_mem_filter hgroup)).2
  rw [h.summaryRow_eq hother]

end Summary

/-! ## Report cards of siblings -/

section Cards
variable {s s' : SchoolReads δ} {parentId ward studentId termId classId : String}

def cardRanks (studentId termId : String) (s : SchoolReads δ) :
    Option (List (Option String × ℚ)) :=
  ((cardClass s.env studentId termId s.db).filter fun _ => s.flags.termRanking).map fun classId =>
    termRanks classId termId s.db

def ReportCard.rankedBy (studentId : String) (ranks : Option (List (Option String × ℚ)))
    (card : ReportCard) : ReportCard :=
  { card with
    position := ranks.bind fun ranks => positionIn ranks studentId
    classSize := ranks.map List.length }

theorem DiffersInWard.trans {s'' : SchoolReads δ} (h : DiffersInWard ward s s')
    (h' : DiffersInWard ward s' s'') : DiffersInWard ward s s'' := by
  refine ⟨?_, h'.results.trans h.results, h'.generated.trans h.generated⟩
  obtain ⟨_, _, rfl⟩ := h.tables
  obtain ⟨results, generatedResults, rfl⟩ := h'.tables
  exact ⟨results, generatedResults, rfl⟩

theorem DiffersInWard.cardClass_eq (h : DiffersInWard ward s s') (hne : studentId ≠ ward) :
    cardClass s'.env studentId termId s'.db = cardClass s.env studentId termId s.db := by
  rw [cardClass, h.cardSubjects_eq hne, cardClass]

/-- Other results that leave the subjects of a report card leave all of it but the ranking. -/
theorem reportCard_of_subjects {results : Table (Option Result)}
    {generatedResults : Table GeneratedResult}
    (hsubjects : cardSubjects s.env studentId termId (s.withResults results generatedResults).db
      = cardSubjects s.env studentId termId s.db) :
    getReportCard studentId termId (s.withResults results generatedResults)
      = (getReportCard studentId termId s).map (ReportCard.rankedBy studentId
          (cardRanks studentId termId (s.withResults results generatedResults))) := by
  have henv : (s.withResults results generatedResults).env = s.env := rfl
  have hflags : (s.withResults results generatedResults).flags = s.flags := rfl
  have hname : (s.withResults results generatedResults).fullName = s.fullName := rfl
  have huser : findUser studentId (s.withResults results generatedResults).db
      = findUser studentId s.db := rfl
  simp only [getReportCard, henv, hflags, hname, huser, hsubjects]
  cases hcards : assertEnabled s.flags.reportCards "academic.report_cards" with
  | error e => rfl
  | ok _ =>
    cases hfullName : s.fullName with
    | none => rfl
    | some fullName =>
      cases hstudent : findUser studentId s.db with
      | none => rfl
      | some student => rfl

theorem rankedBy_self (studentId termId : String) (s : SchoolReads δ) :
    getReportCard studentId termId s
      = (getReportCard studentId termId s).map
          (ReportCard.rankedBy studentId (cardRanks studentId termId s)) :=
  have hsame : s.withResults s.db.results s.db.generatedResults = s := rfl
  hsame ▸ reportCard_of_subjects rfl

/-- **The report card of another student differs in the ranking only.** -/
theorem DiffersInWard.reportCard_eq (h : DiffersInWard ward s s') (hne : studentId ≠ ward) :
    getReportCard studentId termId s'
      = (getReportCard studentId termId s).map
          (ReportCard.rankedBy studentId (cardRanks studentId termId s')) := by
  have hsubjects : cardSubjects s'.env studentId termId s'.db
      = cardSubjects s.env studentId termId s.db := h.cardSubjects_eq hne
  obtain ⟨results, generatedResults, rfl⟩ := h.tables
  exact reportCard_of_subjects hsubjects

theorem DiffersInWard.reportCard_of_not_ranked (h : DiffersInWard ward s s')
    (hne : studentId ≠ ward) (hranked : cardRanked studentId termId s = false) :
    getReportCard studentId termId s' = getReportCard studentId termId s := by
  have hclass : cardClass s'.env studentId termId s'.db = cardClass s.env studentId termId s.db :=
    h.cardClass_eq hne
  have hsame : cardRanks studentId termId s' = cardRanks studentId termId s
      ∨ ∃ e, getReportCard studentId termId s = .error e := by
    obtain ⟨results, generatedResults, rfl⟩ := h.tables
    cases hcards : s.flags.reportCards with
    | false =>
      refine Or.inr ⟨featureDisabled "academic.report_cards", ?_⟩
      simp only [getReportCard, hcards]
      rfl
    | true =>
      cases hname : s.fullName with
      | none =>
        refine Or.inr ⟨queryFailed, ?_⟩
        simp only [getReportCard, hcards, hname]
        rfl
      | some fullName =>
        cases hstudent : findUser studentId s.db with
        | none =>
          refine Or.inr ⟨(404, "Student not found"), ?_⟩
          simp only [getReportCard, hcards, hname, hstudent]
          rfl
        | some student =>
          left
          simp only [cardRanked, hcards, hname, hstudent, Option.isSome_some,
            Bool.true_and, Bool.and_eq_false_iff] at hranked
          simp only [cardRanks, hclass]
          rcases hranked with hranking | hnone
          · have hranking' : (s.withResults results generatedResults).flags.termRanking
                = false := hranking
            simp only [hranking, hranking']
            cases cardClass s.env studentId termId s.db with
            | none => rfl
            | some classId => rfl
          rw [Option.isSome_eq_false_iff, Option.isNone_iff_eq_none] at hnone
          rw [hnone]
          rfl
  rcases hsame with hsame | ⟨e, herror⟩
  · rw [h.reportCard_eq hne, hsame, ← rankedBy_self]
  rw [h.reportCard_eq hne, herror]
  rfl

/-! ### The ranking -/

/-- A result of a ward that counts in the ranking of a class. -/
def rankedOf (ward classId termId : String) (total : ℚ) : Result :=
  { studentId := some ward, classId, subjectId := "", termId, caScore := none, examScore := none
    totalScore := some total, grade := none, status := .approved }

/-- The school without the ward's results, and with one that counts in the ranking. -/
def onlyRanked (ward classId termId : String) (total : ℚ) (s : SchoolReads δ) : SchoolReads δ :=
  s.withResults ((withoutWard ward s.db).results ++ [rankedOf ward classId termId total].map some)
    s.db.generatedResults

/-- The school without the ward's results. -/
def unranked (ward : String) (s : SchoolReads δ) : SchoolReads δ :=
  s.withResults (withoutWard ward s.db).results s.db.generatedResults

theorem differsInWard_onlyRanked (total : ℚ) :
    DiffersInWard ward s (onlyRanked ward classId termId total s) := by
  have hwithout : DiffersInWard ward s (unranked ward s) := differsInWard_without
  refine hwithout.trans ?_
  exact DiffersInWard.append (List.forall_mem_singleton.2
    (rfl : (rankedOf ward classId termId total).studentId = some ward))

/-- **The one result of the ward puts it into the ranking**, and moves no one's average. -/
theorem termRanks_onlyRanked (total : ℚ) :
    (termRanks classId termId (onlyRanked ward classId termId total s).db).Perm
      ((some ward, total) :: termRanks classId termId (unranked ward s).db) := by
  have hrows : rankedResults classId termId (onlyRanked ward classId termId total s).db
      = rankedResults classId termId (unranked ward s).db
        ++ [((unranked ward s).db.results.length, rankedOf ward classId termId total)] := by
    have hlive : liveResults (onlyRanked ward classId termId total s).db
        = liveResults (unranked ward s).db
          ++ [((unranked ward s).db.results.length, rankedOf ward classId termId total)] :=
      liveResults_append [rankedOf ward classId termId total] (unranked ward s).db
    rw [rankedResults, hlive, List.filter_append, rankedResults]
    simp [rankedOf]
  have hnot : ∀ row ∈ rankedResults classId termId (unranked ward s).db,
      row.2.studentId ≠ some ward := by
    intro row hrow
    have hlive : liveResults (unranked ward s).db = (liveResults s.db).filter (ofOthers ward) :=
      liveResults_withoutWard s.db
    have hmem := List.mem_of_mem_filter hrow
    rw [hlive] at hmem
    exact of_decide_eq_true (List.mem_filter.1 hmem).2
  have hids : (((rankedResults classId termId (onlyRanked ward classId termId total s).db).map
        fun row => row.2.studentId).dedup).Perm
      (some ward :: ((rankedResults classId termId (unranked ward s).db).map
        fun row => row.2.studentId).dedup) := by
    have hnew : some ward ∉ (rankedResults classId termId (unranked ward s).db).map
        fun row => row.2.studentId := by
      intro hmem
      obtain ⟨row, hrow, heq⟩ := List.mem_map.1 hmem
      exact hnot row hrow heq
    rw [hrows, List.map_append, ← List.dedup_cons_of_notMem hnew]
    exact (List.perm_append_singleton _ _).dedup
  refine (termRanks_perm _ _ _).trans ((hids.map _).trans ?_)
  rw [List.map_cons]
  have hward : rankAverage classId termId (onlyRanked ward classId termId total s).db (some ward)
      = total := by
    rw [rankAverage, hrows, List.filter_append, List.filter_eq_nil_iff.2 (by simpa using hnot)]
    simp [rankedOf, averageScore]
  rw [hward]
  refine List.Perm.cons _ (List.Perm.trans (List.Perm.of_eq ?_) (termRanks_perm _ _ _).symm)
  refine List.map_congr_left fun studentId hmem => ?_
  obtain ⟨row, hrow, rfl⟩ := List.mem_map.1 (List.mem_dedup.1 hmem)
  rw [rankAverage, hrows, List.filter_append, rankAverage]
  have hother : ¬ some ward = row.2.studentId := fun heq => hnot row hrow heq.symm
  simp [rankedOf, hother]

/-- A report card that is ranked is drawn up, and so it is with other results of the ward. -/
theorem rankedCard (hranked : cardRanked studentId termId s = true)
    (hne : studentId ≠ ward) : ∃ (card : ReportCard) (classId : String),
      cardClass s.env studentId termId s.db = some classId
        ∧ ∀ s', DiffersInWard ward s s' → getReportCard studentId termId s'
          = .ok (card.rankedBy studentId (some (termRanks classId termId s'.db))) := by
  simp only [cardRanked, Bool.and_eq_true, Option.isSome_iff_exists] at hranked
  obtain ⟨⟨⟨⟨hcards, fullName, hname⟩, student, hstudent⟩, hranking⟩, classId, hclass⟩ := hranked
  have hdrawn : ∃ card, getReportCard studentId termId s = .ok card := by
    simp only [getReportCard, hcards, hname, hstudent]
    exact ⟨_, rfl⟩
  obtain ⟨card, hcard⟩ := hdrawn
  refine ⟨card, classId, hclass, fun s' h => ?_⟩
  have hranks : cardRanks studentId termId s' = some (termRanks classId termId s'.db) := by
    have hclass' : cardClass s'.env studentId termId s'.db = some classId :=
      (h.cardClass_eq hne).trans hclass
    obtain ⟨results, generatedResults, rfl⟩ := h.tables
    have hranking' : (s.withResults results generatedResults).flags.termRanking = true := hranking
    rw [cardRanks, hclass', hranking']
    rfl
  rw [h.reportCard_eq hne, hcard, hranks]
  rfl

/-- A student keeps the place in the ranking. -/
theorem DiffersInWard.hasPlace_eq (h : DiffersInWard ward s s') (hne : studentId ≠ ward) :
    hasPlace studentId termId s' = hasPlace studentId termId s := by
  have hrows : ∀ classId, (rankedResults classId termId s'.db).filter
        (fun row => row.2.studentId = some studentId)
      = (rankedResults classId termId s.db).filter fun row => row.2.studentId = some studentId := by
    intro classId
    rw [rankedResults, rankedResults, List.filter_filter, List.filter_filter]
    refine filter_of_imp ?_ h.results
    intro row hrow
    rw [Bool.and_eq_true, decide_eq_true_eq] at hrow
    simp [ofOthers, hrow.1, hne]
  simp only [hasPlace, h.cardClass_eq hne]
  congr 1
  funext classId
  have hany := congrArg (List.any · fun _ => true) (hrows classId)
  simpa using hany

/-- A report card says the same of a frozen student, and one that is the same does. -/
theorem parentRead_of_card (htables : ∃ results generatedResults,
      s' = s.withResults results generatedResults)
    (hcard : (s.balance studentId).frozen = true
      ∨ getReportCard studentId termId s' = getReportCard studentId termId s) :
    parentRead parentId s' (.wardReportCardData studentId termId)
        = parentRead parentId s (.wardReportCardData studentId termId)
      ∧ parentRead parentId s' (.wardReportCardPdf studentId termId)
        = parentRead parentId s (.wardReportCardPdf studentId termId) := by
  obtain ⟨results, generatedResults, rfl⟩ := htables
  have haccess : assertWard parentId studentId (s.withResults results generatedResults)
      = assertWard parentId studentId s := rfl
  have hbalance : (s.withResults results generatedResults).balance studentId
      = s.balance studentId := rfl
  have hopen : assertNotFrozen studentId (s.withResults results generatedResults)
      = assertNotFrozen studentId s := rfl
  have hflags : (s.withResults results generatedResults).flags = s.flags := rfl
  rcases hcard with hfrozen | hcard
  · have hclosed : ∃ e, assertNotFrozen studentId s = .error e := by
      rw [assertNotFrozen, if_pos hfrozen]
      exact ⟨_, rfl⟩
    obtain ⟨e, hclosed⟩ := hclosed
    constructor
    · simp only [parentRead, School.wardReportCardData, haccess, hbalance, hfrozen, if_true]
    simp only [parentRead, School.wardReportCardPdf, haccess, hopen, hclosed]
    rfl
  constructor
  · simp only [parentRead, School.wardReportCardData, haccess, hbalance, hflags, hcard]
  simp only [parentRead, School.wardReportCardPdf, haccess, hopen, hflags, hcard]
  rfl

/-- What a parent is shown of a report card. -/
theorem parentRead_card {card : ReportCard}
    (haccess : (assertWard parentId studentId s).isOk = true)
    (hopen : (s.balance studentId).frozen = false) (hcards : s.flags.reportCards = true)
    (hcard : getReportCard studentId termId s = .ok card) :
    parentRead parentId s (.wardReportCardData studentId termId)
        = .ok (.reportCard { frozen := false, shown := some card })
      ∧ parentRead parentId s (.wardReportCardPdf studentId termId)
        = .ok (.pdf (reportCardPdf studentId termId card s)) := by
  have hok : assertWard parentId studentId s = .ok () := by
    cases hward : assertWard parentId studentId s with
    | error e => rw [hward] at haccess; cases haccess
    | ok _ => rfl
  have hnotFrozen : assertNotFrozen studentId s = .ok () := by
    rw [assertNotFrozen, hopen]
    rfl
  constructor
  · simp only [parentRead, School.wardReportCardData, hok, hopen, hcards, hcard]
    rfl
  simp only [parentRead, School.wardReportCardPdf, hok, hnotFrozen, hcards, hcard]
  rfl

/-- What a parent is shown of a ranked report card, with other results of the ward. -/
theorem parentRead_rankedCard (hfrozen : (s.balance ward).frozen = true)
    (hshown : showsRank parentId studentId termId s = true) : studentId ≠ ward
      ∧ ∃ (card : ReportCard) (classId : String),
        cardClass s.env studentId termId s.db = some classId
          ∧ ∀ s', DiffersInWard ward s s' →
            parentRead parentId s' (.wardReportCardData studentId termId)
                = .ok (.reportCard { frozen := false, shown := some (card.rankedBy studentId
                  (some (termRanks classId termId s'.db))) })
              ∧ parentRead parentId s' (.wardReportCardPdf studentId termId)
                = .ok (.pdf (reportCardPdf studentId termId (card.rankedBy studentId
                  (some (termRanks classId termId s'.db))) s')) := by
  simp only [showsRank, Bool.and_eq_true, Bool.not_eq_true'] at hshown
  obtain ⟨⟨haccess, hopen⟩, hranked⟩ := hshown
  have hne : studentId ≠ ward := by
    rintro rfl
    rw [hfrozen] at hopen
    cases hopen
  obtain ⟨card, classId, hclass, hcards⟩ := rankedCard hranked hne
  refine ⟨hne, card, classId, hclass, fun s' h => ?_⟩
  have hcard := hcards s' h
  obtain ⟨results, generatedResults, rfl⟩ := h.tables
  simp only [cardRanked, Bool.and_eq_true] at hranked
  have hflag : (s.withResults results generatedResults).flags.reportCards = true :=
    hranked.1.1.1.1
  exact parentRead_card haccess hopen hflag hcard

/-- A report card that shows no ranking is sealed. -/
theorem DiffersInWard.card_sealed (h : DiffersInWard ward s s')
    (hfrozen : (s.balance ward).frozen = true)
    (hshown : showsRank parentId studentId termId s = false) :
    parentRead parentId s' (.wardReportCardData studentId termId)
        = parentRead parentId s (.wardReportCardData studentId termId)
      ∧ parentRead parentId s' (.wardReportCardPdf studentId termId)
        = parentRead parentId s (.wardReportCardPdf studentId termId) := by
  by_cases hward : studentId = ward
  · subst hward
    exact parentRead_of_card h.tables (Or.inl hfrozen)
  simp only [showsRank, Bool.and_eq_false_iff, Bool.not_eq_false'] at hshown
  rcases hshown with (haccess | hclosed) | hranked
  · obtain ⟨results, generatedResults, rfl⟩ := h.tables
    have haccess' : assertWard parentId studentId (s.withResults results generatedResults)
        = assertWard parentId studentId s := rfl
    cases herror : assertWard parentId studentId s with
    | ok _ => rw [herror] at haccess; cases haccess
    | error e =>
      simp only [parentRead, School.wardReportCardData, School.wardReportCardPdf, haccess',
        herror]
      exact ⟨rfl, rfl⟩
  · exact parentRead_of_card h.tables (Or.inl hclosed)
  · exact parentRead_of_card h.tables (Or.inr (h.reportCard_of_not_ranked hward hranked))

/-- **A report card is sealed exactly when it shows no ranking**: the size of the class tells
whether the ward has a place in it. -/
theorem card_sealed_iff (hfrozen : (s.balance ward).frozen = true) :
    (∀ s', DiffersInWard ward s s' → parentRead parentId s' (.wardReportCardData studentId termId)
        = parentRead parentId s (.wardReportCardData studentId termId))
      ↔ showsRank parentId studentId termId s = false := by
  constructor
  · intro hsame
    by_contra hshown
    obtain ⟨-, card, classId, -, hcards⟩ :=
      parentRead_rankedCard hfrozen (Bool.not_eq_false _ ▸ hshown)
    have hwithout : DiffersInWard ward s (unranked ward s) := differsInWard_without
    have hwith : DiffersInWard ward s (onlyRanked ward classId termId 0 s) :=
      differsInWard_onlyRanked 0
    have hcard := (hsame _ hwithout).trans (hsame _ hwith).symm
    rw [(hcards _ hwithout).1, (hcards _ hwith).1] at hcard
    have hsize : some (termRanks classId termId (unranked ward s).db).length
        = some (termRanks classId termId (onlyRanked ward classId termId 0 s).db).length := by
      injection hcard with hcard
      injection hcard with hcard
      injection hcard with _ _ hcard
      exact congrArg ReportCard.classSize (Option.some.inj hcard)
    have hranks : (termRanks classId termId (onlyRanked ward classId termId 0 s).db).Perm
        ((some ward, 0) :: termRanks classId termId (unranked ward s).db) :=
      termRanks_onlyRanked 0
    have hlength := hranks.length_eq
    rw [← Option.some.inj hsize, List.length_cons] at hlength
    omega
  intro hshown s' h
  exact (h.card_sealed hfrozen hshown).1

/-- A printed report card shows the place of the student. -/
theorem position_of_printed {card card' : ReportCard}
    (h : reportCardPdf studentId termId card s = reportCardPdf studentId termId card' s') :
    card.position = card'.position := by
  have hcells := congrArg (fun report : PdfReport => (report.summary[1]?).map Prod.snd) h
  simp only [reportCardPdf, List.getElem?_cons_succ, List.getElem?_cons_zero, Option.map_some,
    Option.some.injEq] at hcells
  cases hplace : card.position with
  | none =>
    cases hplace' : card'.position with
    | none => rfl
    | some n' =>
      rw [hplace, hplace'] at hcells
      cases hcells
  | some n =>
    cases hplace' : card'.position with
    | none =>
      rw [hplace, hplace'] at hcells
      cases hcells
    | some n' =>
      rw [hplace, hplace'] at hcells
      exact congrArg some (Nat.cast_injective (PdfCell.number.inj hcells))

/-- **A printed report card is sealed exactly when it shows no place in a ranking.** -/
theorem printed_sealed_iff (hfrozen : (s.balance ward).frozen = true) :
    (∀ s', DiffersInWard ward s s' → parentRead parentId s' (.wardReportCardPdf studentId termId)
        = parentRead parentId s (.wardReportCardPdf studentId termId))
      ↔ (showsRank parentId studentId termId s = true → hasPlace studentId termId s = false) := by
  constructor
  · intro hsame hshown
    rw [Bool.eq_false_iff]
    intro hplace
    obtain ⟨hne, card, classId, hclass, hcards⟩ := parentRead_rankedCard hfrozen hshown
    have hwithout : DiffersInWard ward s (unranked ward s) := differsInWard_without
    -- the student's rank while the ward has none
    have hplace' : hasPlace studentId termId (unranked ward s) = true :=
      (hwithout.hasPlace_eq hne).trans hplace
    rw [hasPlace, (hwithout.cardClass_eq hne).trans hclass, Option.any_some] at hplace'
    obtain ⟨row, hrow, hstudent⟩ := List.any_eq_true.1 hplace'
    obtain ⟨average, hrank⟩ : ∃ average,
        (some studentId, average) ∈ termRanks classId termId (unranked ward s).db := by
      refine ⟨_, (termRanks_perm _ _ _).mem_iff.2 (List.mem_map.2 ⟨some studentId, ?_, rfl⟩)⟩
      exact List.mem_dedup.2 (List.mem_map.2 ⟨row, hrow, of_decide_eq_true hstudent⟩)
    -- a better one of the ward puts the student one place lower
    have hwith : DiffersInWard ward s (onlyRanked ward classId termId (average + 1) s) :=
      differsInWard_onlyRanked (average + 1)
    have hranks : (termRanks classId termId
          (onlyRanked ward classId termId (average + 1) s).db).Perm
        ((some ward, average + 1) :: termRanks classId termId (unranked ward s).db) :=
      termRanks_onlyRanked (average + 1)
    have hfirst := positionIn_eq (termRanks_keys classId termId (unranked ward s).db).1
      (termRanks_keys classId termId (unranked ward s).db).2 hrank
    have hsecond := positionIn_eq
      (termRanks_keys classId termId (onlyRanked ward classId termId (average + 1) s).db).1
      (termRanks_keys classId termId (onlyRanked ward classId termId (average + 1) s).db).2
      (hranks.mem_iff.2 (List.mem_cons_of_mem _ hrank))
    rw [hranks.countP_eq, List.countP_cons_of_pos (by simp)] at hsecond
    have hcard := (hsame _ hwithout).trans (hsame _ hwith).symm
    rw [(hcards _ hwithout).2, (hcards _ hwith).2] at hcard
    injection hcard with hcard
    injection hcard with hcard
    have hplaces : positionIn (termRanks classId termId (unranked ward s).db) studentId
        = positionIn (termRanks classId termId
          (onlyRanked ward classId termId (average + 1) s).db) studentId :=
      position_of_printed hcard
    rw [hfirst, hsecond, Option.some.injEq] at hplaces
    omega
  intro hplace s' h
  cases hshown : showsRank parentId studentId termId s with
  | false => exact (h.card_sealed hfrozen hshown).2
  | true =>
    obtain ⟨hne, card, classId, hclass, hcards⟩ := parentRead_rankedCard hfrozen hshown
    have hnone : ∀ s', DiffersInWard ward s s' →
        positionIn (termRanks classId termId s'.db) studentId = none := by
      intro s' h
      have hplace' := (h.hasPlace_eq hne).trans (hplace hshown)
      rw [hasPlace, (h.cardClass_eq hne).trans hclass, Option.any_some] at hplace'
      refine positionIn_eq_none fun rank hrank heq => ?_
      obtain ⟨id, hid, rfl⟩ := List.mem_map.1 ((termRanks_perm _ _ _).mem_iff.1 hrank)
      obtain ⟨row, hrow, hstudent⟩ := List.mem_map.1 (List.mem_dedup.1 hid)
      refine List.any_eq_false.1 hplace' row hrow ?_
      exact decide_eq_true (hstudent.trans heq)
    rw [(hcards s' h).2, (hcards s (DiffersInWard.refl ward s)).2]
    obtain ⟨results, generatedResults, rfl⟩ := h.tables
    simp only [reportCardPdf, ReportCard.rankedBy, Option.bind_some, hnone _ h,
      hnone s (DiffersInWard.refl ward s)]
    rfl

end Cards

/-! ## Every read -/

section Reads
variable {s s' : SchoolReads δ} {parentId ward : String}

/-- A list call is sealed when the cache holds the list, and otherwise when the list is. -/
theorem list_sealed_iff (l : AcademicList) (force : Bool) :
    (∀ s', DiffersInWard ward s s' →
        (s'.list l force).map (ReadAnswer.list (δ := δ)) = (s.list l force).map .list)
      ↔ (s.held l force).isSome = true
        ∨ ∀ s', DiffersInWard ward s s' →
          l.uncached s'.env s'.store = l.uncached s.env s.store := by
  have hheld : ∀ s', DiffersInWard ward s s' → s'.held l force = s.held l force := by
    intro s' h
    obtain ⟨results, generatedResults, rfl⟩ := h.tables
    rfl
  cases hentry : s.held l force with
  | some entry =>
    refine iff_of_true (fun s' h => ?_) (Or.inl rfl)
    simp only [SchoolReads.list, hheld s' h, hentry]
  | none =>
    have hlist : ∀ s', DiffersInWard ward s s' →
        s'.list l force = l.uncached s'.env s'.store := by
      intro s' h
      simp only [SchoolReads.list, hheld s' h, hentry]
    have hself := hlist s (DiffersInWard.refl ward s)
    constructor
    · intro hsame
      refine Or.inr fun s' h => ?_
      rw [← hlist s' h, ← hself]
      exact eq_of_map_eq (fun _ _ heq => ReadAnswer.list.inj heq) (hsame s' h)
    rintro (hsome | hsame) s' h
    · cases hsome
    · rw [hlist s' h, hself, hsame s' h]

end Reads

/-- **Frozen means frozen**, exactly where the read is sealed.  What a parent is given of a frozen
ward does not depend on its results as long as the portal is asked for the ward, a report card of
another shows no ranking, and of a list the cache holds it or the ward has no part in it. -/
theorem frozen_ward_hidden_iff (s : SchoolReads δ) (parentId ward : String)
    (hbefore : Collates s.env.before) (hparent : .parent ∈ rolesOf parentId s.db)
    (hfrozen : (s.balance ward).frozen = true) (read : ParentRead) :
    (∀ s', DiffersInWard ward s s' → parentRead parentId s' read = parentRead parentId s read)
      ↔ Sealed parentId ward s read := by
  have hportal (studentId : String) (s' : SchoolReads δ) (h : DiffersInWard ward s s') :=
    parentRead_of_released parentId h.tables (h.shown hfrozen studentId)
  cases read with
  | wardOverview studentId =>
    exact iff_of_true (fun s' h => (hportal studentId s' h).1) trivial
  | wardResults studentId =>
    exact iff_of_true (fun s' h => (hportal studentId s' h).2.1) trivial
  | wardHistory studentId =>
    exact iff_of_true (fun s' h => (hportal studentId s' h).2.2.1) trivial
  | wardTranscriptPdf studentId =>
    exact iff_of_true (fun s' h => (hportal studentId s' h).2.2.2) trivial
  | wardReportCardData studentId termId => exact card_sealed_iff hfrozen
  | wardReportCardPdf studentId termId => exact printed_sealed_iff hfrozen
  | listGeneratedResults filters force =>
    refine (list_sealed_iff _ force).trans (or_congr Iff.rfl ?_)
    rw [← generated_sealed_iff hbefore hparent]
    refine forall₂_congr fun s' h => ⟨fun heq => ?_, fun heq => ?_⟩
    · exact eq_of_map_eq (fun _ _ h => ListAnswer.generatedResults.inj h) heq
    · exact congrArg (Except.map ListAnswer.generatedResults) heq
  | listResults force =>
    refine (list_sealed_iff _ force).trans (or_congr Iff.rfl ?_)
    rw [← latest_sealed_iff hparent]
    refine forall₂_congr fun s' h => ⟨fun heq => ?_, fun heq => ?_⟩
    · exact eq_of_map_eq (fun _ _ h => ListAnswer.results.inj h) heq
    · exact congrArg (Except.map ListAnswer.results) heq
  | listResultsSummary =>
    rw [Sealed, ← summary_sealed_iff hbefore hparent]
    refine forall₂_congr fun s' h => ⟨fun heq => ?_, fun heq => ?_⟩
    · exact eq_of_map_eq (fun _ _ h => ReadAnswer.summary.inj h) heq
    · exact congrArg (Except.map ReadAnswer.summary) heq

/-- A parent, and a ward with an unpaid invoice. -/
def frozenSchool : SchoolReads Unit :=
  { tenantId := "school"
    store :=
      { classes := ⟨[{ id := "class", name := "Class", code := "C", schoolLevel := "primary" }],
          by decide⟩
        records :=
          { users :=
              [ { id := "parent", name := "Parent", roles := [.parent] },
                { id := "ward", name := "Ward", roles := [.student] } ]
            parents := [⟨"parent", "ward"⟩] } }
    fees := { invoices := [{ studentId := "ward", amount := 50000, status := .unpaid }] }
    dashboard := fun _ => () }

theorem collates_frozenSchool : Collates frozenSchool.env.before :=
  collates_lt fun _ _ => decide_eq_true_iff

/-- The results of the ward stay hidden in the portal. -/
theorem frozen_ward_hidden_portal :
    parentRead "parent" (frozenSchool.withResults [some (approvedOf "ward" "class" "maths")] [])
        (.wardResults "ward")
      = parentRead "parent" frozenSchool (.wardResults "ward") :=
  (frozen_ward_hidden_iff frozenSchool "parent" "ward" collates_frozenSchool (by decide)
    (by decide) (.wardResults "ward")).2 trivial _
    ⟨⟨_, _, rfl⟩, by decide, rfl⟩

/-- **A frozen ward's results are shown**: an approved result of the ward is in the list and in the
summary that its parent is given. -/
theorem not_frozen_ward_hidden :
    ¬ ∀ (s s' : SchoolReads Unit) (parentId ward : String) (read : ParentRead),
        Collates s.env.before → .parent ∈ rolesOf parentId s.db →
        ⟨parentId, ward⟩ ∈ s.db.parents → (s.balance ward).frozen = true →
        DiffersInWard ward s s' → parentRead parentId s' read = parentRead parentId s read := by
  intro h
  have hsame := h frozenSchool
    (frozenSchool.withResults [some (approvedOf "ward" "class" "maths")] []) "parent" "ward"
    .listResultsSummary collates_frozenSchool (by decide) (by decide)
    (by decide)
    ⟨⟨_, _, rfl⟩, by decide, rfl⟩
  have hrows := congrArg (fun answer => answer.toOption.map fun
    | .summary rows => rows.length
    | _ => 0) hsame
  revert hrows
  decide +kernel

end MultiAcademy.School
