import MultiAcademy.Lib.Tally
import MultiAcademy.School.GeneratedResults

/-!
# What becomes of the scores of a subject

The record of a subject has one score for its examination and one for all the rest.  The preview
has added the scores up under the names of their subcategories, or of their categories, and what
stands under the name `examination` is taken for the examination's.
-/

namespace MultiAcademy.School

open MultiAcademy.Lib

variable {db : AcademicDb} {p : String → Bool}

/-! ## The rows of a preview -/

/-- The key under which the score of a sheet counts: none without the name of a category, nor under
a key that the row has already. -/
def NamedSheet.countedKey (named : NamedSheet) : Option String :=
  ((named.categoryName.filter (· ≠ "")).map fun categoryName =>
    scoreKey ((named.subcategoryName.filter (· ≠ "")).getD categoryName)).filter (!inherited ·)

/-- The scores of a subject that count under the keys that qualify, added up. -/
def counted (p : String → Bool) (subjectId : String) (sheets : List NamedSheet) : ℚ :=
  ((sheets.filter fun named => named.sheet.subjectId = subjectId && named.countedKey.any p).map
    fun named => named.sheet.studentScore.getD 0).sum

theorem counted_append (p : String → Bool) (subjectId : String) (sheets : List NamedSheet)
    (named : NamedSheet) :
    counted p subjectId (sheets ++ [named])
      = counted p subjectId sheets
        + if named.sheet.subjectId = subjectId && named.countedKey.any p then
            named.sheet.studentScore.getD 0 else 0 := by
  rw [counted, counted, List.filter_append, List.map_append, List.sum_append, List.filter_singleton]
  split <;> simp [*]

theorem counted_perm {subjectId : String} {sheets sheets' : List NamedSheet}
    (h : sheets.Perm sheets') : counted p subjectId sheets = counted p subjectId sheets' :=
  ((h.filter _).map _).sum_eq

/-- A row counts no score under a key that it has already. -/
def SubjectScores.Plain (row : SubjectScores) : Prop :=
  ∀ key, inherited key = true → (row.scores.get? key).join = none

theorem sumOf_eq (row : SubjectScores) :
    row.sumOf p
      = (row.scores.entries.map fun entry => if p entry.1 then entry.2.getD 0 else 0).sum := by
  rw [SubjectScores.sumOf]
  induction row.scores.entries with
  | nil => rfl
  | cons entry entries ih =>
    rw [List.filter_cons, List.map_cons, List.sum_cons, ← ih]
    split <;> simp

/-- **A score that is entered adds to the sums of its key**, unless the row has the key already. -/
theorem sumOf_add {row : SubjectScores} (hplain : row.Plain) (key : String) (score : Option ℚ) :
    (row.add key score).sumOf p
      = row.sumOf p + if !inherited key && p key then score.getD 0 else 0 := by
  have hset (value : Option ℚ) := OrderedMap.sum_set
    (fun entry : String × Option ℚ => if p entry.1 then entry.2.getD 0 else 0) row.scores key value
  rw [sumOf_eq, sumOf_eq]
  cases score with
  | none =>
    simp only [SubjectScores.add]
    split
    · simp
    next hnew =>
      have hget : row.scores.get? key = none := by
        rw [Bool.or_eq_true, not_or, Option.not_isSome_iff_eq_none] at hnew
        exact hnew.2
      simpa [hget] using hset none
  | some s =>
    simp only [SubjectScores.add]
    cases hkey : inherited key with
    | true =>
      have hjoin := hplain key hkey
      have hnone := hset none
      cases hget : row.scores.get? key with
      | none => simpa [hget] using hnone
      | some old =>
        rw [hget, Option.join_some] at hjoin
        simpa [hget, hjoin] using hnone
    | false =>
      have hsum := hset (some ((row.scores.get? key).join.elim s (· + s)))
      by_cases hp : p key = true
      · cases hget : row.scores.get? key with
        | none => simpa [hget, hp] using hsum
        | some old =>
          rw [hget] at hsum
          cases old with
          | none => simpa [hget, hp] using hsum
          | some old =>
            simp only [hp, if_true, Option.map_some, Option.getD_some, Option.join_some,
              Option.elim_some] at hsum
            simp only [hp, Option.join_some, Option.elim_some, Bool.not_false, Bool.and_self,
              if_true, Bool.false_eq_true, if_false, Option.getD_some]
            linarith only [hsum]
      · cases hget : row.scores.get? key <;> simpa [hget, hp] using hsum

theorem plain_add {row : SubjectScores} (hplain : row.Plain) (key : String) (score : Option ℚ) :
    (row.add key score).Plain := by
  intro key' hkey'
  have hset : ∀ value : Option ℚ, (inherited key = true → value = none) →
      ((row.scores.set key value).get? key').join = none := by
    intro value hvalue
    rw [OrderedMap.get?_set]
    split
    next heq => rw [hvalue (heq ▸ hkey'), Option.join_some]
    · exact hplain key' hkey'
  cases score with
  | none =>
    simp only [SubjectScores.add]
    split
    · exact hplain key' hkey'
    · exact hset none fun _ => rfl
  | some s => exact hset _ fun hkey => if_pos hkey

/-- The rows of a preview hold the scores of the sheets. -/
structure Accounts (sheets : List NamedSheet) (rows : List SubjectScores) : Prop where
  plain : ∀ row ∈ rows, row.Plain
  sums : ∀ row ∈ rows, ∀ p, row.sumOf p = counted p row.subjectId sheets
  absent : ∀ subjectId, (∀ row ∈ rows, row.subjectId ≠ subjectId) →
    ∀ p, counted p subjectId sheets = 0

theorem Accounts.addSheet {sheets : List NamedSheet} {rows : List SubjectScores}
    (h : Accounts sheets rows) (named : NamedSheet) :
    Accounts (sheets ++ [named]) (addSheet db rows named) := by
  cases hname : named.categoryName.filter (· ≠ "") with
  | none =>
    have hkey : named.countedKey = none := by rw [NamedSheet.countedKey, hname]; rfl
    have hsame : ∀ p subjectId, counted p subjectId (sheets ++ [named])
        = counted p subjectId sheets := by
      intro p subjectId
      rw [counted_append, hkey]
      simp
    simp only [School.addSheet, hname]
    exact ⟨h.plain, fun row hrow p => (h.sums row hrow p).trans (hsame p _).symm,
      fun subjectId habsent p => (hsame p subjectId).trans (h.absent subjectId habsent p)⟩
  | some categoryName =>
    obtain ⟨key, hkey⟩ : ∃ key, key
      = scoreKey ((named.subcategoryName.filter (· ≠ "")).getD categoryName) := ⟨_, rfl⟩
    have hcounted : ∀ p, named.countedKey.any p = (!inherited key && p key) := by
      intro p
      rw [NamedSheet.countedKey, hname, Option.map_some, ← hkey, Option.filter_some]
      cases inherited key <;> rfl
    -- the rows once there is one of the subject
    have hstart : ∃ start, Accounts sheets start
        ∧ (∃ row ∈ start, row.subjectId = named.sheet.subjectId)
        ∧ School.addSheet db rows named = start.map fun row =>
          if row.subjectId = named.sheet.subjectId then row.add key named.sheet.studentScore
          else row := by
      simp only [School.addSheet, hname, ← hkey]
      split
      next hany =>
        obtain ⟨row, hrow, heq⟩ := List.any_eq_true.1 hany
        exact ⟨rows, h, ⟨row, hrow, of_decide_eq_true heq⟩, rfl⟩
      next hnone =>
        have hnot : ∀ row ∈ rows, row.subjectId ≠ named.sheet.subjectId := by simpa using hnone
        refine ⟨_, ⟨fun row hrow => ?_, fun row hrow p => ?_, fun subjectId habsent => ?_⟩,
          ⟨_, List.mem_append_right _ List.mem_cons_self, rfl⟩, rfl⟩
        · rcases List.mem_append.1 hrow with hrow | hrow
          · exact h.plain row hrow
          rw [List.mem_singleton.1 hrow]
          exact fun _ _ => rfl
        · rcases List.mem_append.1 hrow with hrow | hrow
          · exact h.sums row hrow p
          rw [List.mem_singleton.1 hrow]
          exact (h.absent _ hnot p).symm
        · exact h.absent subjectId fun row hrow => habsent row (List.mem_append_left _ hrow)
    obtain ⟨start, hstart, ⟨own, hown, hsubject⟩, hadd⟩ := hstart
    rw [hadd]
    refine ⟨fun row hrow => ?_, fun row hrow p => ?_, fun subjectId habsent p => ?_⟩
    · obtain ⟨old, hold, rfl⟩ := List.mem_map.1 hrow
      split
      · exact plain_add (hstart.plain old hold) _ _
      · exact hstart.plain old hold
    · obtain ⟨old, hold, rfl⟩ := List.mem_map.1 hrow
      rw [counted_append, hcounted]
      split
      next heq =>
        rw [sumOf_add (hstart.plain old hold), add_subjectId, hstart.sums old hold]
        simp [heq]
      next hne =>
        rw [hstart.sums old hold]
        simp [Ne.symm hne]
    have hne : named.sheet.subjectId ≠ subjectId := by
      intro heq
      refine habsent _ (List.mem_map_of_mem hown) ?_
      rw [if_pos hsubject, add_subjectId, hsubject, heq]
    rw [counted_append, hstart.absent subjectId fun row hrow heq => ?_]
    · simp [hne]
    refine habsent _ (List.mem_map_of_mem hrow) ?_
    rw [if_neg (heq.trans_ne hne.symm), heq]

theorem accounts_foldl (db : AcademicDb) (sheets : List NamedSheet) :
    Accounts sheets (sheets.foldl (addSheet db) []) := by
  induction sheets using List.reverseRecOn with
  | nil => exact ⟨by simp, by simp, fun _ _ _ => rfl⟩
  | append_singleton sheets named ih =>
    rw [List.foldl_append, List.foldl_cons, List.foldl_nil]
    exact ih.addSheet named

/-! ## Generated records -/

variable {env : AcademicEnv} {sitting : Sitting} {actorUserId studentId : String}

/-- The score sheets of a student and a subject. -/
def rawSheets (sitting : Sitting) (studentId subjectId : String) (db : AcademicDb) :
    List ScoreSheet :=
  db.scoreSheets.filter fun sheet =>
    sitting.holds studentId sheet && sheet.subjectId = subjectId

/-- The scores of the sheets that qualify, added up. -/
def scored (p : ScoreSheet → Bool) (sheets : List ScoreSheet) : ℚ :=
  ((sheets.filter p).map fun sheet => sheet.studentScore.getD 0).sum

theorem scored_split (p q : ScoreSheet → Bool) (sheets : List ScoreSheet) :
    scored p sheets
      = scored (fun sheet => p sheet && q sheet) sheets
        + scored (fun sheet => p sheet && !q sheet) sheets := sum_filter_split _ p q sheets

/-- The score of the sheet counts for nothing. -/
def lost (db : AcademicDb) (sheet : ScoreSheet) : Bool := (nameSheet db sheet).countedKey.isNone

def underExamination (db : AcademicDb) (sheet : ScoreSheet) : Bool :=
  (nameSheet db sheet).countedKey.any (· = "examination")

/-- The record holds all scores of the sheets, and apart from the others those of the category
`examination`. -/
structure Classified (examination : String) (sheets : List ScoreSheet) (record : SubjectRecord) :
    Prop where
  conserved : record.caScore + record.examScore = scored (fun _ => true) sheets
  examined : record.examScore = scored (fun sheet => sheet.categoryId = examination) sheets

@[simp] theorem nameSheet_sheet (db : AcademicDb) (sheet : ScoreSheet) :
    (nameSheet db sheet).sheet = sheet := rfl

theorem counted_studentScoreSheet {clause : Option (List String)} {subjectId : String}
    (hpasses : passes clause subjectId = true) :
    counted p subjectId ((orderedSheets env db).filter fun named =>
        sitting.holds studentId named.sheet
          && clause.all fun subjectIds => named.sheet.subjectId ∈ subjectIds)
      = scored (fun sheet => (nameSheet db sheet).countedKey.any p)
          (rawSheets sitting studentId subjectId db) := by
  rw [orderedSheets, counted_perm ((List.perm_insertionSort _ _).filter _), counted,
    List.filter_filter, List.filter_map, List.map_map, scored, rawSheets, List.filter_filter]
  refine congrArg (fun sheets : List ScoreSheet =>
    (sheets.map fun sheet => sheet.studentScore.getD 0).sum) (List.filter_congr fun sheet _ => ?_)
  rw [Function.comp_apply]
  by_cases hsubject : sheet.subjectId = subjectId
  · have hclause : (clause.all fun subjectIds => subjectId ∈ subjectIds) = true := hpasses
    simp [hsubject, hclause, Bool.and_comm]
  · simp [hsubject]

/-- The two scores of a record, by the keys of the sheets. -/
theorem record_scores {row : GeneratedResult} {record : SubjectRecord}
    (h : generatedRow env actorUserId studentId sitting db = .ok row)
    (hrecord : record ∈ row.studentSubjectRecords) :
    record.caScore = scored (fun sheet => (nameSheet db sheet).countedKey.any (· ≠ "examination"))
        (rawSheets sitting studentId record.subjectId db)
      ∧ record.examScore
        = scored (underExamination db) (rawSheets sitting studentId record.subjectId db) := by
  have hcall : generatedRow env (GenerateCall.mk actorUserId studentId).actorUserId
      (GenerateCall.mk actorUserId studentId).studentId sitting db = .ok row := h
  rw [(generatedRow_spec hcall).1, newRecords, subjectRecords] at hrecord
  obtain ⟨subject, hsubject, rfl⟩ := List.mem_map.1 hrecord
  have hshown := (mem_studentScoreSheet env).1 (List.mem_map_of_mem hsubject)
  obtain ⟨-, -, -, -, -, hpasses⟩ := hshown
  have hsums := (accounts_foldl db _).sums subject hsubject
  have hscores : ∀ p, subject.sumOf p = scored (fun sheet => (nameSheet db sheet).countedKey.any p)
      (rawSheets sitting studentId subject.subjectId db) :=
    fun p => (hsums p).trans (counted_studentScoreSheet hpasses)
  exact ⟨hscores (· ≠ "examination"), hscores (· = "examination")⟩

/-- **A record conserves and classifies the scores exactly when** those that count for nothing add
up to nothing, and those of the examination category under other names to as much as those of other
categories under its name. -/
theorem record_classified_iff (examination : String) {row : GeneratedResult}
    {record : SubjectRecord} (h : generatedRow env actorUserId studentId sitting db = .ok row)
    (hrecord : record ∈ row.studentSubjectRecords) :
    Classified examination (rawSheets sitting studentId record.subjectId db) record
      ↔ scored (lost db) (rawSheets sitting studentId record.subjectId db) = 0
        ∧ scored (fun sheet => sheet.categoryId = examination && !underExamination db sheet)
            (rawSheets sitting studentId record.subjectId db)
          = scored
            (fun sheet => !decide (sheet.categoryId = examination) && underExamination db sheet)
            (rawSheets sitting studentId record.subjectId db) := by
  obtain ⟨hca, hexam⟩ := record_scores h hrecord
  obtain ⟨sheets, hsheets⟩ : ∃ sheets, sheets = rawSheets sitting studentId record.subjectId db :=
    ⟨_, rfl⟩
  rw [← hsheets] at hca hexam ⊢
  have hall : scored (fun _ => true) sheets
      = record.caScore + record.examScore + scored (lost db) sheets := by
    rw [hca, hexam, scored_split _ (lost db), scored_split (fun sheet => true && !lost db sheet)
      (underExamination db)]
    have hkeys : ∀ sheet, (!lost db sheet && underExamination db sheet) = underExamination db sheet
        ∧ (!lost db sheet && !underExamination db sheet)
          = (nameSheet db sheet).countedKey.any (· ≠ "examination") := by
      intro sheet
      simp only [lost, underExamination]
      cases (nameSheet db sheet).countedKey <;> simp
    simp only [Bool.true_and, (hkeys _).1, (hkeys _).2]
    ring
  have hcategory := scored_split (fun sheet => decide (sheet.categoryId = examination))
    (underExamination db) sheets
  have hname := scored_split (underExamination db)
    (fun sheet => decide (sheet.categoryId = examination)) sheets
  simp only [Bool.and_comm (underExamination db _)] at hname
  rw [← hexam] at hname
  constructor
  · rintro ⟨hconserved, hexamined⟩
    exact ⟨by linarith only [hconserved, hall], by linarith only [hexamined, hcategory, hname]⟩
  rintro ⟨hlost, heven⟩
  exact ⟨by linarith only [hlost, hall], by linarith only [heven, hcategory, hname]⟩

/-! ## Examples -/

theorem mem_of_map_eq_singleton {α β : Type} {f : α → β} {l : List α} {b : β}
    (h : l.map f = [b]) : ∃ a ∈ l, f a = b :=
  List.mem_map.1 (h ▸ List.mem_cons_self)

/-- The category of the examination has the subcategory Theory. -/
def withTheory : AcademicDb :=
  { twoTeachers with
    subcategories := [ { id := "theory", categoryId := "exam", name := "Theory" } ]
    scoreSheets := twoTeachers.scoreSheets.map fun sheet =>
      { sheet with subcategoryId := some "theory" } }

theorem record_classified_plain :
    ∃ row record, generatedRow {} "ada" "student"
        { sessionId := "session", termId := "term", classId := "class" } twoTeachers = .ok row
      ∧ record ∈ row.studentSubjectRecords
      ∧ Classified "exam"
        (rawSheets { sessionId := "session", termId := "term", classId := "class" } "student"
          record.subjectId twoTeachers) record := by
  have hrecords : (generatedRow {} "ada" "student"
      { sessionId := "session", termId := "term", classId := "class" } twoTeachers).toOption.map
        (fun row => row.studentSubjectRecords.map (·.subjectId)) = some ["maths"] := by
    decide +kernel
  cases hrow : generatedRow {} "ada" "student"
      { sessionId := "session", termId := "term", classId := "class" } twoTeachers with
  | error e => rw [hrow] at hrecords; cases hrecords
  | ok row =>
    rw [hrow] at hrecords
    obtain ⟨record, hrecord, hsubject⟩ := mem_of_map_eq_singleton (Option.some.inj hrecords)
    refine ⟨row, record, rfl, hrecord, (record_classified_iff "exam" hrow hrecord).2 ?_⟩
    rw [hsubject]
    decide +kernel

/-- **The scores of a subcategory of the examination count as continuous assessment.** -/
theorem theory_not_examined :
    ¬ ∀ (env : AcademicEnv) (actorUserId studentId examination : String) (sitting : Sitting)
        (db : AcademicDb) (row : GeneratedResult), generatedRow env actorUserId studentId sitting db
          = .ok row → ∀ record ∈ row.studentSubjectRecords,
        Classified examination (rawSheets sitting studentId record.subjectId db) record := by
  intro h
  have hrecords : (generatedRow {} "ada" "student"
      { sessionId := "session", termId := "term", classId := "class" } withTheory).toOption.map
        (fun row => row.studentSubjectRecords.map fun record =>
          (record.subjectId, record.examScore)) = some [("maths", 0)] := by
    decide +kernel
  cases hrow : generatedRow {} "ada" "student"
      { sessionId := "session", termId := "term", classId := "class" } withTheory with
  | error e => rw [hrow] at hrecords; cases hrecords
  | ok row =>
    rw [hrow] at hrecords
    obtain ⟨record, hrecord, hscores⟩ := mem_of_map_eq_singleton (Option.some.inj hrecords)
    have hexamined := (h {} "ada" "student" "exam" _ withTheory row hrow record hrecord).examined
    rw [(Prod.mk.inj hscores).1, (Prod.mk.inj hscores).2] at hexamined
    revert hexamined
    decide +kernel

end MultiAcademy.School
