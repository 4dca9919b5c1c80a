import MultiAcademy.Lib.Ranking
import MultiAcademy.School.WardReads

/-!
# The ranking of a class

The term ranking lists the students of a class with their places, and a report card prints the
place of its student.  Each counts the students in front with a higher average, over the rows of a
query of its own; both read the column `full_name` of `users` besides.
-/

namespace MultiAcademy.School

open MultiAcademy.Lib

variable {δ : Type}

/-! ## The term ranking -/

/-- A row of the query of `rankClass`. -/
structure RankRow where
  studentId : Option String
  studentName : Option String
  subjectCount : ℕ
  averageScore : ℚ
  totalScore : ℚ

structure RankedStudent where
  position : ℕ
  studentId : Option String
  studentName : Option String
  subjectCount : ℕ
  averageScore : ℚ
  totalScore : ℚ
  deriving DecidableEq

def rankedStudents (classId termId : String) (db : AcademicDb) : List (Option String) :=
  ((rankedResults classId termId db).map fun row => row.2.studentId).dedup

def rankAverage (classId termId : String) (db : AcademicDb) (studentId : Option String) : ℚ :=
  averageScore (((rankedResults classId termId db).filter fun row =>
    row.2.studentId = studentId).map (·.2))

/-- `SELECT r.student_id, COALESCE(u.full_name, r.student_id), COUNT(r.id), AVG(r.total_score),
SUM(r.total_score) … GROUP BY r.student_id, u.full_name`. -/
def rankRows (fullName : String → Option String) (classId termId : String) (db : AcademicDb) :
    List RankRow :=
  (rankedStudents classId termId db).map fun studentId =>
    let results := ((rankedResults classId termId db).filter fun row =>
      row.2.studentId = studentId).map (·.2)
    { studentId
      studentName := ((studentId.bind (findUser · db)).bind fun user => fullName user.id).or studentId
      subjectCount := results.length
      averageScore := rankAverage classId termId db studentId
      totalScore := (results.filterMap (·.totalScore)).sum }

/-- `competitionPosition`, of what is read of each row: its `averageScore` or `avg`. -/
def competitionPosition (rows : List ℚ) (index : ℕ) : ℕ :=
  if index ≤ 0 then 1
  else
    let score := rows[index]?.getD 0
    ((rows.take index).countP fun row => score < row) + 1

def shownRanks (rows : List RankRow) : List RankedStudent :=
  rows.mapIdx fun i row =>
    { position := competitionPosition (rows.map (·.averageScore)) i
      studentId := row.studentId
      studentName := row.studentName
      subjectCount := row.subjectCount
      averageScore := roundCents row.averageScore
      totalScore := roundCents row.totalScore }

/-- `rankClass`; `order` is the `ORDER BY` of the database. -/
def rankClass (order : DescendingSort RankRow.averageScore) (classId termId : String)
    (s : SchoolReads δ) : Except AcademicError (List RankedStudent) := do
  assertEnabled s.flags.termRanking "academic.term_ranking"
  match s.fullName with
  | none => .error queryFailed
  | some fullName => return shownRanks (order.sort (rankRows fullName classId termId s.db))

/-! ## The place of a student -/

/-- The place of a student by competition ranking. -/
def placeOf (classId termId : String) (db : AcademicDb) (studentId : Option String) : ℕ :=
  competitionPlace (rankAverage classId termId db) (rankedStudents classId termId db)
    (rankAverage classId termId db studentId)

/-- **The position of a row among rows in descending order** is its place. -/
theorem competitionPosition_eq {rows : List ℚ} {index : ℕ}
    (hsorted : rows.Pairwise fun a b => b ≤ a) (hindex : index < rows.length) :
    competitionPosition rows index = competitionPlace id rows rows[index] := by
  have hfront : (rows.take index).countP (fun row => rows[index] < row)
      = rows.countP fun row => rows[index] < row :=
    @countP_take_of_descending ℚ ℚ _ id rows index hsorted hindex
  rw [competitionPosition]
  split
  next hfirst =>
    obtain rfl : index = 0 := Nat.le_zero.1 hfirst
    rw [List.take_zero, List.countP_nil] at hfront
    exact congrArg (· + 1) hfront
  next =>
    rw [List.getElem?_eq_getElem hindex, Option.getD_some]
    exact congrArg (· + 1) hfront

example : (List.range 3).map (competitionPosition [90, 90, 80]) = [1, 1, 3] := by decide

theorem termRanks_perm (classId termId : String) (db : AcademicDb) :
    (termRanks classId termId db).Perm
      (((rankedResults classId termId db).map fun row => row.2.studentId).dedup.map fun studentId =>
        (studentId, rankAverage classId termId db studentId)) :=
  List.perm_insertionSort _ _

theorem termRanks_keys (classId termId : String) (db : AcademicDb) :
    ((termRanks classId termId db).map (·.1)).Nodup
      ∧ (termRanks classId termId db).Pairwise fun a b => b.2 ≤ a.2 := by
  constructor
  · refine ((termRanks_perm classId termId db).map _).nodup_iff.2 ?_
    rw [List.map_map]
    exact (List.map_id _).symm ▸ List.nodup_dedup _
  · exact pairwise_insertionSort_descending Prod.snd _

section Positions
variable {ranks : List (Option String × ℚ)} {studentId classId termId : String} {db : AcademicDb}

/-- **The place of a student** is one more than the number of those above. -/
theorem positionIn_eq {total : ℚ}
    (hkeys : (ranks.map (·.1)).Nodup) (hsorted : ranks.Pairwise fun a b => b.2 ≤ a.2)
    (hmem : (some studentId, total) ∈ ranks) :
    positionIn ranks studentId = some ((ranks.countP fun rank => total < rank.2) + 1) := by
  obtain ⟨i, hi, hrank⟩ := List.mem_iff_getElem.1 hmem
  have hidx : ranks.findIdx? (fun rank => rank.1 = some studentId) = some i := by
    refine List.findIdx?_eq_some_iff_getElem.2 ⟨hi, by simp [hrank], fun j hji => ?_⟩
    have hne := List.pairwise_iff_getElem.1 (List.pairwise_map.1 hkeys) j i (hji.trans hi) hi hji
    simpa [hrank] using hne
  have hfront := countP_take_of_descending hsorted hi
  rw [hrank] at hfront
  rw [positionIn, hidx, Option.map_some, List.getElem?_eq_getElem hi, hrank]
  exact congrArg (fun n => some (n + 1)) hfront

theorem positionIn_eq_none
    (h : ∀ rank ∈ ranks, rank.1 ≠ some studentId) : positionIn ranks studentId = none := by
  rw [positionIn, List.findIdx?_eq_none_iff.2 (by simpa using h)]
  rfl

/-- The position on a report card is the place of the student, in whatever order the ranks of one
average come. -/
theorem positionIn_of_perm (hranks : ranks.Perm (termRanks classId termId db))
    (hsorted : ranks.Pairwise fun a b => b.2 ≤ a.2) :
    positionIn ranks studentId
      = if some studentId ∈ rankedStudents classId termId db
          then some (placeOf classId termId db (some studentId)) else none := by
  have hperm := hranks.trans (termRanks_perm classId termId db)
  split
  next hmem =>
    have hkeys : (ranks.map (·.1)).Nodup :=
      ((hranks.map _).nodup_iff).2 (termRanks_keys classId termId db).1
    have hrank : (some studentId, rankAverage classId termId db (some studentId)) ∈ ranks :=
      hperm.mem_iff.2 (List.mem_map.2 ⟨_, hmem, rfl⟩)
    rw [positionIn_eq hkeys hsorted hrank]
    refine congrArg some ?_
    calc competitionPlace Prod.snd ranks (rankAverage classId termId db (some studentId))
        = competitionPlace Prod.snd _ (rankAverage classId termId db (some studentId)) :=
          competitionPlace_perm hperm _
      _ = placeOf classId termId db (some studentId) := competitionPlace_map _ _ _
  next hmem =>
    refine positionIn_eq_none fun rank hrank heq => hmem ?_
    obtain ⟨id, hid, rfl⟩ := List.mem_map.1 (hperm.mem_iff.1 hrank)
    exact heq ▸ hid

end Positions

/-! ## The two rankings -/

/-- Every student is ranked once, at the place by competition ranking; and the report cards print
that position. -/
def RankingAgrees (order : DescendingSort RankRow.averageScore) (classId termId : String)
    (s : SchoolReads δ) : Prop :=
  ∃ students, rankClass order classId termId s = .ok students
    ∧ (students.map (·.studentId)).Perm (rankedStudents classId termId s.db)
    ∧ (∀ student ∈ students, student.position = placeOf classId termId s.db student.studentId)
    ∧ ∀ studentId, s.flags.reportCards = true → (findUser studentId s.db).isSome = true →
        cardClass s.env studentId termId s.db = some classId →
        ∃ card, getReportCard studentId termId s = .ok card
          ∧ card.position
            = (students.find? fun student => student.studentId = some studentId).map (·.position)

/-- A student is found in the ranking at the place of the student. -/
theorem find_position {students : List RankedStudent} {ids : List (Option String)}
    {place : Option String → ℕ} (hids : (students.map (·.studentId)).Perm ids)
    (hplace : ∀ student ∈ students, student.position = place student.studentId)
    (studentId : String) :
    (students.find? fun student => student.studentId = some studentId).map (·.position)
      = if some studentId ∈ ids then some (place (some studentId)) else none := by
  cases hfind : students.find? fun student => student.studentId = some studentId with
  | none =>
    have hnot : some studentId ∉ ids := by
      intro hmem
      obtain ⟨student, hstudent, heq⟩ := List.mem_map.1 (hids.mem_iff.2 hmem)
      exact List.find?_eq_none.1 hfind student hstudent (decide_eq_true heq)
    rw [if_neg hnot]
    rfl
  | some student =>
    have hstudent : student.studentId = some studentId :=
      of_decide_eq_true (List.find?_some (p := fun student : RankedStudent =>
        decide (student.studentId = some studentId)) hfind)
    have hmem := List.mem_of_find?_eq_some hfind
    rw [if_pos (hids.mem_iff.1 (hstudent ▸ List.mem_map_of_mem hmem)), Option.map_some,
      hplace student hmem, hstudent]

theorem shownRanks_studentId (rows : List RankRow) :
    (shownRanks rows).map (·.studentId) = rows.map (·.studentId) :=
  List.ext_getElem (by simp [shownRanks]) (by simp [shownRanks])

/-- A place in the term ranking. -/
theorem position_of_rankRows (order : DescendingSort RankRow.averageScore)
    {fullName : String → Option String} {classId termId : String} {db : AcademicDb} {i : ℕ}
    (hi : i < (order.sort (rankRows fullName classId termId db)).length) :
    competitionPosition ((order.sort (rankRows fullName classId termId db)).map (·.averageScore)) i
      = placeOf classId termId db (order.sort (rankRows fullName classId termId db))[i].studentId := by
  have hrow : ∀ row ∈ order.sort (rankRows fullName classId termId db),
      row.averageScore = rankAverage classId termId db row.studentId := by
    intro row hrow
    obtain ⟨studentId, -, rfl⟩ := List.mem_map.1 ((order.perm _).mem_iff.1 hrow)
    rfl
  rw [competitionPosition_eq (List.pairwise_map.2 (order.descending _))
    (by rwa [List.length_map]), List.getElem_map, hrow _ (List.getElem_mem hi),
    competitionPlace_map, competitionPlace_perm (order.perm _)]
  exact competitionPlace_map _ _ _

/-- **The two rankings are competition rankings and agree, exactly when `users` has the column
`full_name`**; without it neither is drawn up. -/
theorem ranking_agrees_iff (order : DescendingSort RankRow.averageScore)
    (classId termId : String) (s : SchoolReads δ) (hon : s.flags.termRanking = true) :
    RankingAgrees order classId termId s ↔ s.fullName.isSome = true := by
  cases hname : s.fullName with
  | none =>
    refine iff_of_false ?_ (by simp)
    rintro ⟨students, hrank, -⟩
    rw [rankClass, hon, hname] at hrank
    cases hrank
  | some fullName =>
    have hids : ((shownRanks (order.sort (rankRows fullName classId termId s.db))).map
        (·.studentId)).Perm (rankedStudents classId termId s.db) := by
      rw [shownRanks_studentId]
      refine ((order.perm _).map _).trans ?_
      rw [rankRows, List.map_map]
      exact List.Perm.of_eq (List.map_id _)
    have hplace : ∀ student ∈ shownRanks (order.sort (rankRows fullName classId termId s.db)),
        student.position = placeOf classId termId s.db student.studentId := by
      intro student hstudent
      obtain ⟨i, hi, rfl⟩ := List.mem_mapIdx.1 hstudent
      exact position_of_rankRows order hi
    refine iff_of_true ⟨_, ?_, hids, hplace, fun studentId hcards hfound hclass => ?_⟩ rfl
    · rw [rankClass, hon, hname]
      rfl
    obtain ⟨student, hstudent⟩ := Option.isSome_iff_exists.1 hfound
    refine ⟨_, by simp only [getReportCard, hcards, hname, hstudent]; rfl, ?_⟩
    rw [find_position hids hplace]
    simp only [hclass, hon, Option.filter_some, if_true, Option.map_some,
      Option.bind_some]
    exact positionIn_of_perm (List.Perm.refl _) (termRanks_keys classId termId s.db).2

/-- A class whose two students have the same average. -/
def tiedSchool (fullName : Option (String → Option String)) : SchoolReads Unit :=
  { tenantId := "school"
    fullName
    store :=
      { records :=
          { results := ["ann", "ben"].map fun studentId => some
              { studentId := some studentId, classId := "class", subjectId := "maths"
                termId := "term", caScore := none, examScore := none, totalScore := some 70
                grade := none, status := .approved } } }
    dashboard := fun _ => () }

theorem ranking_agrees_tied :
    RankingAgrees (.insertion RankRow.averageScore) "class" "term" (tiedSchool (some fun _ => none)) :=
  (ranking_agrees_iff _ "class" "term" (tiedSchool (some fun _ => none)) rfl).2 rfl

/-- **The tables of a school have no such column**, and the ranking of a class fails. -/
theorem ranking_not_drawn_up :
    ¬ ∀ (order : DescendingSort RankRow.averageScore) (classId termId : String)
        (s : SchoolReads Unit), s.flags.termRanking = true →
        RankingAgrees order classId termId s := by
  intro h
  obtain ⟨students, hrank, -⟩ := h (.insertion _) "class" "term" (tiedSchool none) rfl
  cases hrank

end MultiAcademy.School
