import MultiAcademy.Lib.Logistic

/-!
# Students at risk

`services/at_risk_ml.py`.  A student's averages, attendance and weak topics give a number, the
logistic curve makes a probability of it, and two thresholds a level.  A field that is zero counts
as missing, which makes an average of 0 one of 70 and an attendance of 0 full; a rate above 1 is
taken for a percentage where the field is spelled `attendanceRate`, and as it is where it is
spelled `attendance_rate`.

Numbers are exact.
-/

namespace MultiAcademy.Ai

open MultiAcademy.Lib

/-! ## The scorer -/

structure AtRiskFeatures where
  currentAvg : ℚ
  previousAvg : ℚ
  attendanceRate : ℚ
  weakTopicCount : ℕ

inductive RiskLevel
  | low
  | medium
  | high
  deriving DecidableEq

def RiskLevel.rank : RiskLevel → ℕ
  | low => 0
  | medium => 1
  | high => 2

instance : LinearOrder RiskLevel :=
  LinearOrder.lift' RiskLevel.rank fun a b h => by cases a <;> cases b <;> first | rfl | cases h

/-- The base of the exponential. -/
def eulerNumber : ℚ := 2718281828 / 10 ^ 9

def AtRiskFeatures.logit (features : AtRiskFeatures) : ℚ :=
  -(12 / 10) + 6 / 100 * max 0 (55 - features.currentAvg)
    + 5 / 100 * max 0 (features.previousAvg - features.currentAvg)
    + 18 / 10 * max 0 (85 / 100 - features.attendanceRate)
    + min features.weakTopicCount 5 * (8 / 100)

/-- `score`: the probability to three places, and the level. -/
def AtRiskMlScorer.score (features : AtRiskFeatures) : ℚ × RiskLevel :=
  (logisticRounded eulerNumber 1000 features.logit,
    if logisticReaches eulerNumber (75 / 100) features.logit || features.currentAvg < 40 then .high
    else if logisticReaches eulerNumber (45 / 100) features.logit then .medium
    else .low)

/-! ## Rows -/

/-- What `enrich_student` reads of a row; `none` is `None`, or a missing key. -/
structure StudentRow where
  currentAvg : Option ℚ := none
  current_avg : Option ℚ := none
  previousAvg : Option ℚ := none
  previous_avg : Option ℚ := none
  attendanceRate : Option ℚ := none
  attendance_rate : Option ℚ := none
  weakTopics : Option (List String) := none
  weak_topics : Option (List String) := none

/-- `a or b or default`, of numbers. -/
def numberOr (a b : Option ℚ) (default : ℚ) : ℚ :=
  ((a.filter (· ≠ 0)).or (b.filter (· ≠ 0))).getD default

def StudentRow.features (row : StudentRow) : AtRiskFeatures where
  currentAvg := numberOr row.currentAvg row.current_avg 70
  previousAvg := numberOr row.previousAvg row.previous_avg 70
  attendanceRate :=
    numberOr row.attendanceRate row.attendance_rate 1
      / if 1 < numberOr row.attendanceRate none 0 then 100 else 1
  weakTopicCount :=
    (((row.weakTopics.filter (· ≠ [])).or row.weak_topics).getD []).length

structure EnrichedRow extends StudentRow where
  mlRiskScore : ℚ
  mlRiskLevel : RiskLevel

def enrichStudent (row : StudentRow) : EnrichedRow :=
  { row with
    mlRiskScore := (AtRiskMlScorer.score row.features).1
    mlRiskLevel := (AtRiskMlScorer.score row.features).2 }

/-! ## The law -/

structure Student where
  currentAvg : Option ℚ := none
  previousAvg : Option ℚ := none
  attendanceRate : Option ℚ := none
  weakTopics : Option (List String) := none

inductive Spelling
  | camelCase
  | snakeCase
  deriving DecidableEq

/-- A value under the name in camelCase. -/
def Spelling.camel {α : Type} (spelling : Spelling) (value : Option α) : Option α :=
  match spelling with
  | camelCase => value
  | snakeCase => none

/-- A value under the name in snake_case. -/
def Spelling.snake {α : Type} (spelling : Spelling) (value : Option α) : Option α :=
  match spelling with
  | camelCase => none
  | snakeCase => value

structure Spellings where
  currentAvg : Spelling
  previousAvg : Spelling
  attendanceRate : Spelling
  weakTopics : Spelling

def Student.row (s : Student) (names : Spellings) : StudentRow where
  currentAvg := names.currentAvg.camel s.currentAvg
  current_avg := names.currentAvg.snake s.currentAvg
  previousAvg := names.previousAvg.camel s.previousAvg
  previous_avg := names.previousAvg.snake s.previousAvg
  attendanceRate := names.attendanceRate.camel s.attendanceRate
  attendance_rate := names.attendanceRate.snake s.attendanceRate
  weakTopics := names.weakTopics.camel s.weakTopics
  weak_topics := names.weakTopics.snake s.weakTopics

/-- The second is as high as the first or lower, down to and including 0; or both are missing. -/
def Lowered : Option ℚ → Option ℚ → Prop
  | none, none => True
  | some x, some y => 0 ≤ y ∧ y ≤ x
  | _, _ => False

/-- The second student is worse off, or as the first. -/
structure Worse (s s' : Student) : Prop where
  currentAvg : Lowered s.currentAvg s'.currentAvg
  attendanceRate : Lowered s.attendanceRate s'.attendanceRate
  previousAvg : s'.previousAvg = s.previousAvg
  weakTopics : (s.weakTopics.getD []).length ≤ (s'.weakTopics.getD []).length

/-- A student with one of these averages, and one of these rates, if any. -/
structure Among (averages rates : Set ℚ) (s : Student) : Prop where
  average : ∀ c ∈ s.currentAvg, c ∈ averages
  rate : ∀ a ∈ s.attendanceRate, a ∈ rates

/-- **Risk grows with trouble**, among the rows with these averages and rates. -/
structure RiskGrows (averages rates : Set ℚ) : Prop where
  level_le : ∀ s s', Among averages rates s → Among averages rates s' → Worse s s' →
    ∀ names, (enrichStudent (s.row names)).mlRiskLevel
      ≤ (enrichStudent (s'.row names)).mlRiskLevel
  spelling : ∀ s, Among averages rates s →
    ∀ names names', (enrichStudent (s.row names)).mlRiskLevel
      = (enrichStudent (s.row names')).mlRiskLevel

/-- An average of 0 meets no other below 70, a rate of 0 meets no other below 0.85, and no rate
lies between 1 and 85. -/
structure ReadAsMeant (averages rates : Set ℚ) : Prop where
  average : 0 ∈ averages → ∀ c ∈ averages, ¬(0 < c ∧ c < 70)
  rate : 0 ∈ rates → ∀ a ∈ rates, ¬(0 < a ∧ a < 85 / 100)
  unit : ∀ a ∈ rates, ¬(1 < a ∧ a < 85)

/-! ## What is read -/

section Reading

/-- A figure as it is read: 0 counts as missing. -/
def figure (default : ℚ) (value : Option ℚ) : ℚ := (value.filter (· ≠ 0)).getD default

@[simp] theorem figure_none (default : ℚ) : figure default none = default := rfl

theorem figure_some {default x : ℚ} (h : x ≠ 0) : figure default (some x) = x := by
  simp [figure, Option.filter, h]

@[simp] theorem figure_zero (default : ℚ) : figure default (some 0) = default := by
  simp [figure, Option.filter]

variable (spelling : Spelling)

def readRate (rate : Option ℚ) : ℚ :=
  figure 1 rate / if spelling = .camelCase ∧ 1 < figure 0 rate then 100 else 1

theorem numberOr_spelled (value : Option ℚ) (default : ℚ) :
    numberOr (spelling.camel value) (spelling.snake value) default = figure default value := by
  cases spelling with
  | camelCase => simp [numberOr, Spelling.camel, Spelling.snake, figure]
  | snakeCase => simp [numberOr, Spelling.camel, Spelling.snake, figure]

theorem features_row (s : Student) (names : Spellings) :
    (s.row names).features
      = { currentAvg := figure 70 s.currentAvg
          previousAvg := figure 70 s.previousAvg
          attendanceRate := readRate names.attendanceRate s.attendanceRate
          weakTopicCount := (s.weakTopics.getD []).length } := by
  have hunit : numberOr (names.attendanceRate.camel s.attendanceRate) none 0
      = if names.attendanceRate = .camelCase then figure 0 s.attendanceRate else 0 := by
    cases names.attendanceRate <;> simp [numberOr, Spelling.camel, figure]
  have htopics : (((names.weakTopics.camel s.weakTopics).filter (· ≠ [])).or
      (names.weakTopics.snake s.weakTopics)).getD [] = s.weakTopics.getD [] := by
    cases names.weakTopics with
    | camelCase =>
      cases hs : s.weakTopics with
      | none => rfl
      | some topics => by_cases h : topics = [] <;>
            simp [Spelling.camel, Spelling.snake, Option.filter, h]
    | snakeCase => simp [Spelling.camel, Spelling.snake]
  simp only [StudentRow.features, Student.row, numberOr_spelled, hunit, htopics, readRate]
  cases names.attendanceRate with
  | camelCase => simp
  | snakeCase => simp [not_lt.2 (zero_le_one : (0 : ℚ) ≤ 1)]

theorem readRate_some {spelling : Spelling} {a : ℚ} (h : a ≠ 0) :
    readRate spelling (some a) = a / if spelling = .camelCase ∧ 1 < a then 100 else 1 := by
  rw [readRate, figure_some h, figure_some h]

/-- How far the attendance that is read falls short. -/
def gap (rate : Option ℚ) : ℚ := max 0 (85 / 100 - readRate spelling rate)

@[simp] theorem gap_none : gap spelling none = 0 := by
  norm_num [gap, readRate]

@[simp] theorem gap_zero : gap spelling (some 0) = 0 := by
  norm_num [gap, readRate]

theorem gap_snake {a : ℚ} (h : a ≠ 0) : gap .snakeCase (some a) = max 0 (85 / 100 - a) := by
  simp [gap, readRate_some h]

/-- Where no rate lies between 1 and 85, the spelling makes no difference. -/
theorem gap_eq {spelling : Spelling} {rate : Option ℚ} (h : ∀ a ∈ rate, ¬(1 < a ∧ a < 85)) :
    gap spelling rate = gap .snakeCase rate := by
  cases rate with
  | none => rw [gap_none, gap_none]
  | some a =>
    by_cases hzero : a = 0
    · rw [hzero, gap_zero, gap_zero]
    cases spelling with
    | snakeCase => rfl
    | camelCase =>
      rw [gap_snake hzero, gap, readRate_some hzero]
      by_cases hone : 1 < a
      · have hhigh : 85 ≤ a := not_lt.1 fun hlt => h a rfl ⟨hone, hlt⟩
        rw [if_pos ⟨rfl, hone⟩, max_eq_left (by linarith), max_eq_left (by linarith)]
      · simp [hone]

end Reading

/-! ## The level of a row -/

section Level
variable {averages rates : Set ℚ}

/-- The level of a number, where the average is not very low. -/
def levelAt (logit : ℚ) : RiskLevel :=
  if logisticReaches eulerNumber (75 / 100) logit then .high
  else if logisticReaches eulerNumber (45 / 100) logit then .medium
  else .low

theorem eulerNumber_gt : 1 < eulerNumber := by norm_num [eulerNumber]

theorem le_high (level : RiskLevel) : level ≤ .high := by
  cases level <;> decide

theorem levelAt_mono {x y : ℚ} (h : x ≤ y) : levelAt x ≤ levelAt y := by
  have hhigh := logisticReaches_mono (t := 75 / 100) eulerNumber_gt (by norm_num) (by norm_num) h
  have hmedium :=
    logisticReaches_mono (t := 45 / 100) eulerNumber_gt (by norm_num) (by norm_num) h
  rw [levelAt, levelAt]
  by_cases hx : logisticReaches eulerNumber (75 / 100) x = true
  · rw [if_pos hx, if_pos (hhigh hx)]
  rw [if_neg hx]
  by_cases hy : logisticReaches eulerNumber (75 / 100) y = true
  · rw [if_pos hy]
    split_ifs <;> decide
  rw [if_neg hy]
  by_cases hx' : logisticReaches eulerNumber (45 / 100) x = true
  · rw [if_pos hx', if_pos (hmedium hx')]
  rw [if_neg hx']
  split_ifs <;> decide

/-- The number of a student, as its row is read. -/
def studentLogit (s : Student) (spelling : Spelling) : ℚ :=
  -(12 / 10) + 6 / 100 * max 0 (55 - figure 70 s.currentAvg)
    + 5 / 100 * max 0 (figure 70 s.previousAvg - figure 70 s.currentAvg)
    + 18 / 10 * gap spelling s.attendanceRate
    + min ((s.weakTopics.getD []).length : ℚ) 5 * (8 / 100)

theorem mlRiskLevel_row (s : Student) (names : Spellings) :
    (enrichStudent (s.row names)).mlRiskLevel
      = if figure 70 s.currentAvg < 40 then .high
        else levelAt (studentLogit s names.attendanceRate) := by
  have hlogit : (s.row names).features.logit = studentLogit s names.attendanceRate := by
    rw [features_row, AtRiskFeatures.logit, studentLogit, gap]
    push_cast
    rfl
  rw [enrichStudent, AtRiskMlScorer.score, hlogit, levelAt, features_row]
  by_cases h : figure 70 s.currentAvg < 40 <;> simp [h]

/-- Where what is read is no higher, the level is no lower. -/
theorem mlRiskLevel_le {s s' : Student} {names names' : Spellings}
    (haverage : figure 70 s'.currentAvg ≤ figure 70 s.currentAvg)
    (hprevious : s'.previousAvg = s.previousAvg)
    (hgap : gap names.attendanceRate s.attendanceRate
      ≤ gap names'.attendanceRate s'.attendanceRate)
    (htopics : (s.weakTopics.getD []).length ≤ (s'.weakTopics.getD []).length) :
    (enrichStudent (s.row names)).mlRiskLevel
      ≤ (enrichStudent (s'.row names')).mlRiskLevel := by
  have hlogit : studentLogit s names.attendanceRate ≤ studentLogit s' names'.attendanceRate := by
    have htopics' : ((s.weakTopics.getD []).length : ℚ) ≤ (s'.weakTopics.getD []).length := by
      exact_mod_cast htopics
    rw [studentLogit, studentLogit, hprevious]
    gcongr
  rw [mlRiskLevel_row, mlRiskLevel_row]
  by_cases h' : figure 70 s'.currentAvg < 40
  · rw [if_pos h']
    split_ifs
    · exact le_rfl
    · exact le_high _
  rw [if_neg h', if_neg fun h => h' (haverage.trans_lt h)]
  exact levelAt_mono hlogit

/-- A lower average is read as no higher. -/
theorem figure_le_of_lowered (h : ReadAsMeant averages rates) {s s' : Student}
    (hs : Among averages rates s) (hs' : Among averages rates s')
    (hlow : Lowered s.currentAvg s'.currentAvg) :
    figure 70 s'.currentAvg ≤ figure 70 s.currentAvg := by
  rcases hc : s.currentAvg with _ | x <;> rcases hc' : s'.currentAvg with _ | y
  · exact le_rfl
  · rw [hc, hc'] at hlow
    exact hlow.elim
  · rw [hc, hc'] at hlow
    exact hlow.elim
  rw [hc, hc'] at hlow
  obtain ⟨hy, hxy⟩ := hlow
  by_cases hx0 : x = 0
  · rw [hx0] at hxy ⊢
    rw [le_antisymm hxy hy]
  rw [figure_some hx0]
  by_cases hy0 : y = 0
  · -- read as 70: the first is no lower
    rw [hy0] at hc' hxy ⊢
    rw [figure_zero]
    have hpos : 0 < x := lt_of_le_of_ne hxy (Ne.symm hx0)
    exact not_lt.1 fun hlt => h.average (hs'.average 0 hc') x (hs.average x hc) ⟨hpos, hlt⟩
  rw [figure_some hy0]
  exact hxy

/-- A lower rate is read as falling no less short. -/
theorem gap_le_of_lowered (h : ReadAsMeant averages rates) {s s' : Student}
    (hs : Among averages rates s) (hs' : Among averages rates s')
    (hlow : Lowered s.attendanceRate s'.attendanceRate) :
    gap .snakeCase s.attendanceRate ≤ gap .snakeCase s'.attendanceRate := by
  rcases ha : s.attendanceRate with _ | x <;> rcases ha' : s'.attendanceRate with _ | y
  · exact le_rfl
  · rw [ha, ha'] at hlow
    exact hlow.elim
  · rw [ha, ha'] at hlow
    exact hlow.elim
  rw [ha, ha'] at hlow
  obtain ⟨hy, hxy⟩ := hlow
  by_cases hx0 : x = 0
  · rw [hx0] at hxy ⊢
    rw [le_antisymm hxy hy]
  rw [gap_snake hx0]
  by_cases hy0 : y = 0
  · -- read as full: the first falls short of nothing
    rw [hy0] at ha' hxy ⊢
    rw [gap_zero]
    have hpos : 0 < x := lt_of_le_of_ne hxy (Ne.symm hx0)
    have hfull : 85 / 100 ≤ x :=
      not_lt.1 fun hlt => h.rate (hs'.rate 0 ha') x (hs.rate x ha) ⟨hpos, hlt⟩
    exact (max_eq_left (by linarith)).le
  rw [gap_snake hy0]
  exact max_le_max le_rfl (by linarith)

theorem risk_grows_of_readAsMeant (h : ReadAsMeant averages rates) :
    RiskGrows averages rates := by
  have hgap : ∀ {s}, Among averages rates s → ∀ spelling,
      gap spelling s.attendanceRate = gap .snakeCase s.attendanceRate := fun hs spelling =>
    gap_eq fun a ha => h.unit a (hs.rate a ha)
  refine ⟨fun s s' hs hs' hworse names => ?_, fun s hs names names' => ?_⟩
  · refine mlRiskLevel_le (figure_le_of_lowered h hs hs' hworse.currentAvg) hworse.previousAvg ?_
      hworse.weakTopics
    rw [hgap hs, hgap hs']
    exact gap_le_of_lowered h hs hs' hworse.attendanceRate
  have heq : gap names.attendanceRate s.attendanceRate
      = gap names'.attendanceRate s.attendanceRate :=
    (hgap hs _).trans (hgap hs _).symm
  exact le_antisymm (mlRiskLevel_le le_rfl rfl heq.le le_rfl)
    (mlRiskLevel_le le_rfl rfl heq.ge le_rfl)

/-- A student of whom no more is known than these. -/
def bare (average rate : Option ℚ) (previous : ℚ) : Student :=
  { currentAvg := average, previousAvg := some previous, attendanceRate := rate }

theorem studentLogit_bare {average rate : Option ℚ} {spelling : Spelling} {d : ℚ} (hd : 0 ≤ d)
    (haverage : figure 70 average = 70) (hgap : gap spelling rate = 0) :
    studentLogit (bare average rate (70 + 20 * d)) spelling = -(12 / 10) + d := by
  have hprevious : figure 70 (some (70 + 20 * d)) = 70 + 20 * d := figure_some (by positivity)
  rw [studentLogit, bare, hprevious, haverage, hgap, max_eq_left (by norm_num),
    max_eq_right (by linarith)]
  simp
  ring

theorem le_studentLogit_bare {average rate : Option ℚ} {spelling : Spelling} {d : ℚ} (hd : 0 ≤ d)
    (haverage : figure 70 average ≤ 70) :
    -(12 / 10) + 5 / 100 * (70 - figure 70 average) + 18 / 10 * gap spelling rate + d
      ≤ studentLogit (bare average rate (70 + 20 * d)) spelling := by
  have hprevious : figure 70 (some (70 + 20 * d)) = 70 + 20 * d := figure_some (by positivity)
  have hdelta : max 0 (70 + 20 * d - figure 70 average) = 70 + 20 * d - figure 70 average :=
    max_eq_right (by linarith)
  have hbelow : 0 ≤ max 0 (55 - figure 70 average) := le_max_left _ _
  rw [studentLogit, bare, hprevious, hdelta]
  simp only [Option.getD_none, List.length_nil, Nat.cast_zero]
  rw [min_eq_left (by norm_num)]
  linarith

theorem not_reaches_base : logisticReaches eulerNumber (75 / 100) (-(12 / 10)) = false := by
  decide +kernel

/-- What raises the number at all decides a level for some previous average. -/
theorem exists_higher (average rate average' rate' : Option ℚ) (names names' : Spellings)
    (haverage : figure 70 average ≤ 70)
    (hraised : figure 70 average < 70 ∨ 0 < gap names.attendanceRate rate)
    (haverage' : figure 70 average' = 70) (hgap' : gap names'.attendanceRate rate' = 0) :
    ∃ previous, (enrichStudent ((bare average rate previous).row names)).mlRiskLevel = .high
      ∧ (enrichStudent ((bare average' rate' previous).row names')).mlRiskLevel ≠ .high := by
  set y := -(12 / 10) + 5 / 100 * (70 - figure 70 average)
    + 18 / 10 * gap names.attendanceRate rate with hy
  have hgap : 0 ≤ gap names.attendanceRate rate := le_max_left _ _
  have hlt : -(12 / 10) < y := by
    rcases hraised with h | h <;> rw [hy] <;> linarith
  obtain ⟨d, hd, hlow, hhigh⟩ := exists_logisticReaches_apart eulerNumber_gt (by norm_num)
    (by norm_num) hlt not_reaches_base
  refine ⟨70 + 20 * d, ?_, ?_⟩
  · rw [mlRiskLevel_row]
    split_ifs
    · rfl
    exact if_pos (logisticReaches_mono eulerNumber_gt (by norm_num) (by norm_num)
      (le_studentLogit_bare hd haverage) hhigh)
  have hnot : ¬figure 70 (bare average' rate' (70 + 20 * d)).currentAvg < 40 := by
    rw [bare, haverage']
    norm_num
  rw [mlRiskLevel_row, if_neg hnot, studentLogit_bare hd haverage' hgap', levelAt, hlow]
  simp only [Bool.false_eq_true, if_false]
  split_ifs <;> decide

/-- Every field in camelCase, but the attendance as given. -/
def spelled (rate : Spelling) : Spellings := ⟨.camelCase, .camelCase, rate, .camelCase⟩

theorem readAsMeant_of_riskGrows (h : RiskGrows averages rates) : ReadAsMeant averages rates := by
  have hnone : figure 70 none ≤ 70 := le_rfl
  constructor
  · rintro hzero c hc ⟨hpos, hlt⟩
    have hread : figure 70 (some c) = c := figure_some hpos.ne'
    obtain ⟨previous, hhigh, hlow⟩ := exists_higher (some c) none (some 0) none
      (spelled .snakeCase) (spelled .snakeCase) (hread.trans_le hlt.le)
      (Or.inl (hread.trans_lt hlt)) (figure_zero 70) (gap_none _)
    have hle := h.level_le (bare (some c) none previous) (bare (some 0) none previous)
      ⟨by simpa [bare] using hc, by simp [bare]⟩ ⟨by simpa [bare] using hzero, by simp [bare]⟩
      ⟨⟨le_rfl, hpos.le⟩, trivial, rfl, le_rfl⟩ (spelled .snakeCase)
    rw [hhigh] at hle
    exact hlow (le_antisymm (le_high _) hle)
  · rintro hzero a ha ⟨hpos, hlt⟩
    have hgap : 0 < gap .snakeCase (some a) := by
      rw [gap_snake hpos.ne']
      exact lt_max_of_lt_right (by linarith)
    obtain ⟨previous, hhigh, hlow⟩ := exists_higher none (some a) none (some 0)
      (spelled .snakeCase) (spelled .snakeCase) hnone (Or.inr hgap) rfl (gap_zero _)
    have hle := h.level_le (bare none (some a) previous) (bare none (some 0) previous)
      ⟨by simp [bare], by simpa [bare] using ha⟩ ⟨by simp [bare], by simpa [bare] using hzero⟩
      ⟨trivial, ⟨le_rfl, hpos.le⟩, rfl, le_rfl⟩ (spelled .snakeCase)
    rw [hhigh] at hle
    exact hlow (le_antisymm (le_high _) hle)
  -- a percentage, divided in one spelling only
  rintro a ha ⟨hone, hlt⟩
  have hne : a ≠ 0 := by linarith
  have hgap : 0 < gap .camelCase (some a) := by
    rw [gap, readRate_some hne, if_pos ⟨rfl, hone⟩]
    exact lt_max_of_lt_right (by linarith)
  have hgap' : gap .snakeCase (some a) = 0 := by
    rw [gap_snake hne]
    exact max_eq_left (by linarith)
  obtain ⟨previous, hhigh, hlow⟩ := exists_higher none (some a) none (some a)
    (spelled .camelCase) (spelled .snakeCase) hnone (Or.inr hgap) rfl hgap'
  have heq := h.spelling (bare none (some a) previous)
    ⟨by simp [bare], by simpa [bare] using ha⟩ (spelled .camelCase) (spelled .snakeCase)
  exact hlow (heq.symm.trans hhigh)

/-- **Risk grows with trouble exactly when the averages and rates are read as they are meant**:
no figure that is 0 is next to one it is taken to exceed, and no rate is a percentage below 85. -/
theorem risk_grows_iff (averages rates : Set ℚ) :
    RiskGrows averages rates ↔ ReadAsMeant averages rates :=
  ⟨readAsMeant_of_riskGrows, risk_grows_of_readAsMeant⟩

/-- A student whose average falls from 20 to 0 is no longer at risk. -/
theorem average_of_zero_is_low :
    (enrichStudent { currentAvg := some 20 }).mlRiskLevel = .high
      ∧ (enrichStudent { currentAvg := some 0 }).mlRiskLevel = .low
      ∧ ¬RiskGrows Set.univ Set.univ := by
  refine ⟨by decide +kernel, by decide +kernel, fun h => ?_⟩
  exact (readAsMeant_of_riskGrows h).average trivial 20 trivial ⟨by norm_num, by norm_num⟩

end Level

end MultiAcademy.Ai
