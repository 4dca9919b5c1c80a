import MultiAcademy.Lib.Rounding
import MultiAcademy.Tutor.Quizzes

/-!
# Mastery of a topic

`services/mastery.py`.  A quiz counts an attempt and sets the percentage to the share of the right
ones; a signal of marks sets it, or takes its mean with the one that is there; a weak topic caps
it.  A quiz keeps its result within 0 and 100.  A signal does not, and nothing bounds the score
that the API accepts.

The signals of a request are applied in one session that does not flush, so a row it adds is not
found by the signals after it.  Calls are one after another; the evidence of a row is left out.
-/

namespace MultiAcademy.Tutor

open MultiAcademy.Lib MultiAcademy.Control

/-! ## Rows and signals -/

/-- A row of `ai_topic_mastery`. -/
structure MasteryRow extends TopicMastery where
  masteryPct : ℤ
  deriving DecidableEq

def MasteryRow.key (row : MasteryRow) : String × String × String := row.toTopicMastery.key

/-- `query(..).filter(..).one_or_none()`, which fails on two rows. -/
def oneOrNone (key : String × String × String) (rows : List MasteryRow) :
    Option (Option MasteryRow) :=
  match rows.filter fun row => row.key = key with
  | [] => some none
  | [row] => some (some row)
  | _ => none

def writeRow (key : String × String × String) (f : MasteryRow → MasteryRow)
    (rows : List MasteryRow) : List MasteryRow :=
  rows.map fun row => if row.key = key then f row else row

structure StudentSignal where
  source : String
  topic : Option String := none
  score : Option Float64 := none
  maxScore : Option Float64 := none

structure StudentSignals where
  studentId : String
  weakTopics : List String := []
  signals : List StudentSignal := []

def StudentSignal.counted (sig : StudentSignal) : Option String :=
  if sig.source ∈ ["cbt", "academic_results"] then sig.topic.filter (· ≠ "") else none

def StudentSignal.scored (sig : StudentSignal) : Option (Float64 × Float64) := do
  let score ← sig.score
  let maxScore ← sig.maxScore.filter Float64.positive
  return (score, maxScore)

/-- The rows that a session has found, as it has changed them, and those it adds. -/
structure MasterySession where
  found : List MasteryRow
  added : List MasteryRow := []

def MasterySession.rows (s : MasterySession) : List MasteryRow := s.found ++ s.added

namespace MasteryService

section Calls
variable (floats : FloatRules) (texts : TextRules)

/-- `record_quiz_result`; `fault` is a commit that fails. -/
def recordQuizResult (tenantId studentId : String) (subjectId : Option String) (topic : String)
    (correct fault : Bool) (rows : List MasteryRow) : List MasteryRow :=
  let key := (tenantId, studentId, topicKey texts topic subjectId)
  let one := if correct then 1 else 0
  if fault then rows
  else match oneOrNone key rows with
    | none => rows
    | some none =>
      rows ++ [
        { tenantId, studentId, subjectId, topicKey := key.2.2
          masteryPct := if correct then 100 else 25
          attemptCount := 1, correctCount := one }]
    | some (some row) =>
      let correctCount := row.correctCount + one
      let attemptCount := row.attemptCount + 1
      match floats.percent (.finite correctCount) (.finite attemptCount) with
      | none => rows
      | some share =>
        writeRow key (fun row =>
          { row with
            attemptCount, correctCount
            masteryPct := min 100 (max 0 (roundHalfEven share)) }) rows

/-- `pct` of `_apply_signal`; `round` fails on what is no finite number. -/
def pct (sig : StudentSignal) : Option (Option ℤ) :=
  match sig.scored with
  | none => some none
  | some (score, maxScore) =>
    (floats.percent score maxScore).map fun share => some (roundHalfEven share)

/-- `_apply_signal`; `none` is a failure. -/
def applySignal (tenantId studentId : String) (sig : StudentSignal) (s : MasterySession) :
    Option MasterySession :=
  match sig.counted with
  | none => some s
  | some topic => do
    let key := (tenantId, studentId, topicKey texts topic none)
    let pct ← pct floats sig
    match ← oneOrNone key s.found, pct with
    | none, pct =>
      return { s with
        added := s.added ++ [
          { tenantId, studentId, subjectId := none, topicKey := key.2.2
            masteryPct := pct.getD 40
            attemptCount := 1
            correctCount := if pct.any fun pct => 70 ≤ pct then 1 else 0 }] }
    | some row, some pct => do
      let mean ← floats.near ((row.masteryPct + pct : ℤ) / 2)
      let blended := roundHalfEven mean
      return { s with
        found := writeRow key (fun row => { row with masteryPct := blended }) s.found }
    | some _, none => return s

def ensureWeakTopic (tenantId studentId topic : String) (s : MasterySession) :
    Option MasterySession := do
  let key := (tenantId, studentId, topicKey texts topic none)
  match ← oneOrNone key s.found with
  | none =>
    return { s with
      added := s.added ++ [
        { tenantId, studentId, subjectId := none, topicKey := key.2.2
          masteryPct := 35, attemptCount := 0, correctCount := 0 }] }
  | some row =>
    if 50 < row.masteryPct then
      return { s with found := writeRow key (fun row => { row with masteryPct := 50 }) s.found }
    else return s

end Calls

end MasteryService

/-- What a request tells of a student, one by one. -/
inductive TopicUpdate
  | signal (sig : StudentSignal)
  | weakTopic (topic : String)

def StudentSignals.updates (signals : StudentSignals) : List TopicUpdate :=
  signals.signals.map .signal ++ signals.weakTopics.map .weakTopic

def applyUpdate (floats : FloatRules) (texts : TextRules) (tenantId studentId : String)
    (s : MasterySession) : TopicUpdate → Option MasterySession
  | .signal sig => MasteryService.applySignal floats texts tenantId studentId sig s
  | .weakTopic topic => MasteryService.ensureWeakTopic texts tenantId studentId topic s

/-- An update in a session that may have failed. -/
def sessionStep (floats : FloatRules) (texts : TextRules) (tenantId studentId : String)
    (update : TopicUpdate) (s : Option MasterySession) : Option MasterySession :=
  s.bind fun s => applyUpdate floats texts tenantId studentId s update

/-- `rollup_from_signals`: all are committed, or none. -/
def MasteryService.rollupFromSignals (floats : FloatRules) (texts : TextRules) (tenantId : String)
    (signals : Option StudentSignals) (fault : Bool) (rows : List MasteryRow) : List MasteryRow :=
  match signals with
  | none => rows
  | some signals =>
    match run (sessionStep floats texts tenantId signals.studentId) (some { found := rows })
      signals.updates with
    | none => rows
    | some s => if fault then rows else s.rows

/-! ## Runs -/

inductive MasteryEvent
  | quiz (tenantId studentId : String) (subjectId : Option String) (topic : String)
    (correct fault : Bool)
  | signals (tenantId : String) (signals : Option StudentSignals) (fault : Bool)

/-- One call. -/
def masteryStep (floats : FloatRules) (texts : TextRules) :
    MasteryEvent → List MasteryRow → List MasteryRow
  | .quiz tenantId studentId subjectId topic correct fault =>
    MasteryService.recordQuizResult floats texts tenantId studentId subjectId topic correct fault
  | .signals tenantId signals fault =>
    MasteryService.rollupFromSignals floats texts tenantId signals fault

/-- **A percentage.**  The mastery is between 0 and 100, and no more answers are right than there
are attempts. -/
structure Percentage (row : MasteryRow) : Prop where
  low : 0 ≤ row.masteryPct
  high : row.masteryPct ≤ 100
  counts : row.correctCount ≤ row.attemptCount

instance (row : MasteryRow) : Decidable (Percentage row) :=
  decidable_of_iff (0 ≤ row.masteryPct ∧ row.masteryPct ≤ 100 ∧
      row.correctCount ≤ row.attemptCount)
    ⟨fun h => ⟨h.1, h.2.1, h.2.2⟩, fun h => ⟨h.low, h.high, h.counts⟩⟩

/-- What a share of the marks does to the rows of a topic. -/
def ShareInRange (share : ℚ) : Option (Option MasteryRow) → Prop
  | none => True
  | some none => -(1 / 2) ≤ share ∧ share ≤ 201 / 2
  | some (some row) =>
    -1 ≤ row.masteryPct + roundHalfEven share ∧ row.masteryPct + roundHalfEven share ≤ 201

/-- A signal with marks brings a share of them that a new row may have, or whose sum with the
mastery that is there is that of two percentages, up to rounding. -/
def InRange (floats : FloatRules) (texts : TextRules) (tenantId studentId : String)
    (s : MasterySession) : TopicUpdate → Prop
  | .weakTopic _ => True
  | .signal sig =>
    ∀ topic ∈ sig.counted, ∀ marks ∈ sig.scored, ∀ share ∈ floats.percent marks.1 marks.2,
      ShareInRange share (oneOrNone (tenantId, studentId, topicKey texts topic none) s.found)

instance (share : ℚ) (one : Option (Option MasteryRow)) : Decidable (ShareInRange share one) := by
  unfold ShareInRange
  split <;> infer_instance

instance (floats : FloatRules) (texts : TextRules) (tenantId studentId : String)
    (s : MasterySession) (update : TopicUpdate) :
    Decidable (InRange floats texts tenantId studentId s update) := by
  unfold InRange
  split <;> infer_instance

def SignalsInRange (floats : FloatRules) (texts : TextRules) (rows : List MasteryRow) :
    MasteryEvent → Prop
  | .quiz .. => True
  | .signals tenantId signals _ =>
    ∀ known ∈ signals, Along (sessionStep floats texts tenantId known.studentId)
      (fun session update => ∀ s ∈ session, InRange floats texts tenantId known.studentId s update)
      (some { found := rows }) known.updates

/-! ## What an update keeps -/

section Kept
variable {floats : FloatRules} {texts : TextRules} {tenantId studentId : String}
  {key : String × String × String} {rows : List MasteryRow} {row : MasteryRow}

theorem mem_of_oneOrNone (h : oneOrNone key rows = some (some row)) :
    row ∈ rows ∧ row.key = key ∧ ∀ r ∈ rows, r.key = key → r = row := by
  unfold oneOrNone at h
  split at h
  · cases h
  · rename_i only hrows
    cases h
    have hmem : ∀ r, r ∈ rows ∧ r.key = key ↔ r = row := by
      intro r
      have hfilter : r ∈ rows.filter (fun row => row.key = key) ↔ r = row := by
        rw [hrows, List.mem_singleton]
      rwa [List.mem_filter, decide_eq_true_iff] at hfilter
    exact ⟨((hmem row).2 rfl).1, ((hmem row).2 rfl).2, fun r hr hkey => (hmem r).1 ⟨hr, hkey⟩⟩
  · cases h

/-- The one row of a key is written, and the others stay. -/
theorem forall_writeRow_iff (h : oneOrNone key rows = some (some row))
    (hrows : ∀ r ∈ rows, Percentage r) (f : MasteryRow → MasteryRow) :
    (∀ r ∈ writeRow key f rows, Percentage r) ↔ Percentage (f row) := by
  obtain ⟨hmem, hkey, hone⟩ := mem_of_oneOrNone h
  simp only [writeRow, List.forall_mem_map]
  constructor
  · intro hall
    have hwritten := hall row hmem
    rwa [if_pos hkey] at hwritten
  intro hrow r hr
  split
  · rename_i hr'
    rwa [hone r hr hr']
  · exact hrows r hr

theorem percentage_of_share_iff {share : ℚ} :
    0 ≤ roundHalfEven share ∧ roundHalfEven share ≤ 100
      ↔ -(1 / 2) ≤ share ∧ share ≤ 201 / 2 := by
  rw [le_roundHalfEven_iff (by norm_num), roundHalfEven_le_iff (by norm_num)]
  norm_num

/-- A mean is a percentage when the sum is that of two, up to rounding. -/
theorem percentage_of_mean_iff {n : ℤ} {mean : ℚ} (h : floats.near ((n : ℚ) / 2) = some mean) :
    0 ≤ roundHalfEven mean ∧ roundHalfEven mean ≤ 100 ↔ -1 ≤ n ∧ n ≤ 201 := by
  rw [percentage_of_share_iff]
  constructor
  · rintro ⟨hlow, hhigh⟩
    constructor
    · by_contra hn
      have hle : (n : ℚ) / 2 ≤ ((-2 : ℤ) : ℚ) / 2 := by
        have hcast : (n : ℚ) ≤ (-2 : ℤ) := by exact_mod_cast (by omega : n ≤ -2)
        exact div_le_div_of_nonneg_right hcast zero_le_two
      have hmean := floats.near_mono hle h (floats.near_half (-2) (by norm_num))
      norm_num at hmean
      linarith
    by_contra hn
    have hle : ((202 : ℤ) : ℚ) / 2 ≤ (n : ℚ) / 2 := by
      have hcast : ((202 : ℤ) : ℚ) ≤ n := by exact_mod_cast (by omega : 202 ≤ n)
      exact div_le_div_of_nonneg_right hcast zero_le_two
    have hmean := floats.near_mono hle (floats.near_half 202 (by norm_num)) h
    norm_num at hmean
    linarith
  rintro ⟨hlow, hhigh⟩
  have hexact := floats.near_half n (by rw [abs_le]; constructor <;> omega)
  rw [h, Option.some.injEq] at hexact
  have hlow' : (-1 : ℚ) ≤ n := by exact_mod_cast hlow
  have hhigh' : (n : ℚ) ≤ 201 := by exact_mod_cast hhigh
  constructor <;> linarith

theorem forall_rows_added {s : MasterySession} (hs : ∀ r ∈ s.rows, Percentage r) :
    (∀ r ∈ MasterySession.rows { s with added := s.added ++ [row] }, Percentage r)
      ↔ Percentage row := by
  have hrows : MasterySession.rows { s with added := s.added ++ [row] } = s.rows ++ [row] :=
    (List.append_assoc ..).symm
  rw [hrows, List.forall_mem_append, List.forall_mem_singleton, and_iff_right hs]

theorem forall_rows_written {s : MasterySession} (hs : ∀ r ∈ s.rows, Percentage r)
    (h : oneOrNone key s.found = some (some row)) (f : MasteryRow → MasteryRow) :
    (∀ r ∈ MasterySession.rows { s with found := writeRow key f s.found }, Percentage r)
      ↔ Percentage (f row) := by
  obtain ⟨hfound, hadded⟩ := List.forall_mem_append.1 hs
  rw [MasterySession.rows, List.forall_mem_append, forall_writeRow_iff h hfound,
    and_iff_left hadded]

/-- **A signal keeps every row a percentage exactly when it is in range.** -/
theorem applySignal_iff {s s' : MasterySession} {sig : StudentSignal}
    (hs : ∀ r ∈ s.rows, Percentage r)
    (h : MasteryService.applySignal floats texts tenantId studentId sig s = some s') :
    (∀ r ∈ s'.rows, Percentage r) ↔ InRange floats texts tenantId studentId s (.signal sig) := by
  unfold MasteryService.applySignal at h
  cases htopic : sig.counted with
  | none =>
    rw [htopic] at h
    cases h
    exact iff_of_true hs (by simp [InRange, htopic])
  | some topic =>
    simp only [htopic, Option.bind_eq_bind, Option.bind_eq_some_iff] at h
    obtain ⟨pct, hpct, one, hone, h⟩ := h
    simp only [InRange, htopic, Option.mem_some_iff, forall_eq', hone]
    unfold MasteryService.pct at hpct
    cases hscored : sig.scored with
    | none =>
      rw [hscored] at hpct
      cases hpct
      refine iff_of_true ?_ (by simp)
      cases one with
      | none =>
        cases h
        exact (forall_rows_added hs).2 ⟨by norm_num, by norm_num, by norm_num⟩
      | some row =>
        cases h
        exact hs
    | some marks =>
      obtain ⟨score, maxScore⟩ := marks
      rw [hscored] at hpct
      obtain ⟨share, hshare, hpct⟩ := Option.map_eq_some_iff.1 hpct
      subst hpct
      simp only [Option.mem_some_iff, forall_eq', hshare]
      cases one with
      | none =>
        cases h
        rw [forall_rows_added hs, ShareInRange, ← percentage_of_share_iff]
        refine ⟨fun hrow => ⟨hrow.low, hrow.high⟩, fun hrow => ⟨hrow.1, hrow.2, ?_⟩⟩
        simp only [Option.any_some]
        split <;> norm_num
      | some row =>
        simp only [Option.bind_eq_some_iff] at h
        obtain ⟨mean, hmean, h⟩ := h
        cases h
        have hcounts := (hs row (List.mem_append_left _ (mem_of_oneOrNone hone).1)).counts
        rw [forall_rows_written hs hone, ShareInRange, ← percentage_of_mean_iff hmean]
        exact ⟨fun hrow => ⟨hrow.low, hrow.high⟩, fun hrow => ⟨hrow.1, hrow.2, hcounts⟩⟩

/-- Marks between 0 and the maximum are in range. -/
theorem inRange_of_marks {s : MasterySession} {sig : StudentSignal}
    (hs : ∀ r ∈ s.rows, Percentage r)
    (hmarks : ∀ marks ∈ sig.scored, ∃ a b, marks = (.finite a, .finite b) ∧ 0 ≤ a ∧ a ≤ b) :
    InRange floats texts tenantId studentId s (.signal sig) := by
  intro topic _ marks hscored share hshare
  obtain ⟨a, b, rfl, ha, hab⟩ := hmarks marks hscored
  obtain ⟨hlow, hhigh⟩ := FloatRules.percent_mem ha hab hshare
  cases hone : oneOrNone (tenantId, studentId, topicKey texts topic none) s.found with
  | none => trivial
  | some one =>
    cases one with
    | none => constructor <;> linarith
    | some row =>
      have hrow := hs row (List.mem_append_left _ (mem_of_oneOrNone hone).1)
      have hshare : 0 ≤ roundHalfEven share ∧ roundHalfEven share ≤ 100 :=
        percentage_of_share_iff.2 ⟨by linarith, by linarith⟩
      constructor <;> linarith [hrow.low, hrow.high, hshare.1, hshare.2]

theorem ensureWeakTopic_percentage {s s' : MasterySession} {topic : String}
    (hs : ∀ r ∈ s.rows, Percentage r)
    (h : MasteryService.ensureWeakTopic texts tenantId studentId topic s = some s') :
    ∀ r ∈ s'.rows, Percentage r := by
  simp only [MasteryService.ensureWeakTopic, Option.bind_eq_bind, Option.bind_eq_some_iff] at h
  obtain ⟨one, hone, h⟩ := h
  cases one with
  | none =>
    cases h
    exact (forall_rows_added hs).2 ⟨by norm_num, by norm_num, le_rfl⟩
  | some row =>
    have hrow := hs row (List.mem_append_left _ (mem_of_oneOrNone hone).1)
    dsimp only at h
    split at h
    · cases h
      exact (forall_rows_written hs hone _).2 ⟨by norm_num, by norm_num, hrow.counts⟩
    cases h
    exact hs

/-- A quiz keeps its result within the bounds itself. -/
theorem recordQuizResult_percentage (hrows : ∀ r ∈ rows, Percentage r) (subjectId : Option String)
    (topic : String) (correct fault : Bool) :
    ∀ r ∈ MasteryService.recordQuizResult floats texts tenantId studentId subjectId topic correct
      fault rows, Percentage r := by
  unfold MasteryService.recordQuizResult
  dsimp only
  split
  · exact hrows
  split
  · exact hrows
  · refine List.forall_mem_append.2 ⟨hrows, List.forall_mem_singleton.2 ?_⟩
    cases correct <;> exact ⟨by norm_num, by norm_num, by norm_num⟩
  rename_i row hone
  split
  · exact hrows
  refine (forall_writeRow_iff hone hrows _).2 ⟨le_min (by norm_num) (le_max_left _ _),
    min_le_left _ _, ?_⟩
  have hcounts := (hrows row (mem_of_oneOrNone hone).1).counts
  dsimp only
  split <;> omega

/-- What a session has found and adds, as long as it has not failed. -/
theorem session_percentage {session : Option MasterySession} {updates : List TopicUpdate}
    (hs : ∀ s ∈ session, ∀ r ∈ s.rows, Percentage r)
    (h : Along (sessionStep floats texts tenantId studentId) (fun session update =>
      ∀ s ∈ session, InRange floats texts tenantId studentId s update) session updates) :
    ∀ s ∈ run (sessionStep floats texts tenantId studentId) session updates,
      ∀ r ∈ s.rows, Percentage r := by
  refine along_invariant (I := fun session : Option MasterySession =>
    ∀ s ∈ session, ∀ r ∈ s.rows, Percentage r) ?_ hs h
  intro session update hs hin s' hs'
  obtain ⟨s, rfl, hupdate⟩ := Option.bind_eq_some_iff.1 (Option.mem_def.1 hs')
  cases update with
  | signal sig => exact (applySignal_iff (hs s rfl) hupdate).2 (hin s rfl)
  | weakTopic topic => exact ensureWeakTopic_percentage (hs s rfl) hupdate

theorem rollupFromSignals_percentage (hrows : ∀ r ∈ rows, Percentage r)
    {signals : Option StudentSignals} {fault : Bool}
    (h : SignalsInRange floats texts rows (.signals tenantId signals fault)) :
    ∀ r ∈ MasteryService.rollupFromSignals floats texts tenantId signals fault rows,
      Percentage r := by
  unfold MasteryService.rollupFromSignals
  cases signals with
  | none => exact hrows
  | some signals =>
    have hrun := session_percentage (by simpa [MasterySession.rows] using hrows) (h signals rfl)
    dsimp only
    split
    · exact hrows
    rename_i s hs
    split
    · exact hrows
    · exact hrun s hs

end Kept

/-- **Mastery stays a percentage** in every run whose signals are in range. -/
theorem mastery_kept (floats : FloatRules) (texts : TextRules) (events : List MasteryEvent)
    (h : Along (masteryStep floats texts) (SignalsInRange floats texts) [] events) :
    ∀ pre, pre <+: events → ∀ row ∈ run (masteryStep floats texts) [] pre, Percentage row := by
  intro pre hpre
  refine along_invariant_throughout (I := fun rows : List MasteryRow =>
    ∀ row ∈ rows, Percentage row) ?_ (by simp) h hpre
  intro rows event hrows hin
  cases event with
  | quiz tenantId studentId subjectId topic correct fault =>
    exact recordQuizResult_percentage hrows subjectId topic correct fault
  | signals tenantId signals fault => exact rollupFromSignals_percentage hrows hin

/-- The marks of a signal are numbers from 0 to the maximum. -/
def MarksFit : TopicUpdate → Prop
  | .weakTopic _ => True
  | .signal sig => ∀ marks ∈ sig.scored, ∃ a b, marks = (.finite a, .finite b) ∧ 0 ≤ a ∧ a ≤ b

def MasteryEvent.marksFit : MasteryEvent → Prop
  | .quiz .. => True
  | .signals _ given _ => ∀ known ∈ given, ∀ update ∈ known.updates, MarksFit update

theorem signalsInRange_of_marksFit {floats : FloatRules} {texts : TextRules}
    {rows : List MasteryRow} {event : MasteryEvent} (hrows : ∀ r ∈ rows, Percentage r)
    (hfit : event.marksFit) : SignalsInRange floats texts rows event := by
  cases event with
  | quiz => trivial
  | signals tenantId signals fault =>
    intro known hknown
    have hin : ∀ (session : Option MasterySession) (update : TopicUpdate),
        (∀ s ∈ session, ∀ r ∈ s.rows, Percentage r) → MarksFit update →
        ∀ s ∈ session, InRange floats texts tenantId known.studentId s update := by
      intro session update hsession hmarks s hs
      cases update with
      | weakTopic topic => trivial
      | signal sig => exact inRange_of_marks (hsession s hs) hmarks
    refine Along.of_invariant (fun session update hsession hmarks => ?_) hin ?_
      (along_of_forall (hfit known hknown))
    · have hone : Along (sessionStep floats texts tenantId known.studentId) (fun session update =>
          ∀ s ∈ session, InRange floats texts tenantId known.studentId s update) session [update] :=
        ⟨hin session update hsession hmarks, trivial⟩
      exact session_percentage hsession hone
    · simpa [MasterySession.rows] using hrows

/-- **Mastery stays a percentage** as long as marks are from 0 to their maximum. -/
theorem mastery_of_marks (floats : FloatRules) (texts : TextRules) (events : List MasteryEvent)
    (h : ∀ event ∈ events, event.marksFit) :
    ∀ row ∈ run (masteryStep floats texts) [] events, Percentage row := by
  refine along_invariant (I := fun rows : List MasteryRow => ∀ row ∈ rows, Percentage row)
    (fun rows event hrows hfit => ?_) (by simp) (along_of_forall h)
  have hin : SignalsInRange floats texts rows event := signalsInRange_of_marksFit hrows hfit
  cases event with
  | quiz tenantId studentId subjectId topic correct fault =>
    exact recordQuizResult_percentage hrows subjectId topic correct fault
  | signals tenantId signals fault => exact rollupFromSignals_percentage hrows hin

namespace Example

def texts : TextRules where
  strip := id
  lower := id

/-- A test with a score, out of 100. -/
def marks (score : ℚ) : MasteryEvent :=
  .signals "school" (some
    { studentId := "ada"
      signals := [{ source := "cbt", topic := some "algebra"
                    score := some (.finite score), maxScore := some (.finite 100) }] }) false

end Example

instance (floats : FloatRules) (texts : TextRules) (rows : List MasteryRow) (e : MasteryEvent) :
    Decidable (SignalsInRange floats texts rows e) := by
  unfold SignalsInRange
  split <;> infer_instance

theorem mastery_of_marks_example :
    ¬ ∃ row ∈ run (masteryStep .exact Example.texts) [] [Example.marks 80], ¬ Percentage row := by
  rintro ⟨row, hrow, hover⟩
  refine hover (mastery_of_marks .exact Example.texts _ ?_ row hrow)
  simp [Example.marks, MasteryEvent.marksFit, StudentSignals.updates, MarksFit,
    StudentSignal.scored]
  intro a b hmarks
  simp [Option.filter_some, Float64.positive] at hmarks
  obtain ⟨rfl, rfl⟩ := hmarks
  exact ⟨80, 100, ⟨rfl, rfl⟩, by norm_num, by norm_num⟩

theorem mastery_kept_example :
    ¬ ∃ row ∈ run (masteryStep .exact Example.texts) []
      [Example.marks 80, .quiz "school" "ada" none "algebra" true false], ¬ Percentage row :=
  fun ⟨row, hrow, hover⟩ => hover
    (mastery_kept .exact Example.texts _ (by decide +kernel) _ List.prefix_rfl row hrow)

/-- Marks of 150 out of 100 are a mastery of 150. -/
theorem mastery_over_hundred :
    ¬ ∀ floats texts events, ∀ pre, pre <+: events →
      ∀ row ∈ run (masteryStep floats texts) [] pre, Percentage row := by
  intro h
  exact absurd (h .exact Example.texts [Example.marks 150] _ List.prefix_rfl) (by decide +kernel)

end MultiAcademy.Tutor
